import HostChannel.Proofs.Aims
import HostChannel.Proofs.Client.Beside
import HostChannel.Proofs.Host
import HostChannel.Proofs.Job.Building
import HostChannel.Proofs.Session.Reach
import HostChannel.Proofs.Slots

/-!
# The books of a session

Every buffer of a session is a window on an allocation of the ledger, and every pushbuffer of a
job is sound and on such an allocation. `Booked` says so, and says of each job something more
that the caller chooses; an operation keeps it of all jobs that it does not build, and of the job
that it builds if building keeps it (`Builds`). So the same case analysis over the operations gives
both what holds of all jobs and that the pushbuffers of a job are left alone by everything that is
not about them.
-/

namespace HostChannel

open HostChannel.Action (Moves Preserves Upholds)

/-- The operation lets no buffer seem other than it is. -/
def Operation.plain : Operation → Bool
  | .buffer (.allocate _ _ _ pretending) => !pretending
  | .instrument (.shorten _) => false
  | _ => true

/-- The job that an operation makes, or whose pushbuffers it adds to. -/
def Operation.builds? : Operation → Option String
  | .job (.createJob name _ _) => some name
  | .job (.newJob name _ _) => some name
  | .job (.append name _ _) => some name
  | .pushbuffer (.push (.inJob name _) _) => some name
  | .pushbuffer (.pushSingle (.inJob name _) _) => some name
  | .pushbuffer (.pushWords (.inJob name _) _) => some name
  | .pushbuffer (.relocate (.inJob name _) _ _ _) => some name
  | _ => none

/-- What is asked of the pushbuffers of a job holds before there is any, and goes on to hold where
an empty one is put at the end and where entries are pushed to one of them. -/
structure Builds (ledger : List Allocation) (holds : List PushBuffer → Prop) : Prop where
  /-- It holds before there is any. -/
  none : holds []
  /-- An empty pushbuffer may be put at the end. -/
  opened : ∀ (pushbuffers : List PushBuffer) (opened : PushBuffer), holds pushbuffers →
    opened.length = 0 → opened.relocations = [] → holds (pushbuffers ++ [opened])
  /-- Entries may be pushed. -/
  pushed : ∀ (pushbuffers : List PushBuffer) (index : Nat) (pushbuffer : PushBuffer)
    (entries : List Entry), holds pushbuffers → pushbuffers[index]? = some pushbuffer →
      pushbuffer.Sound → (pushbuffer.pushed entries).Sound →
        (∀ entry ∈ entries, entry.Known ledger) →
          holds (pushbuffers.set index (pushbuffer.pushed entries))

/-- Building keeps what holds anyway. -/
theorem Builds.of_forall {ledger : List Allocation} {holds : List PushBuffer → Prop}
    (anyway : ∀ pushbuffers, holds pushbuffers) : Builds ledger holds :=
  ⟨anyway _, fun _ _ _ _ _ => anyway _, fun _ _ _ _ _ _ _ _ _ => anyway _⟩

/-- Building keeps relocations aimed at allocations of the ledger. -/
theorem builds_allAim (ledger : List Allocation) : Builds ledger (AllAim ledger) where
  none _ member := absurd member List.not_mem_nil
  opened pushbuffers opened aim _ relocations pushbuffer member := by
    rcases List.mem_append.mp member with before | new
    · exact aim pushbuffer before
    · rw [List.mem_singleton.mp new, relocations]
      exact fun _ none => absurd none List.not_mem_nil
  pushed pushbuffers index pushbuffer entries aim found _ still known other member := by
    rcases List.mem_or_eq_of_mem_set member with before | rfl
    · exact aim other before
    · exact PushBuffer.aims_pushed (aim pushbuffer (List.mem_of_getElem? found)) still known

/-- An address in a known window that was pushed is a known entry. -/
theorem Buffer.Known.entry_of_relocate {ledger : List Allocation} {target : Buffer}
    (known : target.Known ledger) {offset : UInt64} {shift : Word}
    {pushbuffer changed : PushBuffer} {device after : Instrumented Simulator}
    (made : pushbuffer.relocate target offset shift device = (.ok changed, after)) :
    ∀ entry ∈ [Entry.address target offset shift], entry.Known ledger := by
  intro entry member
  rw [List.mem_singleton.mp member]
  exact ⟨known, PushBuffer.offset_le_of_relocate made⟩

namespace Session

/-- The books of a session agree with the ledger, and of the pushbuffers of each job something
more holds. -/
structure Booked (ledger : List Allocation) (kept : String → List PushBuffer → Prop)
    (session : Session) : Prop where
  /-- The books of the host do. -/
  host : session.host.Booked ledger
  /-- Buffers are windows on allocations of the ledger. -/
  buffers : ∀ (name : String) (buffer : Buffer), session.buffers[name]? = some buffer →
    buffer.Known ledger
  /-- Pushbuffers of jobs are sound and on allocations of the ledger. -/
  jobs : ∀ (name : String) (job : Job), session.jobs[name]? = some job →
    AllKnown ledger job.pushbuffers ∧ kept name job.pushbuffers

variable {ledger : List Allocation} {kept : String → List PushBuffer → Prop}

/-- Pushbuffers of a job are sound. -/
theorem Booked.sound {session : Session} (booked : session.Booked ledger kept) {name : String}
    {job : Job} (found : session.jobs[name]? = some job) :
    ∀ pushbuffer ∈ job.pushbuffers, pushbuffer.Sound :=
  fun pushbuffer member => ((booked.jobs name job found).1 pushbuffer member).2

/-- A session on a fresh device has nothing in its books. -/
theorem booked_initial (configuration : Configuration) (kept : String → List PushBuffer → Prop) :
    (initial configuration).Booked [] kept := by
  refine ⟨⟨rfl, ?_, ⟨rfl, rfl, rfl⟩⟩, ?_, ?_⟩
  · intro serial sharing region found
    simp [initial, Host.ofDevice] at found
  · intro name buffer found
    simp [initial] at found
  · intro name job found
    simp [initial] at found

/-- What is known may be named. -/
theorem Booked.insertBuffer {session : Session} (booked : session.Booked ledger kept)
    (name : String) {buffer : Buffer} (known : buffer.Known ledger) :
    ({ session with buffers := session.buffers.insert name buffer }).Booked ledger kept := by
  refine ⟨booked.host, fun other held found => ?_, booked.jobs⟩
  rcases Slots.of_getElem?_insert found with ⟨-, rfl⟩ | before
  · exact known
  · exact booked.buffers other held before

/-- A name of a buffer may be freed. -/
theorem Booked.eraseBuffer {session : Session} (booked : session.Booked ledger kept)
    (name : String) :
    ({ session with buffers := session.buffers.erase name }).Booked ledger kept :=
  ⟨booked.host, fun other held found =>
    booked.buffers other held (Slots.of_getElem?_erase found).2, booked.jobs⟩

/-- A job may be named or replaced if its pushbuffers are known and the rest holds of them. -/
theorem Booked.insertJob {session : Session} (booked : session.Booked ledger kept) {name : String}
    {job : Job} (known : AllKnown ledger job.pushbuffers) (holds : kept name job.pushbuffers) :
    ({ session with jobs := session.jobs.insert name job }).Booked ledger kept := by
  refine ⟨booked.host, booked.buffers, fun other held found => ?_⟩
  rcases Slots.of_getElem?_insert found with ⟨rfl, rfl⟩ | before
  · exact ⟨known, holds⟩
  · exact booked.jobs other held before

/-- A name of a job may be freed. -/
theorem Booked.eraseJob {session : Session} (booked : session.Booked ledger kept) (name : String) :
    ({ session with jobs := session.jobs.erase name }).Booked ledger kept :=
  ⟨booked.host, booked.buffers, fun other held found =>
    booked.jobs other held (Slots.of_getElem?_erase found).2⟩

/-- An action on the host that its books allow is allowed by those of the session. -/
theorem onHost_upholds {α : Type} {property : α → Prop}
    {action : Action (Host (Instrumented Simulator)) α}
    (upholds : Upholds (Host.Booked ledger) action property) :
    Upholds (Booked ledger kept) (onHost action) property :=
  upholds.within (fun _ booked => booked.host) fun _ _ booked after =>
    ⟨after, booked.buffers, booked.jobs⟩

/-- An action on the device that keeps it plain is allowed. -/
theorem onDevice_upholds {α : Type} {action : Action (Instrumented Simulator) α}
    (goes : Moves (Preserves Instrumented.Plain) action) :
    Upholds (Booked ledger kept) (onDevice action) fun _ => True :=
  onHost_upholds (Host.onDevice_upholds goes)

/-- What disturbs nothing and keeps the device plain keeps the books. -/
theorem SameHolders.booked {first second : Session}
    (same : SameHolders (Preserves Instrumented.Plain) first second) :
    Preserves (Booked ledger kept) first second := by
  intro booked
  refine ⟨?_, ?_, ?_⟩
  · rw [same.host]
    exact booked.host.withDevice (same.device booked.host.plain)
  · rw [same.buffers]
    exact booked.buffers
  · rw [same.jobs]
    exact booked.jobs

/-- So it is allowed. -/
theorem upholds_of_sameHolders {α : Type} {action : Action Session α}
    (goes : Moves (SameHolders (Preserves Instrumented.Plain)) action) :
    Upholds (Booked ledger kept) action fun _ => True :=
  Upholds.of_moves fun session => (goes session).booked

/-- A buffer that is found is known. -/
theorem findBuffer_upholds (name : String) :
    Upholds (Booked ledger kept) (findBuffer name) fun buffer => buffer.Known ledger :=
  find_upholds fun _ booked => booked.buffers name

/-- A job that is found has known pushbuffers, of which the rest holds. -/
theorem findJob_upholds (name : String) :
    Upholds (Booked ledger kept) (findJob name) fun job =>
      AllKnown ledger job.pushbuffers ∧ kept name job.pushbuffers :=
  find_upholds fun _ booked => booked.jobs name

/-- What had a name before may be given up. -/
theorem giveUp_upholds {α : Type} {release : α → Action Session Unit}
    (upholds : ∀ object, Upholds (Booked ledger kept) (release object) fun _ => True)
    (before : Option α) : Upholds (Booked ledger kept) (giveUp release before) fun _ => True := by
  cases before with
  | none => exact Upholds.pure trivial
  | some object => exact upholds object

/-- An object may take a name over if the new slots are in accord with the ledger and the old
object may be given up. -/
theorem takeOver_upholds {α : Type} {view : Session → Option α} {change : Session → Session}
    {release : α → Action Session Unit}
    (changed : ∀ session, session.Booked ledger kept → (change session).Booked ledger kept)
    (released : ∀ object, Upholds (Booked ledger kept) (release object) fun _ => True) :
    Upholds (Booked ledger kept) (do
      let before ← Action.read view
      Action.update change
      giveUp release before) fun _ => True :=
  Upholds.bind (Upholds.read_any view) fun before _ =>
    Upholds.bind (Upholds.update changed) fun _ _ => giveUp_upholds released before

/-- Naming a known buffer is allowed. -/
theorem keepBuffer_upholds (name : String) {buffer : Buffer} (known : buffer.Known ledger) :
    Upholds (Booked ledger kept) (keepBuffer name buffer) fun _ => True :=
  takeOver_upholds (fun _ booked => booked.insertBuffer name known) fun _ =>
    onHost_upholds (Host.letGo_upholds _)

/-- So is naming a pushbuffer that belongs to no job. -/
theorem keepPushBuffer_upholds (name : String) (pushbuffer : PushBuffer) :
    Upholds (Booked ledger kept) (keepPushBuffer name pushbuffer) fun _ => True :=
  takeOver_upholds (fun _ booked => ⟨booked.host, booked.buffers, booked.jobs⟩) fun _ =>
    onHost_upholds (Host.letGo_upholds _)

/-- A job may be named, if its pushbuffers are known and the rest holds of them. -/
theorem keepJob_upholds {name : String} {job : Job} (known : AllKnown ledger job.pushbuffers)
    (holds : kept name job.pushbuffers) :
    Upholds (Booked ledger kept) (keepJob name job) fun _ => True :=
  takeOver_upholds (fun _ booked => booked.insertJob known holds) fun _ =>
    onHost_upholds (Host.jobRelease_upholds _)

/-- An action on a job beside the device is allowed if it leaves the pushbuffers of the job. -/
theorem onJob_upholds {α : Type} (name : String) {action : Action (Job × Instrumented Simulator) α}
    (upholds : ∀ pushbuffers, Upholds (Client.Beside pushbuffers Instrumented.Plain) action
      fun _ => True) :
    Upholds (Booked ledger kept) (onJob name action) fun _ => True := by
  refine Upholds.bind (findJob_upholds name) fun job held session booked => ?_
  obtain ⟨⟨same, plain⟩, -⟩ := upholds job.pushbuffers (job, session.host.device)
    ⟨rfl, booked.host.plain⟩
  rw [← same] at held
  have moved : ({ session with
      host := { session.host with device := (action (job, session.host.device)).2.2 }
    }).Booked ledger kept := ⟨booked.host.withDevice plain, booked.buffers, booked.jobs⟩
  exact ⟨moved.insertJob held.1 held.2, fun _ _ => trivial⟩

/-- Operations on buffers keep the books, but for allocations, which add to them. -/
theorem bufferOperation_upholds (operation : BufferOperation)
    (other : ∀ name size flags pretending, operation ≠ .allocate name size flags pretending) :
    Upholds (Booked ledger kept) (bufferOperation operation) fun _ => True := by
  have moves := (@Instrumented.movesBy_plain Simulator _).toQuietBy
  cases operation with
  | allocate name size flags pretending => exact absurd rfl (other name size flags pretending)
  | window name buffer offset length =>
    refine Upholds.bind (findBuffer_upholds buffer) fun parent known => ?_
    refine Upholds.bind (onHost_upholds (Host.window_upholds known offset length))
      fun made held => ?_
    refine Upholds.bind (Upholds.read_any _) fun _ _ => ?_
    exact Upholds.bind (keepBuffer_upholds name held) fun _ _ => Upholds.pure trivial
  | release buffer =>
    refine Upholds.bind (seek_upholds buffers buffer) fun released _ => ?_
    refine Upholds.bind (Upholds.update fun _ booked => booked.eraseBuffer buffer) fun _ _ => ?_
    exact Upholds.bind (onHost_upholds (Host.letGo_upholds _)) fun _ _ => Upholds.pure trivial
  | map name buffer =>
    refine Upholds.bind (findBuffer_upholds buffer) fun found known => ?_
    refine Upholds.bind (onHost_upholds (Host.map_upholds known)) fun mapping _ => ?_
    exact Upholds.bind
      (upholds_of_sameHolders (keepMapping_steps SameHolders.steps name mapping)) fun _ _ =>
        Upholds.pure trivial
  | describe | sharesAllocation | flush | invalidate | mapping =>
    exact upholds_of_sameHolders (bufferOperation_steps SameHolders.steps moves.toWorksBy rfl)

/-- An action on the device that keeps it plain is allowed, and gives what it gives. -/
theorem onDevice_gives {α : Type} {property : α → Prop}
    {action : Action (Instrumented Simulator) α}
    (goes : Moves (Preserves Instrumented.Plain) action)
    (gives : ∀ device value after, action device = (.ok value, after) → property value) :
    Upholds (Booked ledger kept) (onDevice action) property := by
  intro session booked
  refine ⟨(onDevice_upholds goes session booked).1, fun value given => ?_⟩
  cases made : action session.host.device with
  | mk outcome after =>
    have same : outcome = .ok value := by
      rw [← given, onDevice_run made]
    exact gives _ value after (same ▸ made)

/-- A pushbuffer may be changed if it stays sound and on its buffer; and in a job, if the rest goes
on to hold. -/
theorem changePushBuffer_upholds {place : PushBufferPlace}
    {change : PushBuffer → Action (Instrumented Simulator) PushBuffer}
    (goes : ∀ pushbuffer, Moves (Preserves Instrumented.Plain) (change pushbuffer))
    (stays : ∀ pushbuffer : PushBuffer, pushbuffer.Sound → ∀ device changed after,
      change pushbuffer device = (.ok changed, after) →
        changed.buffer = pushbuffer.buffer ∧ changed.Sound)
    (holds : ∀ name index, place = .inJob name index → ∀ (pushbuffers : List PushBuffer)
      (pushbuffer : PushBuffer), kept name pushbuffers → pushbuffers[index]? = some pushbuffer →
        pushbuffer.Sound → ∀ device changed after, change pushbuffer device = (.ok changed, after) →
          kept name (pushbuffers.set index changed)) :
    Upholds (Booked ledger kept) (changePushBuffer place change) fun _ => True := by
  cases place with
  | named name =>
    refine Upholds.bind (seek_upholds pushbuffers name) fun pushbuffer _ => ?_
    refine Upholds.bind (onDevice_upholds (goes pushbuffer)) fun changed _ => ?_
    exact Upholds.bind
      (Upholds.update fun _ booked => ⟨booked.host, booked.buffers, booked.jobs⟩) fun _ _ =>
        Upholds.pure trivial
  | inJob name index =>
    refine Upholds.bind (findJob_upholds name) fun job held => ?_
    refine Upholds.bind (Upholds.check fun _ given => (Job.pushbuffer?_eq_ok_iff.mp given).2)
      fun pushbuffer found => ?_
    have known := held.1 pushbuffer (List.mem_of_getElem? found)
    refine Upholds.bind (onDevice_gives (goes pushbuffer) fun device changed after made =>
      (⟨stays pushbuffer known.2 device changed after made, ?_⟩ :
        (changed.buffer = pushbuffer.buffer ∧ changed.Sound) ∧
          kept name (job.replace index changed).pushbuffers)) fun changed same => ?_
    · exact holds name index rfl job.pushbuffers pushbuffer held.2 found known.2 device changed
        after made
    · refine Upholds.bind (Upholds.update fun _ booked => booked.insertJob ?_ same.2) fun _ _ =>
        Upholds.pure trivial
      intro other member
      rcases List.mem_or_eq_of_mem_set member with before | rfl
      · exact held.1 other before
      · exact ⟨same.1.1 ▸ known.1, same.1.2⟩

/-- Entries may be pushed to a pushbuffer, if building keeps what is asked of its job. -/
theorem pushes_upholds {place : PushBufferPlace}
    {change : PushBuffer → Action (Instrumented Simulator) PushBuffer} {entries : List Entry}
    (goes : ∀ pushbuffer, Moves (Preserves Instrumented.Plain) (change pushbuffer))
    (pushes : PushBuffer.Pushes change entries)
    (known : ∀ pushbuffer device changed after, change pushbuffer device = (.ok changed, after) →
      ∀ entry ∈ entries, entry.Known ledger)
    (builds : ∀ name index, place = .inJob name index → Builds ledger (kept name)) :
    Upholds (Booked ledger kept) (changePushBuffer place change) fun _ => True := by
  refine changePushBuffer_upholds goes ?_ ?_
  · intro pushbuffer sound device changed after made
    obtain ⟨rfl, still⟩ := pushes.changed sound made
    exact ⟨rfl, still⟩
  · intro name index same pushbuffers pushbuffer holds found sound device changed after made
    obtain ⟨rfl, still⟩ := pushes.changed sound made
    exact (builds name index same).pushed pushbuffers index pushbuffer entries holds found sound
      still (known pushbuffer device _ after made)

/-- So may words. -/
theorem pushesWords_upholds {place : PushBufferPlace} (words : List Word)
    (builds : ∀ name index, place = .inJob name index → Builds ledger (kept name)) :
    Upholds (Booked ledger kept)
      (changePushBuffer place fun pushbuffer => pushbuffer.pushWords words) fun _ => True :=
  pushes_upholds (fun _ => Instrumented.movesBy_plain.pushWords _ _)
    (PushBuffer.pushes_words words) (fun _ _ _ _ _ => Entry.known_words words) builds

/-- Operations on pushbuffers keep the books, and what else holds of jobs if building keeps it. -/
theorem pushBufferOperation_upholds (operation : PushBufferOperation)
    (builds : ∀ name, (Operation.pushbuffer operation).builds? = some name →
      Builds ledger (kept name)) :
    Upholds (Booked ledger kept) (pushBufferOperation operation) fun _ => True := by
  have moves := @Instrumented.movesBy_plain Simulator _
  cases operation with
  | openAt name buffer offset =>
    refine Upholds.bind (findBuffer_upholds buffer) fun found known => ?_
    refine Upholds.bind (onHost_upholds (Host.openAt_upholds known offset)) fun opened _ => ?_
    refine Upholds.bind (Upholds.read_any _) fun _ _ => ?_
    exact Upholds.bind (keepPushBuffer_upholds name opened) fun _ _ => Upholds.pure trivial
  | release name =>
    refine Upholds.bind (seek_upholds pushbuffers name) fun released _ => ?_
    refine Upholds.bind (Upholds.update fun _ booked =>
      ⟨booked.host, booked.buffers, booked.jobs⟩) fun _ _ => ?_
    exact Upholds.bind (onHost_upholds (Host.letGo_upholds _)) fun _ _ => Upholds.pure trivial
  | push place word =>
    exact pushesWords_upholds [word] fun name index same => builds name (by subst same; rfl)
  | pushSingle place number =>
    exact pushesWords_upholds [number.bits] fun name index same => builds name (by subst same; rfl)
  | pushWords place words =>
    exact pushesWords_upholds words fun name index same => builds name (by subst same; rfl)
  | relocate place target offset shift =>
    refine Upholds.bind (checkPlace_upholds place) fun _ _ => ?_
    refine Upholds.bind (findBuffer_upholds target) fun found known => ?_
    exact pushes_upholds (fun _ => moves.relocate _ _ _ _)
      (PushBuffer.pushes_address known.inside offset shift)
      (fun _ _ _ _ made => known.entry_of_relocate made) fun name index same =>
        builds name (by subst same; rfl)
  | select place =>
    refine changePushBuffer_upholds (fun pushbuffer => Moves.pure pushbuffer) ?_ ?_
    · intro pushbuffer sound device changed after made
      obtain ⟨same, -⟩ := Prod.mk.inj made
      obtain rfl := Except.ok.inj same
      exact ⟨rfl, sound⟩
    · intro name index _ pushbuffers pushbuffer holds found _ device changed after made
      obtain rfl := Except.ok.inj (Prod.mk.inj made).1
      obtain ⟨inside, rfl⟩ := List.getElem?_eq_some_iff.mp found
      rwa [List.set_getElem_self]
  | describe | words =>
    exact upholds_of_sameHolders (pushBufferOperation_steps SameHolders.steps rfl)

/-- No pushbuffer is known of a job without any. -/
theorem allKnown_create (syncpoint increments : Word) :
    AllKnown ledger (Job.create syncpoint increments).pushbuffers :=
  fun _ member => absurd member List.not_mem_nil

/-- Operations on jobs keep the books, and what else holds of jobs if building keeps it. -/
theorem jobOperation_upholds (operation : JobOperation)
    (builds : ∀ name, (Operation.job operation).builds? = some name →
      Builds ledger (kept name)) :
    Upholds (Booked ledger kept) (jobOperation operation) fun _ => True := by
  have moves := (@Instrumented.movesBy_plain Simulator _).toQuietBy
  cases operation with
  | createJob name client increments =>
    refine Upholds.bind (seek_upholds clients client) fun client _ => ?_
    refine Upholds.bind (Upholds.check fun _ made => Client.pushbuffers_createJob made)
      fun job empty => ?_
    have known : AllKnown ledger job.pushbuffers := by
      rw [empty]
      exact fun _ member => absurd member List.not_mem_nil
    have holds : kept name job.pushbuffers := by
      rw [empty]
      exact (builds name rfl).none
    exact Upholds.bind (keepJob_upholds known holds) fun _ _ => Upholds.pure trivial
  | newJob name syncpoint increments =>
    exact Upholds.bind (keepJob_upholds (allKnown_create syncpoint increments)
      (builds name rfl).none) fun _ _ => Upholds.pure trivial
  | append name buffer offset =>
    refine Upholds.bind (findJob_upholds name) fun job held => ?_
    refine Upholds.bind (findBuffer_upholds buffer) fun found known => ?_
    refine Upholds.bind (onHost_upholds (Host.append_upholds held.1 known offset))
      fun appended added => ?_
    obtain ⟨allKnown, opened, same, length, relocations⟩ := added
    have holds : kept name appended.pushbuffers := by
      rw [same]
      exact (builds name rfl).opened job.pushbuffers opened held.2 length relocations
    refine Upholds.bind (Upholds.update fun _ booked =>
      booked.insertJob allKnown holds) fun _ _ => ?_
    cases appended.pushbuffers.getLast? with
    | none => exact Upholds.pure trivial
    | some pushbuffer => exact Upholds.read_any _
  | release name =>
    refine Upholds.bind (seek_upholds jobs name) fun job _ => ?_
    refine Upholds.bind (Upholds.update fun _ booked => booked.eraseJob name) fun _ _ => ?_
    exact Upholds.bind (onHost_upholds (Host.jobRelease_upholds job)) fun _ _ =>
      Upholds.pure trivial
  | submit client job =>
    exact Upholds.bind (seek_upholds clients client) fun client _ =>
      Upholds.bind (onJob_upholds job fun _ => Client.submit_upholds moves client) fun _ _ =>
        Upholds.pure trivial
  | flush client job =>
    exact Upholds.bind (seek_upholds clients client) fun client _ =>
      Upholds.bind (onJob_upholds job fun _ => Client.flush_upholds moves client) fun _ _ =>
        Upholds.pure trivial
  | waitJob client job timeout =>
    exact Upholds.bind (seek_upholds clients client) fun _ _ =>
      Upholds.bind (onJob_upholds job fun _ => Client.waitJob_upholds moves timeout) fun _ _ =>
        Upholds.pure trivial
  | finish client job =>
    exact Upholds.bind (seek_upholds clients client) fun client _ =>
      Upholds.bind (onJob_upholds job fun _ => Client.finish_upholds moves client) fun _ _ =>
        Upholds.pure trivial
  | openClient | clientSyncpoint | releaseClient | describe | toSubmission | list =>
    exact upholds_of_sameHolders (jobOperation_sameHolders moves rfl)

/-- Every plain operation but an allocation keeps the books, and what else holds of jobs if building
keeps it. -/
theorem perform_upholds {operation : Operation} (plain : operation.plain = true)
    (other : ∀ name size flags pretending,
      operation ≠ .buffer (.allocate name size flags pretending))
    (builds : ∀ name, operation.builds? = some name → Builds ledger (kept name)) :
    Upholds (Booked ledger kept) (perform operation) fun _ => True := by
  have moves := (@Instrumented.movesBy_plain Simulator _).toQuietBy
  cases operation with
  | buffer operation =>
    exact bufferOperation_upholds operation fun name size flags pretending same =>
      other name size flags pretending (congrArg _ same)
  | mapping operation => exact upholds_of_sameHolders (perform_sameHolders moves rfl)
  | pushbuffer operation => exact pushBufferOperation_upholds operation builds
  | job operation => exact jobOperation_upholds operation builds
  | wait operation => exact upholds_of_sameHolders (perform_sameHolders moves rfl)
  | simulator operation => exact onDevice_upholds (Instrumented.passOn_plain _)
  | instrument operation =>
    cases operation with
    | arm method fault =>
      have armed : Moves (Preserves Instrumented.Plain)
          (Action.update fun device : Instrumented Simulator => device.arm method fault) :=
        fun _ plain => ⟨plain.honest, plain.pretended, plain.whole⟩
      exact Upholds.bind (onDevice_upholds armed) fun _ _ => Upholds.pure trivial
    | shorten bytes => simp [Operation.plain] at plain

/-- What agrees with the ledger does so when the ledger grows with the host. -/
theorem Booked.grown {session : Session} (booked : session.Booked ledger kept)
    {more : List Allocation} {host : Host (Instrumented Simulator)}
    (after : host.Booked (ledger ++ more)) :
    ({ session with host }).Booked (ledger ++ more) kept :=
  ⟨after, fun name buffer found => (booked.buffers name buffer found).grown more,
    fun name job found =>
      ⟨(booked.jobs name job found).1.grown more, (booked.jobs name job found).2⟩⟩

/-- Without pretence, a buffer is allocated on the host as it is. -/
theorem allocateBuffer_apply {session : Session} (plain : session.device.Plain) (size : UInt64)
    (flags : BufferFlags) (kept : (Buffer.allocate size flags session.host).2.device.Plain) :
    allocateBuffer size flags false session = onHost (Buffer.allocate size flags) session := by
  have settled : ∀ device : Instrumented Simulator, device.Plain →
      { device with pretending := false } = device := by
    intro device plain
    rw [← plain.honest]
  have before : ({ session with
      host := { session.host with
        device := { session.host.device with pretending := false } } } : Session) = session := by
    rw [settled session.host.device plain]
  simp only [allocateBuffer, before, onHost, Action.within_apply, settled _ kept]

/-- An allocation keeps the books with what it adds to the ledger. -/
theorem allocate_booked {session : Session} (booked : session.Booked ledger kept) (name : String)
    (size : UInt64) (flags : BufferFlags) :
    ∃ more, (bufferOperation (.allocate name size flags false) session).2.Booked
        (ledger ++ more) kept ∧
      ∀ allocation ∈ more,
        (bufferOperation (.allocate name size flags false) session).2.simulator.HandedOut
          allocation.handle allocation.size := by
  obtain ⟨more, grown, handed, known⟩ := Host.allocate_booked booked.host size flags
  have run := allocateBuffer_apply booked.host.plain size flags grown.plain
  have reached := booked.grown grown
  refine ⟨more, ?_⟩
  cases made : Buffer.allocate size flags session.host with
  | mk outcome host =>
    rw [made] at handed known reached
    have allocated : allocateBuffer size flags false session =
        (outcome, { session with host }) := by
      rw [run, onHost_run made]
    cases outcome with
    | error failure =>
      rw [bufferOperation, Action.bind_apply_of_error allocated]
      exact ⟨reached, handed⟩
    | ok buffer =>
      have named := @keepBuffer_upholds (ledger ++ more) kept name buffer (known buffer rfl)
      have moved := keepBuffer_moves (Instrumented.besideChannelsBy
        Simulator.movesBy_reaches.toBesideChannelsBy) name buffer
      have rest : (bufferOperation (.allocate name size flags false) session).2 =
          (keepBuffer name buffer { session with host }).2 := by
        rw [bufferOperation, Action.bind_apply_of_ok allocated]
        change ((keepBuffer name buffer >>= fun _ => pure _) { session with host }).2 = _
        rw [Action.bind_apply]
        split <;> simp_all
      rw [rest]
      refine ⟨(named _ reached).1, fun allocation member => ?_⟩
      exact (moved { session with host }).device.handedOut (handed allocation member)

/-- Every plain operation keeps the books with what it adds to the ledger, which is handed out, and
what else holds of jobs if building keeps it. -/
theorem perform_booked {operation : Operation} (plain : operation.plain = true)
    (builds : ∀ name, operation.builds? = some name → Builds ledger (kept name))
    {session : Session} (booked : session.Booked ledger kept) :
    ∃ more, (perform operation session).2.Booked (ledger ++ more) kept ∧
      ∀ allocation ∈ more,
        (perform operation session).2.simulator.HandedOut allocation.handle allocation.size := by
  by_cases allocates : ∃ name size flags pretending,
      operation = .buffer (.allocate name size flags pretending)
  · obtain ⟨name, size, flags, pretending, rfl⟩ := allocates
    cases pretending with
    | true => simp [Operation.plain] at plain
    | false => exact allocate_booked booked name size flags
  · refine ⟨[], ?_, fun allocation member => absurd member List.not_mem_nil⟩
    rw [List.append_nil]
    refine (perform_upholds plain ?_ builds session booked).1
    intro name size flags pretending same
    exact allocates ⟨name, size, flags, pretending, same⟩

/-- What else holds of the jobs may be said in another way. -/
theorem Booked.weaken {session : Session} (booked : session.Booked ledger kept)
    {weaker : String → List PushBuffer → Prop}
    (follows : ∀ name pushbuffers, kept name pushbuffers → weaker name pushbuffers) :
    session.Booked ledger weaker :=
  ⟨booked.host, booked.buffers, fun name job found =>
    ⟨(booked.jobs name job found).1, follows name _ (booked.jobs name job found).2⟩⟩

/-- What was handed out before an operation and what it adds to the ledger is handed out. -/
theorem handedOut_perform {operation : Operation} {session : Session} {more : List Allocation}
    (handed : ∀ allocation ∈ ledger,
      session.simulator.HandedOut allocation.handle allocation.size)
    (added : ∀ allocation ∈ more,
      (perform operation session).2.simulator.HandedOut allocation.handle allocation.size) :
    ∀ allocation ∈ ledger ++ more,
      (perform operation session).2.simulator.HandedOut allocation.handle allocation.size := by
  intro allocation member
  rcases List.mem_append.mp member with old | new
  · exact (reaches_perform operation session).handedOut (handed allocation old)
  · exact added allocation new

/-- The books of the session agree with some ledger, at whose allocations all relocations aim, and
the device has handed out all of it. -/
def Grounded (session : Session) : Prop :=
  ∃ ledger, session.Booked ledger (fun _ => AllAim ledger) ∧
    ∀ allocation ∈ ledger, session.simulator.HandedOut allocation.handle allocation.size

/-- A session on a fresh device is grounded. -/
theorem grounded_initial (configuration : Configuration) : (initial configuration).Grounded :=
  ⟨[], booked_initial configuration _, fun _ member => absurd member List.not_mem_nil⟩

/-- A plain operation leaves a grounded session grounded. -/
theorem grounded_perform {operation : Operation} (plain : operation.plain = true)
    {session : Session} (grounded : session.Grounded) :
    (perform operation session).2.Grounded := by
  obtain ⟨ledger, booked, handed⟩ := grounded
  obtain ⟨more, after, added⟩ := perform_booked plain (fun _ _ => builds_allAim ledger) booked
  exact ⟨ledger ++ more, after.weaken fun _ _ aim => aim.grown more,
    handedOut_perform handed added⟩

/-- So does a run of them. -/
theorem grounded_run {operations : List Operation}
    (plain : ∀ operation ∈ operations, operation.plain = true) {session : Session}
    (grounded : session.Grounded) : (session.run operations).Grounded :=
  run_keeps (fun _ _ plain grounded => grounded_perform plain grounded) plain grounded

end Session

end HostChannel
