import HostChannel.Proofs.Session.Books

/-!
# The stock of a session

Beside buffers and jobs, a session keeps mappings, and pushbuffers that belong to no job. A mapping
may outlive its buffer, and a pushbuffer keeps its buffer's allocation alive, so neither is found
through the buffers of the session; both still keep within an allocation of the ledger. `Stocked`
says so, together with the books. Most operations leave the stock as it is (`perform_sameStock`);
the others put into it what they have just looked up in the books.
-/

namespace HostChannel

open HostChannel.Action (Moves Preserves Upholds)

/-- The pushbuffer is sound and on an allocation of the ledger, and so is what its relocations aim
at. -/
structure PushBuffer.Known (ledger : List Allocation) (pushbuffer : PushBuffer) : Prop where
  /-- The buffer is a window on an allocation of the ledger. -/
  buffer : pushbuffer.buffer.Known ledger
  /-- The pushbuffer is sound. -/
  sound : pushbuffer.Sound
  /-- Its relocations aim at allocations of the ledger. -/
  aims : ∀ relocation ∈ pushbuffer.relocations, relocation.Aims ledger pushbuffer

/-- A pushbuffer that is known stays known when the ledger grows. -/
theorem PushBuffer.Known.grown {ledger : List Allocation} {pushbuffer : PushBuffer}
    (known : pushbuffer.Known ledger) (more : List Allocation) :
    pushbuffer.Known (ledger ++ more) := by
  have aim : AllAim ledger [pushbuffer] := fun other member =>
    List.mem_singleton.mp member ▸ known.aims
  exact ⟨known.buffer.grown more, known.sound, aim.grown more pushbuffer List.mem_cons_self⟩

/-- It stays known when known entries are pushed to it. -/
theorem PushBuffer.Known.pushed {ledger : List Allocation} {pushbuffer : PushBuffer}
    (known : pushbuffer.Known ledger) {entries : List Entry}
    (still : (pushbuffer.pushed entries).Sound)
    (entriesKnown : ∀ entry ∈ entries, entry.Known ledger) :
    (pushbuffer.pushed entries).Known ledger :=
  ⟨known.buffer, still, aims_pushed known.aims still entriesKnown⟩

/-- The operation names or forgets a mapping, or makes, changes or gives up a pushbuffer that
belongs to no job. -/
def Operation.stocks : Operation → Bool
  | .buffer (.map _ _) => true
  | .buffer (.mapping _ _) => true
  | .mapping (.release _) => true
  | .pushbuffer (.openAt _ _ _) => true
  | .pushbuffer (.release _) => true
  | .pushbuffer (.push (.named _) _) => true
  | .pushbuffer (.pushSingle (.named _) _) => true
  | .pushbuffer (.pushWords (.named _) _) => true
  | .pushbuffer (.relocate (.named _) _ _ _) => true
  | .pushbuffer (.select (.named _)) => true
  | _ => false

namespace Session

/-- Both sessions have the same mappings and the same pushbuffers that belong to no job. -/
structure SameStock (first second : Session) : Prop where
  /-- The mappings are the same. -/
  mappings : second.mappings = first.mappings
  /-- The pushbuffers are. -/
  pushbuffers : second.pushbuffers = first.pushbuffers

instance : IsPreorder Session SameStock where
  refl _ := ⟨rfl, rfl⟩
  trans _ _ _ earlier later :=
    ⟨later.mappings.trans earlier.mappings, later.pushbuffers.trans earlier.pushbuffers⟩

/-- No action on the host changes the stock. -/
theorem onHost_sameStock {α : Type} (action : Action (Host (Instrumented Simulator)) α) :
    Moves SameStock (onHost action) :=
  fun _ => ⟨rfl, rfl⟩

/-- Nor does one on the device. -/
theorem onDevice_sameStock {α : Type} (action : Action (Instrumented Simulator) α) :
    Moves SameStock (onDevice action) :=
  onHost_sameStock _

/-- Nor does one on a job beside the device. -/
theorem onJob_sameStock {α : Type} (name : String)
    (action : Action (Job × Instrumented Simulator) α) : Moves SameStock (onJob name action) :=
  Moves.bind (find_moves jobs name) fun _ _ => ⟨rfl, rfl⟩

/-- An object of another kind may take a name over. -/
theorem takeOver_sameStock {α : Type} {view : Session → Option α} {change : Session → Session}
    {release : α → Action Session Unit} (changed : ∀ session, SameStock session (change session))
    (released : ∀ object, Moves SameStock (release object)) :
    Moves SameStock (do
      let before ← Action.read view
      Action.update change
      giveUp release before) := by
  refine Moves.bind (Moves.read view) fun before => Moves.bind (Moves.update changed) fun _ => ?_
  cases before with
  | none => exact Moves.pure ()
  | some object => exact released object

/-- A pushbuffer of a job may be changed. -/
theorem changeInJob_sameStock (name : String) (index : Nat)
    (change : PushBuffer → Action (Instrumented Simulator) PushBuffer) :
    Moves SameStock (changePushBuffer (.inJob name index) change) :=
  Moves.bind (find_moves jobs name) fun _ => Moves.bind (Moves.check _) fun _ =>
    Moves.bind (onDevice_sameStock _) fun _ =>
      Moves.bind (Moves.update fun _ => ⟨rfl, rfl⟩) fun _ => Moves.pure _

/-- Operations on buffers other than mapping leave the stock alone. -/
theorem bufferOperation_sameStock {operation : BufferOperation}
    (beside : (Operation.buffer operation).stocks = false) :
    Moves SameStock (bufferOperation operation) := by
  have keeps : ∀ name buffer, Moves SameStock (keepBuffer name buffer) := fun name buffer =>
    takeOver_sameStock (fun _ => ⟨rfl, rfl⟩) fun _ => onHost_sameStock _
  cases operation with
  | allocate name size flags pretending =>
    refine Moves.bind (fun _ => ⟨rfl, rfl⟩) fun buffer => Moves.bind (Moves.read _) fun _ => ?_
    exact Moves.bind (keeps name buffer) fun _ => Moves.pure _
  | window name buffer offset length =>
    exact Moves.bind (find_moves _ _) fun _ => Moves.bind (onHost_sameStock _) fun made =>
      Moves.bind (Moves.read _) fun _ => Moves.bind (keeps name made) fun _ => Moves.pure _
  | describe buffer => exact Moves.bind (find_moves _ _) fun _ => Moves.read _
  | sharesAllocation first second =>
    exact Moves.bind (find_moves _ _) fun _ => Moves.bind (find_moves _ _) fun _ => Moves.pure _
  | release buffer =>
    exact Moves.bind (find_moves _ _) fun _ => Moves.bind (Moves.update fun _ => ⟨rfl, rfl⟩)
      fun _ => Moves.bind (onHost_sameStock _) fun _ => Moves.pure _
  | flush | invalidate =>
    exact Moves.bind (find_moves _ _) fun _ => Moves.bind (onDevice_sameStock _) fun _ =>
      Moves.pure _
  | map | mapping => simp [Operation.stocks] at beside

/-- So do accesses through a mapping. -/
theorem mappingOperation_sameStock {operation : MappingOperation}
    (beside : (Operation.mapping operation).stocks = false) :
    Moves SameStock (mappingOperation operation) := by
  cases operation with
  | sharesMemory first second =>
    exact Moves.bind (find_moves _ _) fun _ => Moves.bind (find_moves _ _) fun _ => Moves.pure _
  | readBytes | writeBytes | readWord | writeWord | readWords | writeWords =>
    exact Moves.bind (find_moves _ _) fun _ => Moves.bind (onDevice_sameStock _) fun _ =>
      Moves.pure _
  | release mapping => simp [Operation.stocks] at beside

/-- So do operations on the pushbuffers of jobs. -/
theorem pushBufferOperation_sameStock {operation : PushBufferOperation}
    (beside : (Operation.pushbuffer operation).stocks = false) :
    Moves SameStock (pushBufferOperation operation) := by
  cases operation with
  | openAt | release => simp [Operation.stocks] at beside
  | describe place =>
    refine Moves.bind (seePushBuffer_moves place) fun pushbuffer => ?_
    cases pushbuffer with
    | none => exact Moves.pure _
    | some pushbuffer => exact Moves.read _
  | words place =>
    refine Moves.bind (seePushBuffer_moves place) fun pushbuffer => ?_
    cases pushbuffer with
    | none => exact Moves.pure _
    | some pushbuffer => exact Moves.bind (onDevice_sameStock _) fun _ => Moves.pure _
  | push place | pushSingle place | pushWords place | select place =>
    cases place with
    | named name => simp [Operation.stocks] at beside
    | inJob name index => exact changeInJob_sameStock name index _
  | relocate place target offset shift =>
    cases place with
    | named name => simp [Operation.stocks] at beside
    | inJob name index =>
      exact Moves.bind (Moves.bind (find_moves jobs name) fun _ => Moves.pure _) fun _ =>
        Moves.bind (find_moves _ _) fun _ => changeInJob_sameStock name index _

/-- So do operations on clients and jobs. -/
theorem jobOperation_sameStock (operation : JobOperation) :
    Moves SameStock (jobOperation operation) := by
  have keeps : ∀ name job, Moves SameStock (keepJob name job) := fun name job =>
    takeOver_sameStock (fun _ => ⟨rfl, rfl⟩) fun _ => onHost_sameStock _
  cases operation with
  | openClient name engineClass =>
    exact Moves.bind (onHost_sameStock _) fun client =>
      Moves.bind (takeOver_sameStock (fun _ => ⟨rfl, rfl⟩) fun _ => onDevice_sameStock _)
        fun _ => Moves.pure _
  | releaseClient name =>
    exact Moves.bind (find_moves _ _) fun _ => Moves.bind (Moves.update fun _ => ⟨rfl, rfl⟩)
      fun _ => Moves.bind (onDevice_sameStock _) fun _ => Moves.pure _
  | createJob name client increments =>
    exact Moves.bind (find_moves _ _) fun _ => Moves.bind (Moves.check _) fun job =>
      Moves.bind (keeps name job) fun _ => Moves.pure _
  | newJob name syncpoint increments =>
    exact Moves.bind (keeps name _) fun _ => Moves.pure _
  | append name buffer offset =>
    refine Moves.bind (find_moves _ _) fun _ => Moves.bind (find_moves _ _) fun _ =>
      Moves.bind (onHost_sameStock _) fun appended =>
        Moves.bind (Moves.update fun _ => ⟨rfl, rfl⟩) fun _ => ?_
    cases appended.pushbuffers.getLast? with
    | none => exact Moves.pure _
    | some pushbuffer => exact Moves.read _
  | list job =>
    exact Moves.bind (find_moves _ _) fun _ => Moves.bind (onDevice_sameStock _) fun _ =>
      Moves.pure _
  | describe job => exact Moves.bind (find_moves _ _) fun _ => Moves.pure _
  | clientSyncpoint | toSubmission =>
    exact Moves.bind (find_moves _ _) fun _ => Moves.bind (Moves.check _) fun _ => Moves.pure _
  | release name =>
    exact Moves.bind (find_moves _ _) fun _ => Moves.bind (Moves.update fun _ => ⟨rfl, rfl⟩)
      fun _ => Moves.bind (onHost_sameStock _) fun _ => Moves.pure _
  | submit | flush | waitJob | finish =>
    exact Moves.bind (find_moves _ _) fun _ => Moves.bind (onJob_sameStock _ _) fun _ =>
      Moves.pure _

/-- Whatever does not work on the stock leaves it alone. -/
theorem perform_sameStock {operation : Operation} (beside : operation.stocks = false) :
    Moves SameStock (perform operation) := by
  cases operation with
  | buffer operation => exact bufferOperation_sameStock beside
  | mapping operation => exact mappingOperation_sameStock beside
  | pushbuffer operation => exact pushBufferOperation_sameStock beside
  | job operation => exact jobOperation_sameStock operation
  | simulator operation => exact onDevice_sameStock _
  | instrument operation =>
    cases operation with
    | arm | shorten => exact Moves.bind (onDevice_sameStock _) fun _ => Moves.pure _
  | wait operation =>
    cases operation with
    | value | wait => exact Moves.bind (onDevice_sameStock _) fun _ => Moves.pure _
    | clientWait =>
      exact Moves.bind (find_moves _ _) fun _ => Moves.bind (onDevice_sameStock _) fun _ =>
        Moves.pure _
    | spawn => exact Moves.bind (Moves.update fun _ => ⟨rfl, rfl⟩) fun _ => Moves.pure _
    | join name =>
      refine Moves.bind (find_moves _ _) fun waiter => Moves.bind (Moves.update fun _ => ⟨rfl, rfl⟩)
        fun _ => Moves.bind (Moves.read _) fun syncpoints => ?_
      cases joined syncpoints waiter with
      | ok outcome => exact Moves.pure _
      | error failure => exact Moves.fail _

/-- The books say nothing of the stock. -/
theorem Booked.withStock {ledger : List Allocation} {kept : String → List PushBuffer → Prop}
    {session : Session} (booked : session.Booked ledger kept) (mappings : Slots Mapping)
    (pushbuffers : Slots PushBuffer) :
    ({ session with mappings, pushbuffers }).Booked ledger kept :=
  ⟨booked.host, booked.buffers, booked.jobs⟩

/-- The books of the session agree with the ledger, and mappings and pushbuffers keep within
allocations of the ledger. -/
structure Stocked (ledger : List Allocation) (session : Session) : Prop where
  /-- The books agree with the ledger, and relocations of jobs aim at it. -/
  books : session.Booked ledger fun _ => AllAim ledger
  /-- Mappings are known. -/
  mappings : ∀ (name : String) (mapping : Mapping), session.mappings[name]? = some mapping →
    mapping.Known ledger
  /-- Pushbuffers that belong to no job are known. -/
  pushbuffers : ∀ (name : String) (pushbuffer : PushBuffer),
    session.pushbuffers[name]? = some pushbuffer → pushbuffer.Known ledger

variable {ledger : List Allocation}

/-- A session on a fresh device has nothing in stock. -/
theorem stocked_initial (configuration : Configuration) : (initial configuration).Stocked [] := by
  refine ⟨booked_initial configuration _, fun name mapping found => ?_,
    fun name pushbuffer found => ?_⟩
  · simp [initial] at found
  · simp [initial] at found

/-- A stock that stays as it is agrees with the ledger when the books do. -/
theorem Stocked.kept {first second : Session} (stocked : first.Stocked ledger)
    (same : SameStock first second) {more : List Allocation}
    (books : second.Booked (ledger ++ more) fun _ => AllAim ledger) :
    second.Stocked (ledger ++ more) := by
  refine ⟨books.weaken fun _ _ aim => aim.grown more, ?_, ?_⟩
  · rw [same.mappings]
    exact fun name mapping found => (stocked.mappings name mapping found).grown more
  · rw [same.pushbuffers]
    exact fun name pushbuffer found => (stocked.pushbuffers name pushbuffer found).grown more

/-- What the books allow and leaves the stock alone is allowed. -/
theorem stocked_upholds {α : Type} {property : α → Prop} {action : Action Session α}
    (upholds : Upholds (Booked ledger fun _ => AllAim ledger) action property)
    (same : Moves SameStock action) : Upholds (Stocked ledger) action property := by
  intro session stocked
  obtain ⟨books, gives⟩ := upholds session stocked.books
  have after : (action session).2.Stocked (ledger ++ []) :=
    stocked.kept (same session) (by rwa [List.append_nil])
  rw [List.append_nil] at after
  exact ⟨after, gives⟩

/-- A known mapping may be named. -/
theorem keepMapping_upholds (name : Option String) {mapping : Mapping}
    (known : mapping.Known ledger) :
    Upholds (Stocked ledger) (keepMapping name mapping) fun _ => True := by
  cases name with
  | none => exact Upholds.pure trivial
  | some name =>
    refine Upholds.update fun _ stocked =>
      ⟨stocked.books.withStock _ _, fun other held found => ?_, stocked.pushbuffers⟩
    rcases Slots.of_getElem?_insert found with ⟨-, rfl⟩ | before
    · exact known
    · exact stocked.mappings other held before

/-- A known pushbuffer may take a name over. -/
theorem Stocked.insertPushBuffer {session : Session} (stocked : session.Stocked ledger)
    (name : String) {pushbuffer : PushBuffer} (known : pushbuffer.Known ledger) :
    ({ session with
      pushbuffers := session.pushbuffers.insert name pushbuffer }).Stocked ledger := by
  refine ⟨stocked.books.withStock _ _, stocked.mappings,
    fun other held found => ?_⟩
  rcases Slots.of_getElem?_insert found with ⟨-, rfl⟩ | before
  · exact known
  · exact stocked.pushbuffers other held before

/-- Giving up a pushbuffer leaves the stock alone. -/
theorem releasePushBuffer_upholds (pushbuffer : PushBuffer) :
    Upholds (Stocked ledger) (releasePushBuffer pushbuffer) fun _ => True :=
  stocked_upholds (onHost_upholds (Host.letGo_upholds _)) (onHost_sameStock _)

/-- A known pushbuffer may be named. -/
theorem stockPushBuffer_upholds (name : String) {pushbuffer : PushBuffer}
    (known : pushbuffer.Known ledger) :
    Upholds (Stocked ledger) (keepPushBuffer name pushbuffer) fun _ => True := by
  refine Upholds.bind (Upholds.read_any _) fun before _ => Upholds.bind
    (Upholds.update fun _ stocked => stocked.insertPushBuffer name known) fun _ _ => ?_
  cases before with
  | none => exact Upholds.pure trivial
  | some old => exact releasePushBuffer_upholds old

/-- A pushbuffer that belongs to no job may be changed if it stays known. -/
theorem changeNamed_upholds {name : String}
    {change : PushBuffer → Action (Instrumented Simulator) PushBuffer}
    (goes : ∀ pushbuffer, Moves (Preserves Instrumented.Plain) (change pushbuffer))
    (stays : ∀ pushbuffer : PushBuffer, pushbuffer.Known ledger → ∀ device changed after,
      change pushbuffer device = (.ok changed, after) → changed.Known ledger) :
    Upholds (Stocked ledger) (changePushBuffer (.named name) change) fun _ => True := by
  refine Upholds.bind (find_upholds fun _ stocked => stocked.pushbuffers name)
    fun pushbuffer known => ?_
  refine Upholds.bind (stocked_upholds (onDevice_gives (goes pushbuffer) (stays pushbuffer known))
    (onDevice_sameStock _)) fun changed still => ?_
  exact Upholds.bind (Upholds.update fun _ stocked => stocked.insertPushBuffer name still)
    fun _ _ => Upholds.pure trivial

/-- Known entries may be pushed to it. -/
theorem pushesNamed_upholds {name : String}
    {change : PushBuffer → Action (Instrumented Simulator) PushBuffer} {entries : List Entry}
    (goes : ∀ pushbuffer, Moves (Preserves Instrumented.Plain) (change pushbuffer))
    (pushes : PushBuffer.Pushes change entries)
    (entriesKnown : ∀ pushbuffer device changed after,
      change pushbuffer device = (.ok changed, after) → ∀ entry ∈ entries, entry.Known ledger) :
    Upholds (Stocked ledger) (changePushBuffer (.named name) change) fun _ => True := by
  refine changeNamed_upholds goes fun pushbuffer known device changed after made => ?_
  obtain ⟨rfl, still⟩ := pushes.changed known.sound made
  exact known.pushed still (entriesKnown pushbuffer device _ after made)

/-- So may words. -/
theorem pushesNamed_words (name : String) (words : List Word) :
    Upholds (Stocked ledger)
      (changePushBuffer (.named name) fun pushbuffer => pushbuffer.pushWords words)
      fun _ => True :=
  pushesNamed_upholds (fun _ => Instrumented.movesBy_plain.pushWords _ _)
    (PushBuffer.pushes_words words) fun _ _ _ _ _ => Entry.known_words words

/-- A buffer that is found is known. -/
theorem lookUpBuffer_upholds (name : String) :
    Upholds (Stocked ledger) (findBuffer name) fun buffer => buffer.Known ledger :=
  find_upholds fun _ stocked => stocked.books.buffers name

/-- Mapping a buffer, and forgetting a mapping, is allowed. -/
theorem stocksMapping_upholds {operation : Operation} (works : operation.stocks = true)
    (beside : ∀ inner, operation ≠ .pushbuffer inner) :
    Upholds (Stocked ledger) (perform operation) fun _ => True := by
  cases operation with
  | buffer operation =>
    cases operation with
    | map name buffer =>
      refine Upholds.bind (lookUpBuffer_upholds buffer) fun found known => ?_
      refine Upholds.bind (stocked_upholds (onHost_upholds (Host.map_upholds known))
        (onHost_sameStock _)) fun mapping held => ?_
      exact Upholds.bind (keepMapping_upholds name held) fun _ _ => Upholds.pure trivial
    | mapping name buffer =>
      refine Upholds.bind (lookUpBuffer_upholds buffer) fun found known => ?_
      have looked : Upholds (Stocked ledger)
          (Action.read fun session => found.mapping? session.host) fun seen =>
            ∀ mapping, seen = some mapping → mapping.Known ledger :=
        Upholds.read fun session stocked mapping seen =>
          stocked.books.host.known_of_mapping? known seen
      refine Upholds.bind looked fun seen held => ?_
      cases seen with
      | none => exact Upholds.pure trivial
      | some mapping =>
        exact Upholds.bind (keepMapping_upholds name (held mapping rfl)) fun _ _ =>
          Upholds.pure trivial
    | _ => simp [Operation.stocks] at works
  | mapping operation =>
    cases operation with
    | release mapping =>
      refine Upholds.bind (seek_upholds mappings mapping) fun _ _ => Upholds.bind
        (Upholds.update fun _ stocked =>
          ⟨stocked.books.withStock _ _, fun other held found => ?_, stocked.pushbuffers⟩)
        fun _ _ => Upholds.pure trivial
      exact stocked.mappings other held (Slots.of_getElem?_erase found).2
    | _ => simp [Operation.stocks] at works
  | pushbuffer operation => exact absurd rfl (beside operation)
  | _ => simp [Operation.stocks] at works

/-- Opening, changing and giving up a pushbuffer that belongs to no job is allowed. -/
theorem stocksPushBuffer_upholds {operation : PushBufferOperation}
    (works : (Operation.pushbuffer operation).stocks = true) :
    Upholds (Stocked ledger) (pushBufferOperation operation) fun _ => True := by
  cases operation with
  | openAt name buffer offset =>
    refine Upholds.bind (lookUpBuffer_upholds buffer) fun found known => ?_
    refine Upholds.bind (stocked_upholds (onHost_upholds (Host.openAt_upholds known offset))
      (onHost_sameStock _)) fun opened held => ?_
    obtain ⟨⟨onKnown, sound⟩, -, relocations⟩ := held
    have openedKnown : opened.Known ledger :=
      ⟨onKnown, sound, relocations ▸ fun _ none => absurd none List.not_mem_nil⟩
    exact Upholds.bind (Upholds.read_any _) fun _ _ =>
      Upholds.bind (stockPushBuffer_upholds name openedKnown) fun _ _ => Upholds.pure trivial
  | release name =>
    refine Upholds.bind (seek_upholds pushbuffers name) fun released _ => ?_
    refine Upholds.bind (Upholds.update fun _ stocked => ?_) fun _ _ =>
      Upholds.bind (releasePushBuffer_upholds released) fun _ _ => Upholds.pure trivial
    exact ⟨stocked.books.withStock _ _, stocked.mappings,
      fun other held found => stocked.pushbuffers other held (Slots.of_getElem?_erase found).2⟩
  | push place word =>
    cases place with
    | named name => exact pushesNamed_words name [word]
    | inJob name index => simp [Operation.stocks] at works
  | pushSingle place number =>
    cases place with
    | named name => exact pushesNamed_words name [number.bits]
    | inJob name index => simp [Operation.stocks] at works
  | pushWords place words =>
    cases place with
    | named name => exact pushesNamed_words name words
    | inJob name index => simp [Operation.stocks] at works
  | relocate place target offset shift =>
    cases place with
    | named name =>
      refine Upholds.bind (checkPlace_upholds _) fun _ _ => ?_
      refine Upholds.bind (lookUpBuffer_upholds target) fun found known => ?_
      exact pushesNamed_upholds (fun _ => Instrumented.movesBy_plain.relocate _ _ _ _)
        (PushBuffer.pushes_address known.inside offset shift)
        fun _ _ _ _ made => known.entry_of_relocate made
    | inJob name index => simp [Operation.stocks] at works
  | select place =>
    cases place with
    | named name =>
      refine changeNamed_upholds (fun pushbuffer => Moves.pure pushbuffer) ?_
      intro pushbuffer known device changed after made
      obtain rfl := Except.ok.inj (Prod.mk.inj made).1
      exact known
    | inJob name index => simp [Operation.stocks] at works
  | describe | words => simp [Operation.stocks] at works

/-- Every plain operation keeps books and stock with what it adds to the ledger, which is handed
out. -/
theorem perform_stocked {operation : Operation} (plain : operation.plain = true)
    {session : Session} (stocked : session.Stocked ledger) :
    ∃ more, (perform operation session).2.Stocked (ledger ++ more) ∧
      ∀ allocation ∈ more,
        (perform operation session).2.simulator.HandedOut allocation.handle allocation.size := by
  cases works : operation.stocks with
  | false =>
    obtain ⟨more, books, handed⟩ :=
      perform_booked plain (fun _ _ => builds_allAim ledger) stocked.books
    exact ⟨more, stocked.kept (perform_sameStock works session) books, handed⟩
  | true =>
    have upheld : Upholds (Stocked ledger) (perform operation) fun _ => True := by
      by_cases onPushBuffer : ∃ inner, operation = .pushbuffer inner
      · obtain ⟨inner, rfl⟩ := onPushBuffer
        exact stocksPushBuffer_upholds works
      · exact stocksMapping_upholds works fun inner same => onPushBuffer ⟨inner, same⟩
    refine ⟨[], ?_, fun allocation member => absurd member List.not_mem_nil⟩
    rw [List.append_nil]
    exact (upheld session stocked).1

/-- Books and stock of the session agree with some ledger, and the device has handed out all of
it. -/
def Supplied (session : Session) : Prop :=
  ∃ ledger, session.Stocked ledger ∧
    ∀ allocation ∈ ledger, session.simulator.HandedOut allocation.handle allocation.size

/-- Every plain operation leaves a session supplied. -/
theorem Supplied.perform {operation : Operation} (plain : operation.plain = true)
    {session : Session} (supplied : session.Supplied) :
    (Session.perform operation session).2.Supplied := by
  obtain ⟨ledger, stocked, handed⟩ := supplied
  obtain ⟨more, after, added⟩ := perform_stocked plain stocked
  exact ⟨ledger ++ more, after, handedOut_perform handed added⟩

/-- A session on a fresh device is supplied. -/
theorem supplied_initial (configuration : Configuration) : (initial configuration).Supplied :=
  ⟨[], stocked_initial configuration, by simp⟩

/-- Wherever a run of plain operations takes a session on a fresh device, it is supplied. -/
theorem supplied_run (configuration : Configuration) {operations : List Operation}
    (plain : ∀ operation ∈ operations, operation.plain = true) :
    ((initial configuration).run operations).Supplied :=
  run_keeps (fun _ _ plain supplied => supplied.perform plain) plain
    (supplied_initial configuration)

end Session

end HostChannel
