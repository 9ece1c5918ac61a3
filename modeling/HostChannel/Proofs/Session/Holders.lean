import HostChannel.Proofs.Client.Beside
import HostChannel.Proofs.Holders
import HostChannel.Proofs.Job.Building
import HostChannel.Proofs.Slots

/-!
# Lifetime of allocations

The buffers, the pushbuffers and the jobs of a session refer to allocations. In whatever order they
are made and given up, and whatever fails in between, the live buffers of the simulated device are
those that are referred to, each is released once and not before the last reference to it is gone,
and the host counts the references to it as its holders.
-/

namespace HostChannel

open HostChannel.Action (Leads Moves Preserves Upholds)

/-- The operation neither allocates nor releases a buffer of the simulated device past the host, nor
makes a release fail. -/
def Operation.orderly : Operation → Bool
  | .simulator (.allocate _ _) => false
  | .simulator (.release _) => false
  | .instrument (.arm .release _) => false
  | _ => true

/-- The operation releases no buffer of the simulated device past the host, nor makes a release
fail. -/
def Operation.keepsBuffers : Operation → Bool
  | .simulator (.release _) => false
  | .instrument (.arm .release _) => false
  | _ => true

namespace Session

/-- The references that the objects of a session make to allocations: one for each buffer, for each
pushbuffer, and for each pushbuffer of a job. -/
def references (session : Session) : Multiset Allocation :=
  Slots.total Buffer.references session.buffers +
    Slots.total PushBuffer.references session.pushbuffers +
    Slots.total Job.references session.jobs

/-- The host is settled with the references of the session, beside the strangers. -/
def Balanced (strangers : List Handle) (session : Session) : Prop :=
  session.host.Settled strangers session.references

/-- The session is the origin on another host, which is settled with the references. -/
def Hosted (origin : Session) (strangers : List Handle) (references : Multiset Allocation)
    (session : Session) : Prop :=
  ∃ host, session = { origin with host } ∧ host.Settled strangers references

variable {origin : Session} {strangers : List Handle} {references : Multiset Allocation}
  {failed : Session → Prop}

/-- A session whose host is settled with its own references is balanced. -/
theorem Hosted.balanced {session : Session}
    (hosted : origin.Hosted strangers origin.references session) : session.Balanced strangers := by
  obtain ⟨host, rfl, settled⟩ := hosted
  exact settled

/-- What leads every balanced session to a balanced one upholds the balance. -/
theorem balanced_upholds {α : Type} {action : Action Session α}
    (leads : ∀ origin : Session,
      Leads (origin.Hosted strangers origin.references) action (fun _ => Balanced strangers)
        (Balanced strangers)) :
    Upholds (Balanced strangers) action fun _ => True := by
  intro session balanced
  have start : session.Hosted strangers session.references session := ⟨session.host, rfl, balanced⟩
  obtain ⟨given, lost⟩ := leads session session start
  refine ⟨?_, fun _ _ => trivial⟩
  cases made : action session with
  | mk outcome reached =>
    cases outcome with
    | ok value => exact given value reached made
    | error failure => exact lost failure reached made

/-- What is seen of a session is seen of its origin, if the host has no part in it. -/
theorem read_leads {α : Type} {view : Session → α}
    (seen : ∀ host, view { origin with host } = view origin) :
    Leads (origin.Hosted strangers references) (Action.read view)
      (fun value session => origin.Hosted strangers references session ∧ value = view origin)
      failed := by
  refine (Leads.read view).weaken (fun _ start => start) ?_ fun _ ends => ends
  rintro value session ⟨⟨host, rfl, settled⟩, same⟩
  exact ⟨⟨host, rfl, settled⟩, same.trans (seen host)⟩

/-- What is found is an object of the origin. -/
theorem find_leads {α β : Type} {slots : Session → Slots α} {name : String}
    {second : α → Action Session β} {after : β → Session → Prop}
    (seen : ∀ host, slots { origin with host } = slots origin)
    (lost : ∀ session, origin.Hosted strangers references session → failed session)
    (rest : ∀ object, (slots origin)[name]? = some object →
      Leads (origin.Hosted strangers references) (second object) after failed) :
    Leads (origin.Hosted strangers references) (find slots name >>= second) after failed := by
  have found : Leads (origin.Hosted strangers references) (find slots name)
      (fun object session => origin.Hosted strangers references session ∧
        (slots origin)[name]? = some object) failed := by
    rintro session ⟨host, rfl, settled⟩
    have start : origin.Hosted strangers references { origin with host } := ⟨host, rfl, settled⟩
    simp only [find, seen host]
    cases (slots origin)[name]? with
    | none => simpa using lost _ start
    | some object => simpa using start
  exact Leads.bind found fun object => Leads.assume (rest object)

/-- An action on the host leads the session where it leads the host. -/
theorem onHost_leads {α : Type} {action : Action (Host (Instrumented Simulator)) α}
    {after : α → Multiset Allocation} {otherwise : Host (Instrumented Simulator) → Prop}
    (leads : Leads (Host.Settled strangers references) action
      (fun value => Host.Settled strangers (after value)) otherwise)
    (lost : ∀ host, otherwise host → failed { origin with host }) :
    Leads (origin.Hosted strangers references) (onHost action)
      (fun value => origin.Hosted strangers (after value)) failed := by
  refine leads.within ?_ ?_ ?_
  · rintro session ⟨host, rfl, settled⟩
    exact settled
  · rintro session value reached ⟨host, rfl, -⟩ settled
    exact ⟨reached, rfl, settled⟩
  · rintro session reached ⟨host, rfl, -⟩ ends
    exact lost reached ends

/-- An action on the host that fails without a trace leaves a balanced session behind. -/
theorem onHost_balanced {α : Type} {action : Action (Host (Instrumented Simulator)) α}
    {after : α → Multiset Allocation}
    (leads : Leads (Host.Settled strangers origin.references) action
      (fun value => Host.Settled strangers (after value))
      (Host.Settled strangers origin.references)) :
    Leads (origin.Hosted strangers origin.references) (onHost action)
      (fun value => origin.Hosted strangers (after value)) (Balanced strangers) :=
  onHost_leads leads fun host settled => Hosted.balanced ⟨host, rfl, settled⟩

/-- Changing what the session has makes it another session on the same host. -/
theorem update_leads {change : Session → Session}
    (changed : ∀ host, change { origin with host } = { change origin with host }) :
    Leads (origin.Hosted strangers references) (Action.update change)
      (fun _ => (change origin).Hosted strangers references) failed := by
  refine Leads.update ?_
  rintro session ⟨host, rfl, settled⟩
  exact ⟨host, changed host, settled⟩

/-- An object that takes a name over is referred to from then on, and the object before it is given
up. -/
theorem takeOver_leads {α : Type} {made : Multiset Allocation} {holds : α → Multiset Allocation}
    {view : Session → Option α} {change : Session → Session} {release : α → Action Session Unit}
    (seen : ∀ host, view { origin with host } = view origin)
    (changed : ∀ host, change { origin with host } = { change origin with host })
    (law : made + origin.references = (view origin).elim 0 holds + (change origin).references)
    (released : ∀ object references,
      Leads ((change origin).Hosted strangers (holds object + references)) (release object)
        (fun _ => (change origin).Hosted strangers references) failed) :
    Leads (origin.Hosted strangers (made + origin.references)) (do
      let before ← Action.read view
      Action.update change
      giveUp release before) (fun _ => Balanced strangers) failed := by
  rw [law]
  refine Leads.bind (read_leads seen) fun before => Leads.assume fun same => ?_
  refine Leads.bind (update_leads changed) fun _ => ?_
  rw [same]
  cases view origin with
  | none =>
    rw [Option.elim_none, zero_add]
    exact Leads.pure fun _ => Hosted.balanced
  | some object =>
    exact (released object _).weaken (fun _ start => start) (fun _ _ => Hosted.balanced)
      fun _ ends => ends

/-- Giving a buffer up takes its reference away. -/
theorem releaseBuffer_leads (buffer : Buffer) (references : Multiset Allocation) :
    Leads (origin.Hosted strangers (buffer.references + references)) (releaseBuffer buffer)
      (fun _ => origin.Hosted strangers references) failed :=
  onHost_leads (Host.bufferRelease_leads buffer references) fun _ never => never.elim

/-- So does giving a pushbuffer up. -/
theorem releasePushBuffer_leads (pushbuffer : PushBuffer) (references : Multiset Allocation) :
    Leads (origin.Hosted strangers (pushbuffer.references + references))
      (releasePushBuffer pushbuffer) (fun _ => origin.Hosted strangers references) failed :=
  onHost_leads (Host.pushBufferRelease_leads pushbuffer references) fun _ never => never.elim

/-- Giving a job up takes away those of its pushbuffers. -/
theorem releaseJob_leads (job : Job) (references : Multiset Allocation) :
    Leads (origin.Hosted strangers (job.references + references)) (releaseJob job)
      (fun _ => origin.Hosted strangers references) failed :=
  onHost_leads (Host.jobRelease_leads job references) fun _ never => never.elim

/-- A new buffer may be named. -/
theorem keepBuffer_leads (name : String) (buffer : Buffer) :
    Leads (origin.Hosted strangers (buffer.references + origin.references)) (keepBuffer name buffer)
      (fun _ => Balanced strangers) failed := by
  refine takeOver_leads (fun _ => rfl) (fun _ => rfl) ?_ releaseBuffer_leads
  simp only [Session.references]
  rw [add_assoc, ← add_assoc buffer.references, Slots.total_takeOver _ name, add_assoc, add_assoc]

/-- So may a new pushbuffer. -/
theorem keepPushBuffer_leads (name : String) (pushbuffer : PushBuffer) :
    Leads (origin.Hosted strangers (pushbuffer.references + origin.references))
      (keepPushBuffer name pushbuffer) (fun _ => Balanced strangers) failed := by
  refine takeOver_leads (fun _ => rfl) (fun _ => rfl) ?_ releasePushBuffer_leads
  simp only [Session.references]
  rw [add_right_comm, add_left_comm, Slots.total_takeOver _ name, add_left_comm,
    add_right_comm _ (Slots.total Job.references _)]

/-- So may a new job. -/
theorem keepJob_leads (name : String) (job : Job) :
    Leads (origin.Hosted strangers (job.references + origin.references)) (keepJob name job)
      (fun _ => Balanced strangers) failed := by
  refine takeOver_leads (fun _ => rfl) (fun _ => rfl) ?_ releaseJob_leads
  simp only [Session.references]
  rw [add_left_comm, Slots.total_takeOver _ name, add_left_comm]

/-- The reference of a named buffer stands beside those of the rest. -/
theorem references_of_buffer {name : String} {buffer : Buffer}
    (found : origin.buffers[name]? = some buffer) :
    origin.references = buffer.references +
      { origin with buffers := origin.buffers.erase name }.references := by
  simp only [Session.references]
  rw [Slots.total_of_some found, add_assoc, add_assoc, add_assoc]

/-- So does that of a named pushbuffer. -/
theorem references_of_pushbuffer {name : String} {pushbuffer : PushBuffer}
    (found : origin.pushbuffers[name]? = some pushbuffer) :
    origin.references = pushbuffer.references +
      { origin with pushbuffers := origin.pushbuffers.erase name }.references := by
  simp only [Session.references]
  rw [Slots.total_of_some found, add_left_comm, add_assoc]

/-- So do those of a named job. -/
theorem references_of_job {name : String} {job : Job} (found : origin.jobs[name]? = some job) :
    origin.references = job.references +
      { origin with jobs := origin.jobs.erase name }.references := by
  simp only [Session.references]
  rw [Slots.total_of_some found, add_left_comm]

/-- A named job has its references beside those of the rest. -/
theorem references_insertJob (name : String) (job : Job) :
    { origin with jobs := origin.jobs.insert name job }.references =
      job.references + { origin with jobs := origin.jobs.erase name }.references := by
  simp only [Session.references]
  rw [Slots.total_insert, add_left_comm]

/-- A job may be put in the place of one with the same references. -/
theorem references_replaceJob {name : String} {job changed : Job}
    (found : origin.jobs[name]? = some job) (same : changed.references = job.references) :
    { origin with jobs := origin.jobs.insert name changed }.references = origin.references := by
  rw [references_insertJob, same, ← references_of_job found]

/-- A pushbuffer may be put in the place of one on the same buffer. -/
theorem references_replacePushBuffer {name : String} {pushbuffer changed : PushBuffer}
    (found : origin.pushbuffers[name]? = some pushbuffer)
    (same : changed.buffer = pushbuffer.buffer) :
    { origin with pushbuffers := origin.pushbuffers.insert name changed }.references =
      origin.references := by
  have equal : changed.references = pushbuffer.references := by
    rw [PushBuffer.references, same]
    rfl
  simp only [Session.references]
  rw [Slots.total_insert_of_eq found equal]

/-- The allocation of a named buffer is referred to. -/
theorem mem_references_of_buffer {name : String} {buffer : Buffer}
    (found : origin.buffers[name]? = some buffer) : buffer.allocation ∈ origin.references := by
  rw [references_of_buffer found, Buffer.references, Multiset.singleton_add]
  exact Multiset.mem_cons_self _ _

/-- A session with the same holders and the same tenure is balanced if the first one is. -/
theorem SameHolders.balanced {first second : Session}
    (same : SameHolders Instrumented.SameTenure first second) :
    Preserves (Balanced strangers) first second := by
  intro balanced
  have kept : second.references = first.references := by
    rw [Session.references, same.buffers, same.pushbuffers, same.jobs]
    rfl
  rw [Balanced, kept, same.host]
  exact Host.Settled.withDevice balanced (same.device.inUse balanced.device)

/-- What leaves the holders and the tenure alone upholds the balance. -/
theorem balanced_of_sameHolders {α : Type} {action : Action Session α}
    (goes : Moves (SameHolders Instrumented.SameTenure) action) :
    Upholds (Balanced strangers) action fun _ => True :=
  Upholds.of_moves fun session => (goes session).balanced

/-- Allocating gives a buffer that is referred to, or nothing. -/
theorem allocateBuffer_leads (size : UInt64) (flags : BufferFlags) (pretending : Bool) :
    Leads (origin.Hosted strangers origin.references) (allocateBuffer size flags pretending)
      (fun buffer => origin.Hosted strangers (buffer.references + origin.references))
      (Balanced strangers) := by
  -- Whether the device pretends sizes is no part of what a settled host has to say.
  have set : ∀ (references : Multiset Allocation) (host : Host (Instrumented Simulator))
      (pretending : Bool), host.Settled strangers references →
        ({ host with device := { host.device with pretending } }).Settled strangers references := by
    intro references host pretending settled
    refine settled.withDevice (Instrumented.SameTenure.inUse ?_ settled.device)
    exact ⟨refl_of Simulator.SameTenure host.device.inner, fun _ => rfl, rfl⟩
  rintro session ⟨host, rfl, settled⟩
  obtain ⟨given, lost⟩ := Host.allocate_leads size flags _ (set _ host pretending settled)
  refine ⟨fun buffer reached made => ?_, fun failure reached made => ?_⟩
  · obtain ⟨answer, rfl⟩ := Prod.mk.inj made
    exact ⟨_, rfl, set _ _ false (given buffer _ (Prod.ext answer rfl))⟩
  · obtain ⟨answer, rfl⟩ := Prod.mk.inj made
    exact Hosted.balanced ⟨_, rfl, set _ _ false (lost failure _ (Prod.ext answer rfl))⟩

/-- Operations on buffers uphold the balance. -/
theorem bufferOperation_balanced (operation : BufferOperation) :
    Upholds (Balanced strangers) (bufferOperation operation) fun _ => True := by
  cases operation with
  | allocate name size flags pretending =>
    refine balanced_upholds fun origin =>
      Leads.bind (allocateBuffer_leads size flags pretending) fun buffer => ?_
    exact Leads.bind (Leads.read_any _) fun _ =>
      Leads.bind (keepBuffer_leads name buffer) fun _ => Leads.pure fun _ holds => holds
  | window name buffer offset length =>
    refine balanced_upholds fun origin =>
      find_leads (fun _ => rfl) (fun _ => Hosted.balanced) fun parent found => ?_
    have member := mem_references_of_buffer found
    refine Leads.bind (onHost_balanced (Host.window_leads member offset length)) fun made => ?_
    exact Leads.bind (Leads.read_any _) fun _ =>
      Leads.bind (keepBuffer_leads name made) fun _ => Leads.pure fun _ holds => holds
  | release name =>
    refine balanced_upholds fun origin =>
      find_leads (fun _ => rfl) (fun _ => Hosted.balanced) fun released found => ?_
    rw [references_of_buffer found]
    refine Leads.bind (update_leads fun _ => rfl) fun _ => ?_
    exact Leads.bind (releaseBuffer_leads released _) fun _ => Leads.pure fun _ => Hosted.balanced
  | map name buffer =>
    refine Upholds.bind (seek_upholds buffers buffer) fun buffer _ => ?_
    have mapped : Upholds (Balanced strangers) (onHost buffer.map) fun _ => True :=
      fun session balanced =>
        ⟨(Host.map_settled buffer session.host balanced).1, fun _ _ => trivial⟩
    refine Upholds.bind mapped fun mapping _ => ?_
    exact Upholds.bind
      (balanced_of_sameHolders (keepMapping_steps SameHolders.steps name mapping)) fun _ _ =>
        Upholds.pure trivial
  | describe | sharesAllocation | flush | invalidate | mapping =>
    exact balanced_of_sameHolders
      (bufferOperation_steps SameHolders.steps Instrumented.quietBy_sameTenure.toWorksBy rfl)

/-- An action on the device that keeps the tenure is allowed, and gives what it gives. -/
theorem onDevice_leads {α : Type} {property : α → Prop}
    {action : Action (Instrumented Simulator) α} (goes : Moves Instrumented.SameTenure action)
    (gives : ∀ device value after, action device = (.ok value, after) → property value) :
    Leads (origin.Hosted strangers origin.references) (onDevice action)
      (fun value session => origin.Hosted strangers origin.references session ∧ property value)
      (Balanced strangers) := by
  rintro session ⟨host, rfl, settled⟩
  have kept := (Host.onDevice_settled goes host settled).1
  refine ⟨fun value reached made => ?_, fun failure reached made => ?_⟩
  · obtain ⟨answer, rfl⟩ := Prod.mk.inj made
    exact ⟨⟨_, rfl, kept⟩, gives host.device value _ (Prod.ext answer rfl)⟩
  · obtain ⟨-, rfl⟩ := Prod.mk.inj made
    exact Hosted.balanced ⟨_, rfl, kept⟩

/-- A job whose pushbuffer is replaced by one on the same buffer has the same references. -/
theorem references_replace {job : Job} {index : Nat} {pushbuffer changed : PushBuffer}
    (found : job.pushbuffers[index]? = some pushbuffer)
    (same : changed.buffer = pushbuffer.buffer) :
    (job.replace index changed).references = job.references := by
  have equal : changed.references = pushbuffer.references := by
    rw [PushBuffer.references, same]
    rfl
  obtain ⟨inside, rfl⟩ := List.getElem?_eq_some_iff.mp found
  have mapped : index < (job.pushbuffers.map PushBuffer.references).length := by simpa using inside
  have still : (job.pushbuffers.map PushBuffer.references)[index] = changed.references := by
    rw [List.getElem_map, equal]
  rw [Job.references, Job.replace, List.map_set, ← still, List.set_getElem_self]
  rfl

/-- A pushbuffer may be changed if it stays on its buffer. -/
theorem changePushBuffer_balanced (place : PushBufferPlace)
    {change : PushBuffer → Action (Instrumented Simulator) PushBuffer}
    (goes : ∀ pushbuffer, Moves Instrumented.SameTenure (change pushbuffer))
    (stays : ∀ (pushbuffer : PushBuffer) device changed after,
      change pushbuffer device = (.ok changed, after) → changed.buffer = pushbuffer.buffer) :
    Upholds (Balanced strangers) (changePushBuffer place change) fun _ => True := by
  refine balanced_upholds fun origin => ?_
  cases place with
  | named name =>
    refine find_leads (fun _ => rfl) (fun _ => Hosted.balanced) fun pushbuffer found => ?_
    refine Leads.bind (onDevice_leads (goes pushbuffer) (stays pushbuffer)) fun changed =>
      Leads.assume fun same => ?_
    rw [← references_replacePushBuffer found same]
    exact Leads.bind (update_leads fun _ => rfl) fun _ => Leads.pure fun _ => Hosted.balanced
  | inJob name index =>
    refine find_leads (fun _ => rfl) (fun _ => Hosted.balanced) fun job found => ?_
    refine Leads.bind (Leads.check _ fun _ => Hosted.balanced) fun pushbuffer =>
      Leads.assume fun given => ?_
    obtain ⟨-, listed⟩ := Job.pushbuffer?_eq_ok_iff.mp given
    refine Leads.bind (onDevice_leads (goes pushbuffer) (stays pushbuffer)) fun changed =>
      Leads.assume fun same => ?_
    rw [← references_replaceJob found (references_replace listed same)]
    exact Leads.bind (update_leads fun _ => rfl) fun _ => Leads.pure fun _ => Hosted.balanced

/-- Operations on pushbuffers uphold the balance. -/
theorem pushBufferOperation_balanced (operation : PushBufferOperation) :
    Upholds (Balanced strangers) (pushBufferOperation operation) fun _ => True := by
  have moves := Instrumented.quietBy_sameTenure
  cases operation with
  | openAt name buffer offset =>
    refine balanced_upholds fun origin =>
      find_leads (fun _ => rfl) (fun _ => Hosted.balanced) fun parent found => ?_
    have member := mem_references_of_buffer found
    refine Leads.bind (onHost_balanced (Host.openAt_leads member offset)) fun opened => ?_
    exact Leads.bind (Leads.read_any _) fun _ =>
      Leads.bind (keepPushBuffer_leads name opened) fun _ => Leads.pure fun _ holds => holds
  | release name =>
    refine balanced_upholds fun origin =>
      find_leads (fun _ => rfl) (fun _ => Hosted.balanced) fun released found => ?_
    rw [references_of_pushbuffer found]
    refine Leads.bind (update_leads fun _ => rfl) fun _ => ?_
    exact Leads.bind (releasePushBuffer_leads released _) fun _ =>
      Leads.pure fun _ => Hosted.balanced
  | push place word =>
    exact changePushBuffer_balanced place (fun _ => moves.pushWords _ _) fun _ _ _ _ made =>
      (PushBuffer.grown_of_pushWords made).buffer_eq
  | pushSingle place number =>
    exact changePushBuffer_balanced place (fun _ => moves.pushWords _ _) fun _ _ _ _ made =>
      (PushBuffer.grown_of_pushWords made).buffer_eq
  | pushWords place words =>
    exact changePushBuffer_balanced place (fun _ => moves.pushWords _ _) fun _ _ _ _ made =>
      (PushBuffer.grown_of_pushWords made).buffer_eq
  | relocate place target offset shift =>
    refine Upholds.bind (checkPlace_upholds place) fun _ _ =>
      Upholds.bind (seek_upholds buffers target) fun target _ => ?_
    exact changePushBuffer_balanced place (fun _ => moves.relocate _ _ _ _) fun _ _ _ _ made =>
      (PushBuffer.grown_of_relocate made).buffer_eq
  | select place =>
    exact changePushBuffer_balanced place (fun _ => Moves.pure _) fun _ _ _ _ made =>
      (congrArg PushBuffer.buffer (Action.pure_eq_ok_iff.mp made).1).symm
  | describe | words =>
    exact balanced_of_sameHolders (pushBufferOperation_steps SameHolders.steps rfl)

/-- An action on a job beside the device may do all but change the pushbuffers of the job and the
tenure of the device. -/
theorem onJob_balanced {α : Type} (name : String) {action : Action (Job × Instrumented Simulator) α}
    (upholds : ∀ pushbuffers used count,
      Upholds (Client.Beside pushbuffers (Instrumented.InUse used count)) action fun _ => True) :
    Upholds (Balanced strangers) (onJob name action) fun _ => True := by
  refine balanced_upholds fun origin =>
    find_leads (fun _ => rfl) (fun _ => Hosted.balanced) fun job found => ?_
  rintro session ⟨host, rfl, settled⟩
  obtain ⟨⟨same, use⟩, -⟩ := upholds job.pushbuffers _ _ (job, host.device) ⟨rfl, settled.device⟩
  have equal : (action (job, host.device)).2.1.references = job.references := by
    rw [Job.references, same]
    rfl
  have balanced : ({ origin with
      host := { host with device := (action (job, host.device)).2.2 }
      jobs := origin.jobs.insert name (action (job, host.device)).2.1
    } : Session).Balanced strangers := by
    change Host.Settled strangers { origin with jobs := origin.jobs.insert name _ }.references _
    rw [references_replaceJob found equal]
    exact settled.withDevice use
  refine ⟨fun value reached made => ?_, fun failure reached made => ?_⟩
  · obtain ⟨-, rfl⟩ := Prod.mk.inj made
    exact balanced
  · obtain ⟨-, rfl⟩ := Prod.mk.inj made
    exact balanced

/-- A job that has just been made refers to nothing. -/
theorem references_of_created {client : Client} {increments : Word} {job : Job}
    (made : client.createJob increments = .ok job) : job.references = 0 := by
  rw [Job.references, Client.pushbuffers_createJob made]
  rfl

/-- Operations on clients and jobs uphold the balance. -/
theorem jobOperation_balanced (operation : JobOperation) :
    Upholds (Balanced strangers) (jobOperation operation) fun _ => True := by
  cases operation with
  | createJob name client increments =>
    refine balanced_upholds fun origin =>
      find_leads (fun _ => rfl) (fun _ => Hosted.balanced) fun client _ => ?_
    refine Leads.bind (Leads.check _ fun _ => Hosted.balanced) fun job =>
      Leads.assume fun made => ?_
    rw [← zero_add origin.references, ← references_of_created made]
    exact Leads.bind (keepJob_leads name job) fun _ => Leads.pure fun _ holds => holds
  | newJob name syncpoint increments =>
    refine balanced_upholds fun origin => ?_
    rw [← zero_add origin.references]
    exact Leads.bind (keepJob_leads name (Job.create syncpoint increments)) fun _ =>
      Leads.pure fun _ holds => holds
  | append name buffer offset =>
    refine balanced_upholds fun origin =>
      find_leads (fun _ => rfl) (fun _ => Hosted.balanced) fun job found =>
        find_leads (fun _ => rfl) (fun _ => Hosted.balanced) fun parent listed => ?_
    have member := mem_references_of_buffer listed
    have appended : Leads (Host.Settled strangers origin.references) (job.append parent offset)
        (fun appended => Host.Settled strangers { origin with
          jobs := origin.jobs.insert name appended }.references)
        (Host.Settled strangers origin.references) := by
      rw [references_of_job found] at member ⊢
      simp only [references_insertJob]
      exact Host.append_leads member offset
    refine Leads.bind (onHost_balanced appended) fun appended => ?_
    refine Leads.bind (update_leads fun _ => rfl) fun _ => ?_
    cases appended.pushbuffers.getLast? with
    | none => exact Leads.pure fun _ => Hosted.balanced
    | some pushbuffer =>
      exact (Leads.read_any _).weaken (fun _ start => start) (fun _ _ => Hosted.balanced)
        fun _ ends => ends
  | release name =>
    refine balanced_upholds fun origin =>
      find_leads (fun _ => rfl) (fun _ => Hosted.balanced) fun released found => ?_
    rw [references_of_job found]
    refine Leads.bind (update_leads fun _ => rfl) fun _ => ?_
    exact Leads.bind (releaseJob_leads released _) fun _ => Leads.pure fun _ => Hosted.balanced
  | submit client job =>
    exact Upholds.bind (seek_upholds clients client) fun client _ =>
      Upholds.bind (onJob_balanced job fun _ _ _ =>
        Client.submit_upholds Instrumented.quietBy_inUse client) fun _ _ => Upholds.pure trivial
  | flush client job =>
    exact Upholds.bind (seek_upholds clients client) fun client _ =>
      Upholds.bind (onJob_balanced job fun _ _ _ =>
        Client.flush_upholds Instrumented.quietBy_inUse client) fun _ _ => Upholds.pure trivial
  | waitJob client job timeout =>
    exact Upholds.bind (seek_upholds clients client) fun _ _ =>
      Upholds.bind (onJob_balanced job fun _ _ _ =>
        Client.waitJob_upholds Instrumented.quietBy_inUse timeout) fun _ _ => Upholds.pure trivial
  | finish client job =>
    exact Upholds.bind (seek_upholds clients client) fun client _ =>
      Upholds.bind (onJob_balanced job fun _ _ _ =>
        Client.finish_upholds Instrumented.quietBy_inUse client) fun _ _ => Upholds.pure trivial
  | openClient | clientSyncpoint | releaseClient | describe | toSubmission | list =>
    exact balanced_of_sameHolders (jobOperation_sameHolders Instrumented.quietBy_sameTenure rfl)

/-- What is done to the simulated device directly keeps the tenure, if it neither allocates nor
releases. -/
theorem operation_sameTenure {operation : SimulatorOperation}
    (orderly : (Operation.simulator operation).orderly = true) :
    Moves Simulator.SameTenure (Simulator.operation operation) := by
  have moves := Simulator.quietBy_sameTenure
  refine Simulator.operation_moves
    (fun simulator request quiet _ => Simulator.respond_sameTenure simulator request quiet)
    operation ?_ ?_ (fun engineClass _ => moves.openChannel engineClass)
    fun channel _ => moves.closeChannel channel
  · rintro size flags rfl
    simp [Operation.orderly] at orderly
  · rintro handle rfl
    simp [Operation.orderly] at orderly

/-- Orderly operations on the instrumented device keep the tenure. -/
theorem instrumentOperation_sameHolders {operation : InstrumentOperation}
    (orderly : (Operation.instrument operation).orderly = true) :
    Moves (SameHolders Instrumented.SameTenure) (instrumentOperation operation) := by
  cases operation with
  | arm method fault =>
    have other : method ≠ .release := by
      rintro rfl
      simp [Operation.orderly] at orderly
    exact Moves.bind (onDevice_sameHolders (Moves.update fun device =>
      Instrumented.arm_sameTenure device other fault)) fun _ => Moves.pure _
  | shorten bytes =>
    exact Moves.bind (onDevice_sameHolders (Moves.update fun device =>
      ⟨refl_of Simulator.SameTenure device.inner, fun _ => rfl, rfl⟩)) fun _ => Moves.pure _

/-- Every orderly operation upholds the balance. -/
theorem perform_balanced {operation : Operation} (orderly : operation.orderly = true) :
    Upholds (Balanced strangers) (perform operation) fun _ => True := by
  have moves := Instrumented.quietBy_sameTenure
  cases operation with
  | buffer operation => exact bufferOperation_balanced operation
  | mapping operation => exact balanced_of_sameHolders (perform_sameHolders moves rfl)
  | pushbuffer operation => exact pushBufferOperation_balanced operation
  | job operation => exact jobOperation_balanced operation
  | wait operation => exact balanced_of_sameHolders (perform_sameHolders moves rfl)
  | simulator operation =>
    exact balanced_of_sameHolders (onDevice_sameHolders
      (Instrumented.passOn_sameTenure (operation_sameTenure orderly)))
  | instrument operation => exact balanced_of_sameHolders (instrumentOperation_sameHolders orderly)

/-- A new session is balanced. -/
theorem balanced_initial (configuration : Configuration) : (initial configuration).Balanced [] := by
  have none : (initial configuration).references = 0 := by
    simp only [Session.references, initial, Slots.total_empty, add_zero]
  rw [Balanced, none]
  refine ⟨fun _ member => absurd member (Multiset.notMem_zero _),
    fun _ member => absurd member (Multiset.notMem_zero _),
    fun _ member => absurd member (Multiset.notMem_zero _), fun _ => rfl,
    fun _ member => absurd member (Multiset.notMem_zero _), ?_⟩
  refine (Instrumented.inUse_initial configuration.simulator).congr fun handle => ?_
  simp [Host.Uses]

/-- Every run of orderly operations upholds the balance. -/
theorem run_balanced {operations : List Operation}
    (orderly : ∀ operation ∈ operations, operation.orderly = true) {session : Session}
    (balanced : session.Balanced strangers) : (session.run operations).Balanced strangers :=
  run_keeps (fun _ session orderly balanced => (perform_balanced orderly session balanced).1) orderly
    balanced

/-- A buffer that is allocated on the simulated device past the host is a stranger to it. -/
theorem allocateDirectly_balanced {session : Session} (balanced : session.Balanced strangers)
    (size : UInt64) (flags : BufferFlags) :
    ∃ others, (perform (.simulator (.allocate size flags)) session).2.Balanced others := by
  have inner : (Instrumented.passOn (Simulator.operation (.allocate size flags))
      session.host.device).2.inner = (Simulator.allocate size session.host.device.inner).2 :=
    Action.bind_pure_leaves (Simulator.allocate size) _ _
  rcases balanced.device.allocated inner rfl rfl with
    ⟨_, -, use⟩ | ⟨handle, -, unused, use⟩
  · exact ⟨strangers, Host.Settled.withDevice balanced use⟩
  · exact ⟨handle :: strangers, Host.Settled.addStranger balanced unused use⟩

/-- Whoever allocates buffers, a session is balanced beside some strangers, as long as no buffer is
released past the host. -/
theorem perform_balanced_beside {operation : Operation} (keeps : operation.keepsBuffers = true)
    {session : Session} (balanced : session.Balanced strangers) :
    ∃ others, (perform operation session).2.Balanced others := by
  by_cases orderly : operation.orderly = true
  · exact ⟨strangers, (perform_balanced orderly session balanced).1⟩
  · unfold Operation.orderly at orderly
    split at orderly
    · exact allocateDirectly_balanced balanced _ _
    · simp [Operation.keepsBuffers] at keeps
    · simp [Operation.keepsBuffers] at keeps
    · exact absurd rfl orderly

/-- The allocations of a job's pushbuffers are referred to. -/
theorem mem_references_of_job {name : String} {job : Job} (found : origin.jobs[name]? = some job)
    {pushbuffer : PushBuffer} (member : pushbuffer ∈ job.pushbuffers) :
    pushbuffer.buffer.allocation ∈ origin.references := by
  rw [references_of_job found, Multiset.mem_add]
  refine .inl ?_
  obtain ⟨before, after, split⟩ := List.append_of_mem member
  rw [Job.references, split, List.map_append, List.sum_append, List.map_cons, List.sum_cons]
  simp [PushBuffer.references, Buffer.references]

/-- Giving up all objects of a kind takes away what they refer to together. -/
theorem giveUpAll_leads {α β : Type} {slots : Session → Slots α} {holds : α → Multiset Allocation}
    {release : α → Action Session Unit} {rest : Action Session β} {after : β → Session → Prop}
    (seen : ∀ host, slots { origin with host } = slots origin)
    (released : ∀ object references, Leads (origin.Hosted strangers (holds object + references))
      (release object) (fun _ => origin.Hosted strangers references) failed)
    (goesOn : Leads (origin.Hosted strangers references) rest after failed) :
    Leads (origin.Hosted strangers (Slots.total holds (slots origin) + references)) (do
      (← Action.read fun session => (slots session).values).forM release
      rest) after failed := by
  refine Leads.bind (read_leads fun host => congrArg Std.ExtTreeMap.values (seen host))
    fun values => Leads.assume fun same => ?_
  subst same
  exact Leads.bind (Host.forM_leads released _ references) fun _ => goesOn

/-- Giving a client up is no matter of references. -/
theorem releaseClient_leads (client : Client) (references : Multiset Allocation) :
    Leads (origin.Hosted strangers (0 + references)) (releaseClient client)
      (fun _ => origin.Hosted strangers references) failed := by
  rw [zero_add]
  refine Leads.of_ok ?_
  rintro session ⟨host, rfl, settled⟩
  have closes := Instrumented.quietBy_sameTenure.closeChannel client.channel.id
  exact ⟨(), _, rfl, _, rfl, settled.withDevice ((closes host.device).inUse settled.device)⟩

/-- What is left can be given up, and then nothing is referred to. -/
theorem finish_leads :
    Leads (origin.Hosted strangers origin.references) finish
      (fun _ session => session.Balanced strangers ∧ session.references = 0) failed := by
  have order : origin.references = Slots.total Job.references origin.jobs +
      (Slots.total PushBuffer.references origin.pushbuffers +
        (Slots.total Buffer.references origin.buffers +
          (Slots.total (fun _ => 0) origin.clients + 0))) := by
    rw [Session.references, Slots.total_none, add_zero, add_zero, add_comm (Slots.total _ _),
      add_comm]
  rw [order]
  refine giveUpAll_leads (fun _ => rfl) releaseJob_leads ?_
  refine giveUpAll_leads (fun _ => rfl) releasePushBuffer_leads ?_
  refine giveUpAll_leads (fun _ => rfl) releaseBuffer_leads ?_
  refine giveUpAll_leads (fun _ => rfl) releaseClient_leads (Leads.update ?_)
  rintro session ⟨host, rfl, settled⟩
  have none : ({ origin with
      host, jobs := ∅, pushbuffers := ∅, mappings := ∅, buffers := ∅, clients := ∅ } :
        Session).references = 0 := by
    simp only [Session.references, Slots.total_empty, add_zero]
  refine ⟨?_, none⟩
  rw [Balanced, none]
  exact settled

/-- The handles of the allocations that a session refers to, each as often as it does. -/
def handles (session : Session) : Multiset Handle :=
  session.references.map Allocation.handle

/-- The allocations of the simulated device are accounted for by the references of the session. -/
structure Accounted (session : Session) : Prop where
  /-- What is referred to is live, and nothing else is. -/
  live : ∀ handle, (session.simulator.live? handle).isSome = true ↔ handle ∈ session.handles
  /-- What was handed out and is no longer referred to was released by one call; nothing else was
  released. -/
  released : ∀ handle, session.device.calls.count (.release handle) =
    if handle ∈ session.simulator.buffers ∧ handle ∉ session.handles then 1 else 0
  /-- The holders that the host counts are the references. -/
  holders : ∀ allocation ∈ session.references,
    session.host.holders allocation = session.handles.count allocation.handle
  /-- When nothing is referred to, nothing is live, and as many were released as allocated. -/
  idle : session.references = 0 → session.simulator.liveCount = 0 ∧
    session.simulator.statistics.allocations = session.simulator.statistics.releases

/-- The allocations of a balanced session without strangers are accounted for. -/
theorem Balanced.accounted {session : Session} (balanced : session.Balanced []) :
    session.Accounted := by
  have use : session.host.device.InUse
      (fun handle => handle ∈ session.references.map Allocation.handle)
      session.host.sharings.size :=
    balanced.device.congr fun handle => or_iff_left List.not_mem_nil
  refine ⟨use.live, fun handle => ?_, fun allocation member => ?_, fun none => ⟨?_, ?_⟩⟩
  · split
    · rename_i free
      exact use.released handle free.1 free.2
    · rename_i kept
      refine use.unreleased handle ?_
      by_cases present : handle ∈ session.simulator.buffers
      · exact .inl (Decidable.not_not.mp fun unused => kept ⟨present, unused⟩)
      · exact .inr present
  · rw [balanced.holders_eq, handles, balanced.count_handle member]
  · refine List.countP_eq_zero.mpr fun entry listed lives => ?_
    have found : session.host.device.inner.buffers[entry.1]? = some entry.2 :=
      Std.ExtTreeMap.mem_toList_iff_getElem?_eq_some.mp listed
    have used := (use.live entry.1).mp (by
      rw [Simulator.live?, found]
      simpa [Option.filter] using lives)
    rw [none] at used
    exact absurd used (Multiset.notMem_zero _)
  · have empty : session.host.sharings.size = 0 := by
      rw [← Std.ExtTreeMap.eq_empty_iff_size_eq_zero, Std.ExtTreeMap.eq_empty_iff_forall_not_mem]
      intro serial present
      rw [balanced.mem_sharings, none] at present
      exact absurd present (Multiset.notMem_zero _)
    have books := use.books
    rwa [empty, Nat.add_zero] at books

/-- After every run of orderly operations, and so at every point of one, the allocations are
accounted for: the live ones are those that are referred to, with as many holders as references, and
each of the others was released by one call. When what is left has been given up, nothing is
referred to. -/
theorem allocations_accounted (configuration : Configuration) (operations : List Operation)
    (orderly : ∀ operation ∈ operations, operation.orderly = true) :
    ((initial configuration).run operations).Accounted ∧
      ∃ last, finish ((initial configuration).run operations) = (.ok (), last) ∧
        last.Accounted ∧ last.references = 0 := by
  have balanced := run_balanced orderly (balanced_initial configuration)
  obtain ⟨_, last, run, settled, none⟩ := finish_leads.succeeds
    (⟨_, rfl, balanced⟩ : ((initial configuration).run operations).Hosted [] _ _)
  exact ⟨balanced.accounted, last, run, Balanced.accounted settled, none⟩

/-- A buffer whose owner goes first, with windows of windows, a pushbuffer and a job on it, and some
operations that fail. -/
def sharedOperations : List Operation :=
  [.job (.openClient "client" 0x51),
    .buffer (.allocate "owner" 4096 ⟨0⟩ false),
    .buffer (.window "half" "owner" 0x800 0x800),
    .buffer (.window "quarter" "half" 0x400 0x400),
    .buffer (.window "beyond" "quarter" 0 0x401),
    .pushbuffer (.openAt "early" "quarter" 0),
    .buffer (.map none "quarter"),
    .pushbuffer (.openAt "words" "quarter" 0),
    .job (.createJob "job" "client" 1),
    .job (.append "job" "half" 0),
    .job (.append "job" "half" 2),
    .pushbuffer (.push (.inJob "job" 0) 0),
    .job (.submit "client" "job"),
    .buffer (.release "owner"),
    .buffer (.allocate "half" 16 ⟨0⟩ false),
    .buffer (.release "quarter"),
    .buffer (.release "quarter")]

/-- The first buffer is still live with the two holders that are left, and is released once with the
last of them. -/
theorem shared_buffer_outlives_owner :
    (∀ operation ∈ sharedOperations, operation.orderly = true) ∧
      ((initial .standard).run sharedOperations).handles = {1, 1, 2} ∧
      (∀ handle, (((initial .standard).run sharedOperations).simulator.live? handle).isSome = true ↔
        handle ∈ ({1, 1, 2} : Multiset Handle)) ∧
      ∃ last, finish ((initial .standard).run sharedOperations) = (.ok (), last) ∧
        last.simulator.liveCount = 0 := by
  have orderly : ∀ operation ∈ sharedOperations, operation.orderly = true := by decide
  have left : ((initial .standard).run sharedOperations).handles = {1, 1, 2} := by decide +kernel
  obtain ⟨accounted, last, run, ended, none⟩ :=
    allocations_accounted .standard sharedOperations orderly
  exact ⟨orderly, left, left ▸ accounted.live, last, run, (ended.idle none).1⟩

end Session

end HostChannel
