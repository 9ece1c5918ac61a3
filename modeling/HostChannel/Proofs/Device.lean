import HostChannel.Client
import HostChannel.Instrumented
import HostChannel.JobListing
import HostChannel.Proofs.Action

/-!
# Where the library takes a device

The library reaches a device through its methods and its memory only. So a preorder that these
keep to (`Device.MovesBy`) is kept by every action of the library: those on mappings and
pushbuffers, those beside a job, and those of a host. A device around another one keeps to it
in the inner device, because it passes calls on or leaves the inner device alone.
-/

namespace HostChannel

open HostChannel.Action (Moves)

namespace Action

variable {σ τ α : Type}

/-- The relation between parts of two states. -/
def Along (part : τ → σ) (relation : σ → σ → Prop) (first second : τ) : Prop :=
  relation (part first) (part second)

instance {part : τ → σ} {relation : σ → σ → Prop} [IsPreorder σ relation] :
    IsPreorder τ (Along part relation) where
  refl state := refl_of relation (part state)
  trans _ _ _ earlier later := trans_of relation earlier later

/-- What holds of the first state holds of the second. -/
def Preserves (property : σ → Prop) (first second : σ) : Prop :=
  property first → property second

instance {property : σ → Prop} : IsPreorder σ (Preserves property) where
  refl _ := id
  trans _ _ _ earlier later := fun holds => later (earlier holds)

/-- An action on a part of the state takes the part where it would by itself. -/
theorem Moves.along {part : τ → σ} {replace : τ → σ → τ} {relation : σ → σ → Prop}
    {action : Action σ α} (moves : Moves relation action)
    (replaced : ∀ state after, part (replace state after) = after) :
    Moves (Along part relation) (Action.within part replace action) := by
  intro state
  rw [within_apply, Along, replaced]
  exact moves (part state)

end Action

section Parts

variable {σ : Type} {relation : σ → σ → Prop}

/-- An action on the device beside a job goes where it goes by itself. -/
theorem Action.Moves.besideJob {α : Type} {action : Action σ α} (goes : Moves relation action) :
    Moves (Action.Along Prod.snd relation) (Client.onDevice action) :=
  goes.along fun _ _ => rfl

/-- An action on the device of a host gives what it gives by itself, and leaves the rest. -/
theorem Host.onDevice_run {α : Type} {action : Action σ α} {host : Host σ}
    {outcome : Except Failure α} {device : σ} (run : action host.device = (outcome, device)) :
    onDevice action host = (outcome, { host with device }) :=
  Action.within_run run

/-- An action on the device of a host goes where it goes by itself. -/
theorem Action.Moves.onHost {α : Type} {action : Action σ α} (goes : Moves relation action) :
    Moves (Action.Along Host.device relation) (Host.onDevice action) :=
  goes.along fun _ _ => rfl

variable [IsPreorder σ relation]

/-- Changing the job beside a device leaves the device alone. -/
theorem Client.setJob_moves (job : Job) :
    Moves (Action.Along Prod.snd relation) (Client.setJob job) :=
  Moves.update fun state => refl_of relation state.2

/-- Making a window leaves the device alone. -/
theorem Buffer.window_moves (buffer : Buffer) (offset length : UInt64) :
    Moves (Action.Along Host.device relation)
      (buffer.window offset length : Action (Host σ) Buffer) :=
  Moves.bind (Moves.check _) fun _ =>
    Moves.bind (Moves.update fun host => refl_of relation host.device) fun _ => Moves.pure _

/-- Opening a pushbuffer leaves the device alone. -/
theorem PushBuffer.openAt_moves (buffer : Buffer) (offset : UInt64) :
    Moves (Action.Along Host.device relation)
      (PushBuffer.openAt buffer offset : Action (Host σ) PushBuffer) :=
  Moves.bind (Moves.read _) fun _ => Moves.bind (Moves.check _) fun _ =>
    Moves.bind (Moves.update fun host => refl_of relation host.device) fun _ => Moves.pure _

/-- So does opening one at the end of a job. -/
theorem Job.append_moves (job : Job) (buffer : Buffer) (offset : UInt64) :
    Moves (Action.Along Host.device relation)
      (job.append buffer offset : Action (Host σ) Job) :=
  Moves.bind (Moves.check _) fun _ =>
    Moves.bind (PushBuffer.openAt_moves _ _) fun _ => Moves.pure _

variable [Device σ]
  (writes : ∀ region position data state,
    relation state (Device.writeRegion region position data state))

include writes

/-- Writing bytes through a mapping is a write to memory. -/
theorem Mapping.writeBytes_moves (mapping : Mapping) (offset : UInt64) (data : List UInt8) :
    Moves relation (mapping.writeBytes offset data : Action σ Unit) :=
  Moves.bind (Moves.check _) fun _ => Moves.update fun _ => writes _ _ _ _

/-- So is pushing words. -/
theorem PushBuffer.pushWords_moves (pushbuffer : PushBuffer) (words : List Word) :
    Moves relation (pushbuffer.pushWords words : Action σ PushBuffer) :=
  Moves.bind (Moves.check _) fun _ =>
    Moves.bind (Mapping.writeBytes_moves writes _ _ _) fun _ => Moves.pure _

/-- So is pushing a placeholder. -/
theorem PushBuffer.relocate_moves (pushbuffer : PushBuffer) (target : Buffer) (offset : UInt64)
    (shift : Word) :
    Moves relation (pushbuffer.relocate target offset shift : Action σ PushBuffer) :=
  Moves.bind (Moves.check _) fun _ => Moves.bind (Moves.check _) fun _ =>
    Moves.bind (PushBuffer.pushWords_moves writes _ _) fun _ => Moves.pure _

end Parts

/-- Every method of a device that neither makes nor gives up a buffer or a channel, and every write
to its memory, goes where the relation says. -/
structure Device.WorksBy {σ : Type} [Device σ] (relation : σ → σ → Prop) : Prop where
  /-- Mapping goes there. -/
  map : ∀ handle, Moves relation (Device.map handle : Action σ Region)
  /-- Making writes visible to the device goes there. -/
  flush : ∀ handle offset length, Moves relation (Device.flush handle offset length : Action σ Unit)
  /-- Making writes visible to the processor goes there. -/
  invalidate : ∀ handle offset length,
    Moves relation (Device.invalidate handle offset length : Action σ Unit)
  /-- Submitting goes there. -/
  submit : ∀ submission, Moves relation (Device.submit submission : Action σ Word)
  /-- Letting a channel start goes there. -/
  flushSubmissions : ∀ channel, Moves relation (Device.flushSubmissions channel : Action σ Unit)
  /-- Reading a counter goes there. -/
  readSyncpoint : ∀ index, Moves relation (Device.readSyncpoint index : Action σ Word)
  /-- Waiting goes there. -/
  waitSyncpoint : ∀ index threshold timeout,
    Moves relation (Device.waitSyncpoint index threshold timeout : Action σ WaitOutcome)
  /-- Writing to memory goes there. -/
  write : ∀ region position data state,
    relation state (Device.writeRegion region position data state)

/-- Every method of a device but allocating and releasing, and every write to its memory, goes where
the relation says. -/
structure Device.QuietBy {σ : Type} [Device σ] (relation : σ → σ → Prop) : Prop
    extends Device.WorksBy relation where
  /-- Opening a channel goes there. -/
  openChannel : ∀ engineClass, Moves relation (Device.openChannel engineClass : Action σ Channel)
  /-- Closing a channel goes there. -/
  closeChannel : ∀ channel, Moves relation (Device.closeChannel channel : Action σ Unit)

/-- Every method of a device but opening and closing channels, and every write to its memory, goes
where the relation says. -/
structure Device.BesideChannelsBy {σ : Type} [Device σ] (relation : σ → σ → Prop) : Prop
    extends Device.WorksBy relation where
  /-- Allocating goes there. -/
  allocate : ∀ size flags, Moves relation (Device.allocate size flags : Action σ Handle)
  /-- Releasing goes there. -/
  release : ∀ handle, Moves relation (Device.release handle : Action σ Unit)

/-- Every method of a device, and every write to its memory, goes where the relation says. -/
structure Device.MovesBy {σ : Type} [Device σ] (relation : σ → σ → Prop) : Prop
    extends Device.QuietBy relation, Device.BesideChannelsBy relation

namespace Device.QuietBy

variable {σ : Type} [Device σ] {relation : σ → σ → Prop}

/-- Every device goes somewhere. -/
theorem everywhere : Device.QuietBy fun _ _ : σ => True :=
  ⟨⟨fun _ _ => trivial, fun _ _ _ _ => trivial, fun _ _ _ _ => trivial, fun _ _ => trivial,
    fun _ _ => trivial, fun _ _ => trivial, fun _ _ _ _ => trivial, fun _ _ _ _ => trivial⟩,
    fun _ _ => trivial, fun _ _ => trivial⟩

/-- What goes where a relation says goes where a weaker one does. -/
theorem mono {weaker : σ → σ → Prop} (moves : Device.QuietBy relation)
    (follows : ∀ first second, relation first second → weaker first second) :
    Device.QuietBy weaker where
  map handle state := follows _ _ (moves.map handle state)
  flush handle offset length state := follows _ _ (moves.flush handle offset length state)
  invalidate handle offset length state :=
    follows _ _ (moves.invalidate handle offset length state)
  openChannel engineClass state := follows _ _ (moves.openChannel engineClass state)
  closeChannel channel state := follows _ _ (moves.closeChannel channel state)
  submit submission state := follows _ _ (moves.submit submission state)
  flushSubmissions channel state := follows _ _ (moves.flushSubmissions channel state)
  readSyncpoint index state := follows _ _ (moves.readSyncpoint index state)
  waitSyncpoint index threshold timeout state :=
    follows _ _ (moves.waitSyncpoint index threshold timeout state)
  write region position data state := follows _ _ (moves.write region position data state)

/-- Opening a channel for a client is a call of the device. -/
theorem connect [IsPreorder σ relation] (moves : Device.QuietBy relation) (engineClass : Word) :
    Moves (Action.Along Host.device relation)
      (Client.connect engineClass : Action (Host σ) Client) :=
  Moves.bind (Moves.read _) fun _ =>
    Moves.bind (moves.openChannel _).onHost fun _ => Moves.pure _

end Device.QuietBy

namespace Device.WorksBy

variable {σ : Type} [Device σ] {relation : σ → σ → Prop} [IsPreorder σ relation]

/-- Reading through a mapping changes nothing. -/
theorem fetchWords (mapping : Mapping) (offset : UInt64) (count : Nat) :
    Moves relation (mapping.fetchWords offset count : Action σ (List Word)) :=
  Moves.bind (Moves.bind (Moves.check _) fun _ => Moves.read _) fun _ => Moves.pure _

/-- Nor does it where memory is got for the words first. -/
theorem readWords (mapping : Mapping) (offset : UInt64) (count : Nat) :
    Moves relation (mapping.readWords offset count : Action σ (List Word)) :=
  Moves.bind (Moves.makeRoom _) fun _ => fetchWords mapping offset count

/-- Listing a job reads memory. -/
theorem appendSections (pushbuffers : List PushBuffer) (text : String) (index : Nat) :
    Moves relation (Job.appendSections text index pushbuffers : Action σ String) := by
  induction pushbuffers generalizing text index with
  | nil => exact Moves.pure text
  | cons pushbuffer rest ih => exact Moves.bind (fetchWords _ _ _) fun words => ih _ _

variable (moves : Device.WorksBy relation)

include moves

/-- Writing bytes through a mapping goes where writes to memory go. -/
theorem writeBytes (mapping : Mapping) (offset : UInt64) (data : List UInt8) :
    Moves relation (mapping.writeBytes offset data : Action σ Unit) :=
  Mapping.writeBytes_moves moves.write mapping offset data

/-- So does pushing words. -/
theorem pushWords (pushbuffer : PushBuffer) (words : List Word) :
    Moves relation (pushbuffer.pushWords words : Action σ PushBuffer) :=
  PushBuffer.pushWords_moves moves.write pushbuffer words

/-- So does pushing a placeholder. -/
theorem relocate (pushbuffer : PushBuffer) (target : Buffer) (offset : UInt64) (shift : Word) :
    Moves relation (pushbuffer.relocate target offset shift : Action σ PushBuffer) :=
  PushBuffer.relocate_moves moves.write pushbuffer target offset shift

/-- Making a range of a buffer visible to the device is a call. -/
theorem bufferFlush (buffer : Buffer) (offset length : UInt64) :
    Moves relation (buffer.flush offset length : Action σ Unit) :=
  Moves.bind (Moves.check _) fun _ => moves.flush _ _ _

/-- Making a range of a buffer visible to the processor is a call. -/
theorem bufferInvalidate (buffer : Buffer) (offset length : UInt64) :
    Moves relation (buffer.invalidate offset length : Action σ Unit) :=
  Moves.bind (Moves.check _) fun _ => moves.invalidate _ _ _

/-- Submitting a job is calls of the device. -/
theorem clientSubmit (client : Client) :
    Moves (Action.Along Prod.snd relation) (client.submit : Action (Job × σ) Unit) :=
  Moves.bind (Moves.read _) fun _ => Moves.bind (Moves.check _) fun _ =>
    Moves.bind (Moves.forM (fun _ => (moves.bufferFlush _ _ _).besideJob) _) fun _ =>
      Moves.bind (Moves.check _) fun _ => Moves.bind (moves.submit _).besideJob fun _ =>
        Client.setJob_moves _

/-- So is flushing a job. -/
theorem clientFlush (client : Client) :
    Moves (Action.Along Prod.snd relation) (client.flush : Action (Job × σ) Fence) :=
  Moves.bind (Moves.read _) fun _ => Moves.bind (Moves.check _) fun _ =>
    Moves.bind (Client.setJob_moves _) fun _ =>
      Moves.bind (moves.flushSubmissions _).besideJob fun _ => Moves.pure _

/-- So is waiting for a job. -/
theorem clientWaitJob (timeout : Timeout) :
    Moves (Action.Along Prod.snd relation)
      (Client.waitJob timeout : Action (Job × σ) WaitOutcome) :=
  Moves.bind (Moves.read _) fun _ => Moves.bind (Moves.check _) fun _ =>
    Moves.bind (moves.waitSyncpoint _ _ _).besideJob fun _ =>
      Moves.bind (Client.setJob_moves _) fun _ => Moves.pure _

/-- So is finishing a job. -/
theorem clientFinish (client : Client) :
    Moves (Action.Along Prod.snd relation) (client.finish : Action (Job × σ) WaitOutcome) :=
  Moves.bind (moves.clientSubmit client) fun _ =>
    Moves.bind (moves.clientFlush client) fun _ => moves.clientWaitJob _

/-- Mapping a buffer is a call of the device, if there is any. -/
theorem bufferMap (buffer : Buffer) :
    Moves (Action.Along Host.device relation) (buffer.map : Action (Host σ) Mapping) := by
  refine Moves.bind (Moves.read _) fun mapping => ?_
  cases mapping with
  | some mapping => exact Moves.pure mapping
  | none =>
    refine Moves.bind (moves.map _).onHost fun region => ?_
    split
    · exact Moves.fail _
    · exact Moves.bind (Moves.update fun host => refl_of relation host.device) fun _ =>
        Moves.pure _

end Device.WorksBy

namespace Device.BesideChannelsBy

variable {σ : Type} [Device σ] {relation : σ → σ → Prop} [IsPreorder σ relation]
  (moves : Device.BesideChannelsBy relation)

include moves

/-- Allocating a buffer is a call of the device. -/
theorem bufferAllocate (size : UInt64) (flags : BufferFlags) :
    Moves (Action.Along Host.device relation)
      (Buffer.allocate size flags : Action (Host σ) Buffer) := by
  rw [Buffer.allocate]
  split
  · exact Moves.fail _
  · exact Moves.bind (moves.allocate _ _).onHost fun _ host => refl_of relation host.device

/-- Taking a holder of an allocation away is a call of the device, if there is any. -/
theorem letGo (allocation : Allocation) :
    Moves (Action.Along Host.device relation) (Host.letGo allocation : Action (Host σ) Unit) := by
  intro host
  rw [Host.letGo]
  split
  · exact moves.release allocation.handle host.device
  · exact refl_of relation host.device

/-- Giving a job up is giving its pushbuffers up. -/
theorem jobRelease (job : Job) :
    Moves (Action.Along Host.device relation) (job.release : Action (Host σ) Unit) :=
  Moves.forM (fun _ => moves.letGo _) _

end Device.BesideChannelsBy

namespace Instrumented

variable {σ α : Type} {relation : σ → σ → Prop}

/-- A relation between devices around others that follows from one between the devices inside, where
calls but releases are recorded and passed on. -/
structure Surrounds (around : Instrumented σ → Instrumented σ → Prop) (relation : σ → σ → Prop) :
    Prop where
  /-- What is passed on goes there. -/
  passOn : ∀ {α : Type} {action : Action σ α}, Moves relation action → Moves around (passOn action)
  /-- Calls that are recorded go there with what is made of them. -/
  observe : ∀ {α : Type} (call : Call) {action : Action (Instrumented σ) α},
    call.method ≠ .release → Moves around action → Moves around (observe call action)
  /-- Mapping no longer too short goes there. -/
  unshorten : ∀ device, around device { device with shortage := none }
  /-- Keeping memory goes there. -/
  keep : ∀ device nextSerial memories, around device { device with nextSerial, memories }

section Surrounds

variable {around : Instrumented σ → Instrumented σ → Prop} [IsPreorder (Instrumented σ) around]

/-- An access to a buffer goes where it goes when it is passed on. -/
theorem unlessPretended_moves (handle : Handle) {action : Action σ Unit}
    (goes : Moves around (passOn action)) : Moves around (unlessPretended handle action) := by
  refine Moves.bind (Moves.read _) fun pretended => ?_
  cases pretended with
  | true => exact Moves.pure ()
  | false => exact goes

/-- A device around another one goes where the relation around says, if the device inside goes where
the relation inside says. -/
theorem Surrounds.worksBy [Device σ] (surrounds : Surrounds around relation)
    (moves : Device.WorksBy relation) : Device.WorksBy around where
  map handle := by
    refine surrounds.observe _ (by simp [Call.method])
      (Moves.bind (Moves.read _) fun shortage => ?_)
    cases shortage with
    | some bytes =>
      refine Moves.bind (Moves.update surrounds.unshorten) fun _ => ?_
      exact Moves.bind (surrounds.passOn (moves.map _)) fun _ device => surrounds.keep device _ _
    | none =>
      refine Moves.bind (Moves.read _) fun region => ?_
      cases region with
      | some region => exact Moves.pure region
      | none => exact surrounds.passOn (moves.map _)
  flush handle offset length :=
    surrounds.observe _ (by simp [Call.method])
      (unlessPretended_moves _ (surrounds.passOn (moves.flush _ _ _)))
  invalidate handle offset length :=
    surrounds.observe _ (by simp [Call.method])
      (unlessPretended_moves _ (surrounds.passOn (moves.invalidate _ _ _)))
  submit submission :=
    surrounds.observe _ (by simp [Call.method]) (surrounds.passOn (moves.submit submission))
  flushSubmissions channel :=
    surrounds.observe _ (by simp [Call.method]) (surrounds.passOn (moves.flushSubmissions channel))
  readSyncpoint index :=
    surrounds.observe _ (by simp [Call.method]) (surrounds.passOn (moves.readSyncpoint index))
  waitSyncpoint index threshold timeout :=
    surrounds.observe _ (by simp [Call.method])
      (surrounds.passOn (moves.waitSyncpoint index threshold timeout))
  write region position data device := by
    cases region with
    | standalone serial => exact surrounds.keep device device.nextSerial _
    | buffer handle =>
      have written :
        Moves relation (Action.update (Device.writeRegion (.buffer handle) position data)) :=
        Moves.update (moves.write (.buffer handle) position data)
      exact surrounds.passOn written device

/-- So it does where opening and closing channels go there as well. -/
theorem Surrounds.quietBy [Device σ] (surrounds : Surrounds around relation)
    (moves : Device.QuietBy relation) : Device.QuietBy around where
  toWorksBy := surrounds.worksBy moves.toWorksBy
  openChannel engineClass :=
    surrounds.observe _ (by simp [Call.method]) (surrounds.passOn (moves.openChannel engineClass))
  closeChannel channel :=
    surrounds.observe _ (by simp [Call.method]) (surrounds.passOn (moves.closeChannel channel))

end Surrounds

/-- A recorded call that has an answer has that of the inner device. -/
theorem observe_eq_ok {call : Call} {action : Action σ α} {device after : Instrumented σ}
    {value : α} (made : observe call (passOn action) device = (.ok value, after)) :
    action device.inner = (.ok value, after.inner) := by
  simp only [observe] at made
  split at made
  · simp at made
  · obtain ⟨outcome, rfl⟩ := Prod.mk.inj made
    exact Prod.ext outcome rfl

/-- An action that is passed on takes the inner device where it would by itself. -/
theorem passOn_moves {action : Action σ α} (goes : Moves relation action) :
    Moves (Action.Along inner relation) (passOn action) :=
  goes.along fun _ _ => rfl

variable [IsPreorder σ relation]

/-- A call that is recorded and fails leaves the inner device alone. -/
theorem observe_moves (call : Call) {action : Action (Instrumented σ) α}
    (goes : Moves (Action.Along inner relation) action) :
    Moves (Action.Along inner relation) (observe call action) := by
  intro device
  simp only [observe]
  split
  · exact refl_of relation device.inner
  · exact goes (device.record call)

/-- A device around another one takes the inner device where its methods do. -/
theorem surrounds_along :
    Surrounds (Action.Along (inner : Instrumented σ → σ) relation) relation where
  passOn := passOn_moves
  observe call _ _ := observe_moves call
  unshorten device := refl_of relation device.inner
  keep device _ _ := refl_of relation device.inner

/-- So it does where allocating and releasing go there as well. -/
theorem besideChannelsBy [Device σ] (moves : Device.BesideChannelsBy relation) :
    Device.BesideChannelsBy (Action.Along (inner : Instrumented σ → σ) relation) where
  toWorksBy := surrounds_along.worksBy moves.toWorksBy
  allocate size flags := by
    refine observe_moves _ (Moves.bind (Moves.read _) fun pretends => ?_)
    cases pretends with
    | true =>
      exact Moves.bind (passOn_moves (moves.allocate _ _)) fun _ =>
        Moves.bind (Moves.update fun device => refl_of relation device.inner) fun _ => Moves.pure _
    | false => exact passOn_moves (moves.allocate _ _)
  release handle := observe_moves _ (passOn_moves (moves.release handle))

/-- So it does where all methods go there. -/
theorem movesBy [Device σ] (moves : Device.MovesBy relation) :
    Device.MovesBy (Action.Along (inner : Instrumented σ → σ) relation) where
  toQuietBy := surrounds_along.quietBy moves.toQuietBy
  allocate := (besideChannelsBy moves.toBesideChannelsBy).allocate
  release := (besideChannelsBy moves.toBesideChannelsBy).release

omit [IsPreorder σ relation]

/-- No call of the device is to fail. -/
def Reliable (device : Instrumented σ) : Prop :=
  device.faults = []

/-- A reliable device records a call and makes of it what is to be made. -/
theorem observe_of_reliable {device : Instrumented σ} (reliable : device.Reliable) (call : Call)
    (action : Action (Instrumented σ) α) :
    observe call action device = action (device.record call) := by
  have none : (device.record call).fault? call.method = none := by
    rw [fault?, record, reliable]
    rfl
  simp only [observe, none]

/-- Recording calls and passing them on keeps a device reliable, whatever they do. -/
theorem surrounds_reliable :
    Surrounds (Action.Preserves (Reliable : Instrumented σ → Prop)) fun _ _ => True where
  passOn _ _ reliable := reliable
  observe call action _ goes device reliable := by
    rw [observe_of_reliable reliable]
    exact goes _ reliable
  unshorten _ reliable := reliable
  keep _ _ _ reliable := reliable

/-- No method makes calls of a reliable device fail. -/
theorem movesBy_reliable [Device σ] :
    Device.MovesBy (Action.Preserves (Reliable : Instrumented σ → Prop)) where
  toQuietBy := surrounds_reliable.quietBy Device.QuietBy.everywhere
  allocate size flags := by
    refine surrounds_reliable.observe _ (by simp [Call.method])
      (Moves.bind (Moves.read _) fun pretends => ?_)
    cases pretends with
    | true =>
      exact Moves.bind (fun _ reliable => reliable) fun _ =>
        Moves.bind (Moves.update fun _ reliable => reliable) fun _ => Moves.pure _
    | false => exact fun _ reliable => reliable
  release handle device reliable := by
    change (observe _ _ device).2.Reliable
    rw [observe_of_reliable reliable]
    exact reliable

end Instrumented

end HostChannel
