import HostChannel.Proofs.Job.Advance

/-!
# What a job is at each point of its life

The state of a job, its stored fence, the fence that it shows, its pushbuffers and the
submissions that the device has accepted agree with each other (`Job.Standing`), and whatever
the job has fixed once stays fixed (`Job.Continues`). Both follow from the six things that a
call can do, by one case for each.
-/

namespace HostChannel

namespace JobState

/-- The states from the acceptance by a device on. -/
def sealed : List JobState :=
  [.submitted, .flushed, .complete, .timedOut]

/-- The states in which a job may be waited for. -/
def waitable : List JobState :=
  [.flushed, .complete, .timedOut]

/-- Nothing follows completion. -/
theorem eq_complete_of_path {last : JobState}
    (path : Relation.ReflTransGen Edge .complete last) : last = .complete := by
  induction path with
  | refl => rfl
  | tail _ edge same => subst same; cases edge

end JobState

namespace Job

open JobState (Edge sealed waitable)

/-- A job may be changed exactly before a device has accepted it. -/
theorem checkBuilding_eq_ok_iff {job : Job} :
    job.checkBuilding = .ok () ↔ job.state = .created ∨ job.state = .building := by
  rw [checkBuilding]
  split <;> simp_all

/-- A job that may be changed has not been accepted. -/
theorem not_sealed_of_building {job : Job} (allowed : job.checkBuilding = .ok ()) :
    job.state ∉ sealed := by
  rcases checkBuilding_eq_ok_iff.mp allowed with state | state <;> simp [state, sealed]

/-- It may be submitted exactly while it is being built. -/
theorem checkSubmittable_eq_ok_iff {job : Job} :
    job.checkSubmittable = .ok () ↔ job.state = .building := by
  rw [checkSubmittable]
  split <;> simp_all

/-- Flushing a job takes it on if it was submitted and not flushed, and otherwise does nothing. -/
theorem flushed_eq_ok {job changed : Job} {fence : Fence}
    (given : job.flushed = .ok (fence, changed)) :
    job.accepted = some fence ∧
      (job.state = .submitted ∧ changed = { job with state := .flushed } ∨ changed = job) := by
  rw [flushed] at given
  split at given
  · rename_i submitted stored
    obtain ⟨rfl, rfl⟩ := Prod.mk.inj (Except.ok.inj given)
    exact ⟨stored, .inl ⟨submitted, rfl⟩⟩
  all_goals simp_all

/-- A job that may be waited for has been flushed. -/
theorem waitableFence_eq_ok {job : Job} {fence : Fence}
    (given : job.waitableFence = .ok fence) : job.state ∈ waitable := by
  rw [waitableFence] at given
  split at given
  all_goals simp_all [waitable]

/-- A wait leaves a complete job alone and records how it ended on any other. -/
theorem waited_cases (job : Job) (outcome : WaitOutcome) :
    job.state = .complete ∧ job.waited outcome = job ∨
      job.state ≠ .complete ∧
        (job.waited outcome = { job with state := .complete } ∨
          job.waited outcome = { job with state := .timedOut }) := by
  unfold waited
  split <;> simp_all

/-- A wait that ends in time completes the job. -/
theorem edge_complete {state : JobState} (early : state ∈ waitable)
    (unfinished : state ≠ .complete) : Edge state .complete := by
  simp only [waitable, List.mem_cons, List.not_mem_nil, or_false] at early
  rcases early with rfl | rfl | rfl
  · exact .complete
  · exact absurd rfl unfinished
  · exact .completeLate

/-- One that does not leaves the job timed out. -/
theorem edge_timedOut {state : JobState} (early : state ∈ waitable)
    (unfinished : state ≠ .complete) : Edge state .timedOut := by
  simp only [waitable, List.mem_cons, List.not_mem_nil, or_false] at early
  rcases early with rfl | rfl | rfl
  · exact .timeOut
  · exact absurd rfl unfinished
  · exact .timeOutAgain

/-- A job and the submissions of it that were accepted agree with each other. -/
structure Standing (job : Job) (accepted : Attestation) : Prop where
  /-- At most one submission was accepted. -/
  once : accepted.length ≤ 1
  /-- It was the job as it is. -/
  same : ∀ entry ∈ accepted, ∃ channel, job.toSubmission channel = .ok entry.1
  /-- The stored fence is the value answered then, on the job's syncpoint. -/
  stored : job.accepted = accepted.head?.map fun entry => ⟨job.syncpoint, entry.2⟩
  /-- It is stored exactly from the acceptance on. -/
  sealed : job.accepted.isSome ↔ job.state ∈ sealed
  /-- It is shown exactly from the flush on. -/
  shown : job.fence? = if job.state ∈ waitable then job.accepted else none
  /-- There are pushbuffers exactly past the creation. -/
  built : job.pushbuffers ≠ [] ↔ job.state ≠ .created

/-- A job that was just created, of which nothing was accepted. -/
theorem standing_create (syncpoint increments : Word) :
    Standing (create syncpoint increments) [] where
  once := Nat.zero_le _
  same _ none := absurd none List.not_mem_nil
  stored := rfl
  sealed := by simp [create, sealed]
  shown := rfl
  built := by simp [create]

/-- What is shown is read off the state. -/
theorem fence?_eq (job : Job) :
    job.fence? = if job.state ∈ waitable then job.accepted else none := by
  rw [fence?]
  split <;> simp_all [waitable]

namespace Standing

variable {job : Job} {accepted : Attestation}

/-- Nothing was accepted of a job that is being built. -/
theorem fresh (standing : Standing job accepted) (early : job.state ∉ JobState.sealed) :
    accepted = [] := by
  have none : job.accepted = none :=
    Option.not_isSome_iff_eq_none.mp fun stored => early (standing.sealed.mp stored)
  rw [standing.stored, Option.map_eq_none_iff] at none
  exact List.head?_eq_none_iff.mp none

/-- Building on a job leaves it with nothing accepted. -/
theorem building {built : Job} (standing : Standing job accepted)
    (allowed : job.checkBuilding = .ok ()) (fence : built.accepted = job.accepted)
    (state : built.state = .building) (pushbuffers : built.pushbuffers ≠ []) :
    Standing built accepted := by
  obtain rfl := standing.fresh (not_sealed_of_building allowed)
  have empty : job.accepted = none := standing.stored
  refine ⟨Nat.zero_le _, fun _ none => absurd none List.not_mem_nil, fence.trans empty, ?_,
    built.fence?_eq, ?_⟩
  · simp [fence, empty, state, JobState.sealed]
  · simp [state, pushbuffers]

/-- An accepted job may be taken from any state to any other after the acceptance. -/
theorem moved (standing : Standing job accepted) (before : job.state ∈ JobState.sealed)
    {state : JobState} (after : state ∈ JobState.sealed) :
    Standing { job with state } accepted := by
  have past : ∀ {reached : JobState}, reached ∈ JobState.sealed → reached ≠ .created := by
    intro reached member
    cases reached <;> simp_all [JobState.sealed]
  refine ⟨standing.once, standing.same, standing.stored, ?_, fence?_eq _, ?_⟩
  · exact iff_of_true (standing.sealed.mpr before) after
  · exact iff_of_true (standing.built.mpr (past before)) (past after)

end Standing

/-- States in which a job may be waited for come after the acceptance. -/
theorem sealed_of_waitable {state : JobState} (member : state ∈ waitable) : state ∈ sealed :=
  List.mem_cons_of_mem _ member

/-- A call keeps a job and what was accepted in agreement. -/
theorem Advance.standing {before after : Job × Attestation} (advance : Advance before after)
    (standing : Standing before.1 before.2) : Standing after.1 after.2 := by
  cases advance with
  | stay => exact standing
  | append building made => exact standing.building building rfl rfl (by simp)
  | @write job accepted index pushbuffer grown building found written =>
    have listed : job.pushbuffers ≠ [] := by
      rintro none
      simp [none] at found
    have state : job.state = .building :=
      (checkBuilding_eq_ok_iff.mp building).resolve_left (standing.built.mp listed)
    exact standing.building building rfl state (by simpa [replace] using listed)
  | @submit job accepted channel submission value submittable converted =>
    have state := checkSubmittable_eq_ok_iff.mp submittable
    have past : job.state ≠ .created := by simp [state]
    obtain rfl := standing.fresh (by simp [state, sealed])
    refine ⟨Nat.le_refl _, ?_, ?_, by simp [submitted, sealed], fence?_eq _, ?_⟩
    · intro entry member
      rw [List.mem_singleton.mp member]
      exact ⟨channel, converted⟩
    · rw [submitted, (toSubmission_eq_ok converted).1]
      rfl
    · exact iff_of_true (standing.built.mpr past) (by simp [submitted])
  | flush given =>
    obtain ⟨-, ⟨state, rfl⟩ | rfl⟩ := flushed_eq_ok given
    · exact standing.moved (by simp [state, sealed]) (by simp [sealed])
    · exact standing
  | @wait job accepted fence outcome allowed =>
    have early := sealed_of_waitable (waitableFence_eq_ok allowed)
    obtain ⟨-, same⟩ | ⟨-, same | same⟩ := job.waited_cases outcome
    · exact same.symm ▸ standing
    · exact same.symm ▸ standing.moved early (by simp [sealed])
    · exact same.symm ▸ standing.moved early (by simp [sealed])

/-- What a job has fixed stays fixed: a complete job stays complete, a stored fence stays, and so
do the pushbuffers of an accepted job; and its state moves along the edges. -/
structure Continues (before after : Job) : Prop where
  /-- The state moves along the edges. -/
  path : Relation.ReflTransGen Edge before.state after.state
  /-- A stored fence stays. -/
  fence : ∀ fence, before.accepted = some fence → after.accepted = some fence
  /-- The pushbuffers of an accepted job stay, with their lengths and relocations. -/
  pushbuffers : before.state ∈ sealed → after.pushbuffers = before.pushbuffers
  /-- The syncpoint stays. -/
  syncpoint : after.syncpoint = before.syncpoint

namespace Continues

/-- Nothing changes at once. -/
theorem refl (job : Job) : Continues job job :=
  ⟨.refl, fun _ stored => stored, fun _ => rfl, rfl⟩

/-- No edge leads back to a state before the acceptance. -/
theorem sealed_of_path {first last : JobState} (path : Relation.ReflTransGen Edge first last)
    (member : first ∈ sealed) : last ∈ sealed := by
  induction path with
  | refl => exact member
  | tail _ edge held => cases edge <;> simp_all [sealed]

/-- What stays fixed twice stays fixed. -/
theorem trans {first second third : Job} (earlier : Continues first second)
    (later : Continues second third) : Continues first third where
  path := earlier.path.trans later.path
  fence fence stored := later.fence fence (earlier.fence fence stored)
  pushbuffers member :=
    (later.pushbuffers (sealed_of_path earlier.path member)).trans (earlier.pushbuffers member)
  syncpoint := later.syncpoint.trans earlier.syncpoint

end Continues

/-- A call takes the state of a job along at most one edge. -/
theorem Advance.edge {before after : Job × Attestation} (advance : Advance before after) :
    after.1.state = before.1.state ∨ Edge before.1.state after.1.state := by
  cases advance with
  | stay => exact .inl rfl
  | append building made =>
    rcases checkBuilding_eq_ok_iff.mp building with state | state
    · exact .inr (state.symm ▸ Edge.build)
    · exact .inl state.symm
  | write => exact .inl rfl
  | submit value submittable converted =>
    exact .inr ((checkSubmittable_eq_ok_iff.mp submittable).symm ▸ Edge.submit)
  | flush given =>
    obtain ⟨-, ⟨state, rfl⟩ | rfl⟩ := flushed_eq_ok given
    · exact .inr (state.symm ▸ Edge.flush)
    · exact .inl rfl
  | @wait job accepted fence outcome allowed =>
    have early := waitableFence_eq_ok allowed
    obtain ⟨-, same⟩ | ⟨unfinished, same | same⟩ := job.waited_cases outcome
    · exact .inl (congrArg Job.state same)
    · rw [same]
      exact .inr (edge_complete early unfinished)
    · rw [same]
      exact .inr (edge_timedOut early unfinished)

/-- A call leaves what a job has fixed. -/
theorem Advance.continues {before after : Job × Attestation} (advance : Advance before after)
    (standing : Standing before.1 before.2) : Continues before.1 after.1 := by
  have path : Relation.ReflTransGen Edge before.1.state after.1.state :=
    advance.edge.elim (fun same => same ▸ .refl) .single
  cases advance with
  | stay => exact .refl _
  | append building made =>
    exact ⟨path, fun _ stored => stored,
      fun member => absurd member (not_sealed_of_building building), rfl⟩
  | write building found written =>
    exact ⟨path, fun _ stored => stored,
      fun member => absurd member (not_sealed_of_building building), rfl⟩
  | @submit job accepted channel submission value submittable converted =>
    have early : job.state ∉ sealed := by
      simp [checkSubmittable_eq_ok_iff.mp submittable, sealed]
    exact ⟨path, fun fence stored => absurd (standing.sealed.mp (stored ▸ rfl)) early,
      fun _ => rfl, rfl⟩
  | flush given =>
    obtain ⟨-, ⟨state, rfl⟩ | rfl⟩ := flushed_eq_ok given
    · exact ⟨path, fun _ stored => stored, fun _ => rfl, rfl⟩
    · exact .refl _
  | @wait job accepted fence outcome allowed =>
    obtain ⟨-, same⟩ | ⟨-, same | same⟩ := job.waited_cases outcome
    all_goals rw [same] at path ⊢
    all_goals exact ⟨path, fun _ stored => stored, fun _ => rfl, rfl⟩

end Job

end HostChannel
