import HostChannel.Proofs.Action

/-!
# What a run leads to

Where an action breaks an invariant and makes it good again, it is not enough to say what a run
upholds. A triple says where a run starts, where it ends with a result, of which it may speak, and
where it ends without one.
-/

namespace HostChannel.Action

variable {σ τ α β : Type}

/-- A run that starts where `before` holds ends with a result of which `after` holds, or without one
where `failed` holds. -/
def Leads (before : σ → Prop) (action : Action σ α) (after : α → σ → Prop) (failed : σ → Prop) :
    Prop :=
  ∀ state, before state →
    (∀ value reached, action state = (.ok value, reached) → after value reached) ∧
      ∀ failure reached, action state = (.error failure, reached) → failed reached

namespace Leads

variable {before : σ → Prop} {after : α → σ → Prop} {failed : σ → Prop}

/-- A run that starts where more holds ends where less is asked for. -/
theorem weaken {earlier : σ → Prop} {later : α → σ → Prop} {otherwise : σ → Prop}
    {action : Action σ α} (leads : Leads before action after failed)
    (start : ∀ state, earlier state → before state)
    (passed : ∀ value state, after value state → later value state)
    (gone : ∀ state, failed state → otherwise state) :
    Leads earlier action later otherwise := by
  intro state holds
  obtain ⟨given, lost⟩ := leads state (start state holds)
  exact ⟨fun value reached made => passed value reached (given value reached made),
    fun failure reached made => gone reached (lost failure reached made)⟩

/-- An action that is seen to succeed leads where it ends. -/
theorem of_ok {action : Action σ α}
    (run : ∀ state, before state → ∃ value reached, action state = (.ok value, reached) ∧
      after value reached) : Leads before action after failed := by
  intro state start
  obtain ⟨value, reached, made, holds⟩ := run state start
  refine ⟨fun given other same => ?_, fun failure other same => ?_⟩
  · obtain ⟨equal, rfl⟩ := Prod.mk.inj (made.symm.trans same)
    rwa [← Except.ok.inj equal]
  · rw [made] at same
    simp at same

/-- A pure action ends where it starts. -/
theorem pure {value : α} (holds : ∀ state, before state → after value state) :
    Leads before (pure value : Action σ α) after failed := by
  refine fun state start => ⟨fun given reached made => ?_, fun failure reached made => ?_⟩
  · obtain ⟨rfl, rfl⟩ := pure_eq_ok_iff.mp made
    exact holds state start
  · simp at made

/-- A failure ends where it starts. -/
theorem fail (failure : Failure) (lost : ∀ state, before state → failed state) :
    Leads before (Action.fail failure : Action σ α) after failed := by
  refine fun state start => ⟨fun given reached made => ?_, fun other reached made => ?_⟩
  · simp at made
  · obtain ⟨-, rfl⟩ := Prod.mk.inj made
    exact lost state start

/-- Reading gives what is seen. -/
theorem read (view : σ → α) :
    Leads before (Action.read view) (fun value state => before state ∧ value = view state)
      failed := by
  refine fun state start => ⟨fun given reached made => ?_, fun failure reached made => ?_⟩
  · obtain ⟨given, rfl⟩ := Prod.mk.inj made
    exact ⟨start, (Except.ok.inj given).symm⟩
  · simp at made

/-- Whatever is seen, reading ends where it starts. -/
theorem read_any (view : σ → α) :
    Leads before (Action.read view) (fun _ => before) failed :=
  (Leads.read view).weaken (fun _ start => start) (fun _ _ ends => ends.1) fun _ ends => ends

/-- What holds of no state in particular may be assumed. -/
theorem assume {fact : Prop} {action : Action σ α}
    (leads : fact → Leads before action after failed) :
    Leads (fun state => before state ∧ fact) action after failed :=
  fun state start => leads start.2 state start.1

/-- A check gives what it has. -/
theorem check (outcome : Except Error α) (lost : ∀ state, before state → failed state) :
    Leads before (Action.check outcome) (fun value state => before state ∧ outcome = .ok value)
      failed := by
  cases outcome with
  | error cause => exact Leads.fail (.refused cause) lost
  | ok value => exact Leads.pure fun state start => ⟨start, rfl⟩

/-- An update ends where it says. -/
theorem update {change : σ → σ} {after : σ → Prop}
    (changed : ∀ state, before state → after (change state)) :
    Leads before (Action.update change) (fun _ => after) failed := by
  refine fun state start => ⟨fun given reached made => ?_, fun failure reached made => ?_⟩
  · obtain ⟨-, rfl⟩ := Prod.mk.inj made
    exact changed state start
  · simp at made

/-- A sequence goes on from where its first part ends. -/
theorem bind {middle : α → σ → Prop} {last : β → σ → Prop} {first : Action σ α}
    {second : α → Action σ β} (start : Leads before first middle failed)
    (rest : ∀ value, Leads (middle value) (second value) last failed) :
    Leads before (first >>= second) last failed := by
  intro state holds
  obtain ⟨given, lost⟩ := start state holds
  rw [bind_apply]
  cases made : first state with
  | mk outcome between =>
    cases outcome with
    | error failure =>
      refine ⟨fun value reached absurdity => by simp at absurdity, fun other reached same => ?_⟩
      obtain ⟨-, rfl⟩ := Prod.mk.inj same
      exact lost failure between made
    | ok value => exact rest value between (given value between made)

/-- Actions on the elements of a list, one after the other, lead back to where they start if each of
them does. -/
theorem forM {invariant : σ → Prop} {action : α → Action σ Unit} {elements : List α}
    (leads : ∀ element ∈ elements,
      Leads invariant (action element) (fun _ => invariant) failed) :
    Leads invariant (elements.forM action) (fun _ => invariant) failed := by
  induction elements with
  | nil => exact Leads.pure fun _ holds => holds
  | cons head rest ih =>
    obtain ⟨first, others⟩ := List.forall_mem_cons.mp leads
    exact Leads.bind first fun _ => ih others

/-- An action on a part of the state leads the whole where it leads the part, if what is asked of
the whole follows from where it was before and where the part is now. -/
theorem within {inner : τ → Prop} {innerAfter : α → τ → Prop} {innerFailed : τ → Prop}
    {part : σ → τ} {replace : σ → τ → σ} {action : Action τ α}
    (leads : Leads inner action innerAfter innerFailed)
    (start : ∀ state, before state → inner (part state))
    (passed : ∀ state value reached, before state → innerAfter value reached →
      after value (replace state reached))
    (gone : ∀ state reached, before state → innerFailed reached → failed (replace state reached)) :
    Leads before (Action.within part replace action) after failed := by
  intro state holds
  obtain ⟨given, lost⟩ := leads (part state) (start state holds)
  rw [within_apply]
  refine ⟨fun value reached made => ?_, fun failure reached made => ?_⟩
  · obtain ⟨outcome, rfl⟩ := Prod.mk.inj made
    exact passed state value _ holds (given value _ (Prod.ext outcome rfl))
  · obtain ⟨outcome, rfl⟩ := Prod.mk.inj made
    exact gone state _ holds (lost failure _ (Prod.ext outcome rfl))

/-- An action that leads somewhere and never fails succeeds there. -/
theorem succeeds {action : Action σ α} (leads : Leads before action after fun _ => False)
    {state : σ} (start : before state) :
    ∃ value reached, action state = (.ok value, reached) ∧ after value reached := by
  obtain ⟨given, lost⟩ := leads state start
  cases made : action state with
  | mk outcome reached =>
    cases outcome with
    | ok value => exact ⟨value, reached, rfl, given value reached made⟩
    | error failure => exact (lost failure reached made).elim

end Leads

end HostChannel.Action
