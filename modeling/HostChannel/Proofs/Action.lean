import HostChannel.Action
import Mathlib.Data.List.Forall2
import Mathlib.Order.Defs.Unbundled

/-!
# Laws of actions

A sequence of actions gives a result exactly when each of its parts does. Where an action
may take the state is said by a relation between the states before and after it, whether it
gives a result or fails; a preorder that the parts keep to is kept by the sequence.
-/

namespace HostChannel.Action

variable {σ τ α β : Type}

/-- A sequence gives a result exactly when both of its parts do. -/
theorem bind_eq_ok_iff {first : Action σ α} {second : α → Action σ β} {state after : σ}
    {value : β} :
    (first >>= second) state = (.ok value, after) ↔
      ∃ given between, first state = (.ok given, between) ∧
        second given between = (.ok value, after) := by
  rw [bind_apply]
  constructor
  · intro run
    split at run
    · rename_i given between made
      exact ⟨given, between, made, run⟩
    · simp at run
  · rintro ⟨given, between, made, rest⟩
    rw [made]
    exact rest

/-- A sequence fails exactly when its first part does, or its second part after the first. -/
theorem bind_eq_error_iff {first : Action σ α} {second : α → Action σ β} {state after : σ}
    {failure : Failure} :
    (first >>= second) state = (.error failure, after) ↔
      first state = (.error failure, after) ∨
        ∃ given between, first state = (.ok given, between) ∧
          second given between = (.error failure, after) := by
  rw [bind_apply]
  cases first state with
  | mk outcome between => cases outcome <;> simp

/-- What is left behind by a sequence has a property if it has it where the first part fails, and
where the second part ends after the first. -/
theorem bind_leaves (property : σ → Prop) {first : Action σ α} {second : α → Action σ β}
    {state : σ}
    (failed : ∀ failure between, first state = (.error failure, between) → property between)
    (passed : ∀ given between, first state = (.ok given, between) →
      property (second given between).2) :
    property ((first >>= second) state).2 := by
  rw [bind_apply]
  cases made : first state with
  | mk outcome between =>
    cases outcome with
    | error failure => exact failed failure between made
    | ok given => exact passed given between made

/-- Saying what is given in another way leaves the same behind. -/
theorem bind_pure_leaves (action : Action σ α) (view : α → β) (state : σ) :
    ((action >>= fun value => pure (view value)) state).2 = (action state).2 := by
  rw [bind_apply]
  cases action state with
  | mk outcome after => cases outcome <;> rfl

/-- The value of a pure action is its result, and the state is kept. -/
theorem pure_eq_ok_iff {value given : α} {state after : σ} :
    (pure value : Action σ α) state = (.ok given, after) ↔ value = given ∧ state = after := by
  simp

/-- A check gives a result exactly when it has one. -/
theorem check_eq_ok_iff {outcome : Except Error α} {value : α} {state after : σ} :
    check outcome state = (.ok value, after) ↔ outcome = .ok value ∧ state = after := by
  cases outcome <;> simp [check, result, refuse, fail]

/-- A check fails exactly when it has no result. -/
theorem check_eq_error_iff {outcome : Except Error α} {failure : Failure} {state after : σ} :
    check outcome state = (.error failure, after) ↔
      ∃ cause, outcome = .error cause ∧ failure = .refused cause ∧ state = after := by
  cases outcome <;> simp [check, result, refuse, fail, eq_comm]

/-- Two checks are passed exactly when the first is, and the second with what the first gives. -/
theorem checks_eq_ok_iff {first : Except Error α} {second : α → Except Error β} {value : β} :
    (first >>= second) = .ok value ↔ ∃ given, first = .ok given ∧ second given = .ok value := by
  cases first with
  | error cause => simp [bind, Except.bind]
  | ok given => simp [bind, Except.bind]

/-- Two checks fail exactly when the first does, or the second with what the first gives. -/
theorem checks_eq_error_iff {first : Except Error α} {second : α → Except Error β} {cause : Error} :
    (first >>= second) = .error cause ↔
      first = .error cause ∨ ∃ given, first = .ok given ∧ second given = .error cause := by
  cases first <;> simp [bind, Except.bind]

/-- Checks that go through a list fail where one of them does. -/
theorem foldlM_eq_error {check : β → α → Except Error β} {elements : List α} {before : β}
    {cause : Error} (failed : elements.foldlM check before = .error cause) :
    ∃ value, ∃ element ∈ elements, check value element = .error cause := by
  induction elements generalizing before with
  | nil => simp [pure, Except.pure] at failed
  | cons head rest ih =>
    rw [List.foldlM_cons] at failed
    rcases checks_eq_error_iff.mp failed with first | ⟨value, -, others⟩
    · exact ⟨before, head, List.mem_cons_self, first⟩
    · obtain ⟨given, element, member, last⟩ := ih others
      exact ⟨given, element, List.mem_cons_of_mem head member, last⟩

/-- All elements of a list fail a check where one of them does. -/
theorem mapM_eq_error {check : α → Except Error β} {elements : List α} {cause : Error}
    (failed : elements.mapM check = .error cause) :
    ∃ element ∈ elements, check element = .error cause := by
  induction elements with
  | nil => simp [pure, Except.pure] at failed
  | cons head rest ih =>
    rw [List.mapM_cons] at failed
    rcases checks_eq_error_iff.mp failed with first | ⟨_, -, others⟩
    · exact ⟨head, List.mem_cons_self, first⟩
    · rcases checks_eq_error_iff.mp others with later | ⟨_, -, last⟩
      · obtain ⟨element, member, same⟩ := ih later
        exact ⟨element, List.mem_cons_of_mem head member, same⟩
      · simp [pure, Except.pure] at last

/-- The elements of a list all pass a check exactly when each of them does, and the values are what
the check gives for them. -/
theorem mapM_eq_ok_iff {check : α → Except Error β} {elements : List α} {values : List β} :
    elements.mapM check = .ok values ↔
      List.Forall₂ (fun element value => check element = .ok value) elements values := by
  induction elements generalizing values with
  | nil => simp [pure, Except.pure, eq_comm]
  | cons head rest ih =>
    rw [List.mapM_cons, List.forall₂_cons_left_iff, checks_eq_ok_iff]
    constructor
    · rintro ⟨value, first, others⟩
      obtain ⟨more, passed, last⟩ := checks_eq_ok_iff.mp others
      exact ⟨value, more, first, ih.mp passed, (Except.ok.inj last).symm⟩
    · rintro ⟨value, more, first, others, rfl⟩
      exact ⟨value, first, checks_eq_ok_iff.mpr ⟨more, ih.mpr others, rfl⟩⟩

/-- Where all elements of a list pass a check, each gives one of the values. -/
theorem exists_of_mapM_eq_ok {check : α → Except Error β} {elements : List α} {values : List β}
    (passed : elements.mapM check = .ok values) {element : α} (member : element ∈ elements) :
    ∃ value ∈ values, check element = .ok value := by
  obtain ⟨length, each⟩ := List.forall₂_iff_get.mp (mapM_eq_ok_iff.mp passed)
  obtain ⟨index, inside, rfl⟩ := List.getElem_of_mem member
  exact ⟨_, List.getElem_mem _, each index inside (length ▸ inside)⟩

/-- A check that is passed does nothing. -/
theorem check_ok (value : α) (state : σ) : check (.ok value) state = (.ok value, state) := rfl

/-- There is memory for a number of bytes that a memory can have. -/
theorem makeRoom_of_le {length : Nat} (short : length ≤ maxMemory) :
    (makeRoom length : Action σ Unit) = pure () :=
  if_neg (Nat.not_lt.mpr short)

/-- For more there is none, and all is given up. -/
theorem makeRoom_of_lt {length : Nat} (overlong : maxMemory < length) (state : σ) :
    makeRoom length state = (.error .aborted, state) :=
  congrFun (if_pos overlong) state

/-- Reading gives what is seen, and keeps the state. -/
@[simp] theorem read_apply (view : σ → α) (state : σ) :
    read view state = (.ok (view state), state) := rfl

/-- An update gives nothing and changes the state. -/
@[simp] theorem update_apply (change : σ → σ) (state : σ) :
    update change state = (.ok (), change state) := rfl

/-- A failure keeps the state. -/
@[simp] theorem fail_apply (failure : Failure) (state : σ) :
    (fail failure : Action σ α) state = (.error failure, state) := rfl

/-- What follows a reading is given what is seen. -/
theorem read_bind (view : σ → α) (second : α → Action σ β) (state : σ) :
    (read view >>= second) state = second (view state) state := rfl

/-- What follows an update works on the changed state. -/
theorem update_bind (change : σ → σ) (second : Unit → Action σ β) (state : σ) :
    (update change >>= second) state = second () (change state) := rfl

/-- What is left behind after a check has a property if the state has it, or if it is passed and
what follows leaves it behind. -/
theorem check_leaves (property : σ → Prop) {outcome : Except Error α} {second : α → Action σ β}
    {state : σ} (refused : property state)
    (passed : ∀ value, outcome = .ok value → property (second value state).2) :
    property ((check outcome >>= second) state).2 := by
  cases outcome with
  | error cause => exact refused
  | ok value => exact passed value rfl

/-- What an action on a part of the state gives, and what it leaves behind. -/
theorem within_apply (part : τ → σ) (replace : τ → σ → τ) (action : Action σ α) (state : τ) :
    within part replace action state =
      ((action (part state)).1, replace state (action (part state)).2) := rfl

/-- An action that runs so on the part runs so on the whole. -/
theorem within_run {part : τ → σ} {replace : τ → σ → τ} {action : Action σ α} {state : τ}
    {outcome : Except Failure α} {after : σ} (run : action (part state) = (outcome, after)) :
    within part replace action state = (outcome, replace state after) := by
  rw [within_apply, run]

/-- Every run of an action goes from a state to one that stands in the relation to it. -/
def Moves (relation : σ → σ → Prop) (action : Action σ α) : Prop :=
  ∀ state, relation state (action state).2

namespace Moves

variable {relation : σ → σ → Prop}

/-- A pure action stays where it is. -/
theorem pure [Std.Refl relation] (value : α) : Moves relation (pure value : Action σ α) :=
  fun state => refl_of relation state

/-- A failure stays where it is. -/
theorem fail [Std.Refl relation] (failure : Failure) :
    Moves relation (Action.fail failure : Action σ α) :=
  fun state => refl_of relation state

/-- Reading stays where it is. -/
theorem read [Std.Refl relation] (view : σ → α) : Moves relation (Action.read view) :=
  fun state => refl_of relation state

/-- A check stays where it is. -/
theorem check [Std.Refl relation] (outcome : Except Error α) :
    Moves relation (Action.check outcome : Action σ α) := by
  intro state
  cases outcome <;> exact refl_of relation state

/-- Getting memory stays where it is. -/
theorem makeRoom [Std.Refl relation] (length : Nat) :
    Moves relation (Action.makeRoom length : Action σ Unit) := by
  intro state
  rw [Action.makeRoom]
  split <;> exact refl_of relation state

/-- An update goes where it says. -/
theorem update {change : σ → σ} (allowed : ∀ state, relation state (change state)) :
    Moves relation (Action.update change) :=
  allowed

/-- A sequence of actions goes where its parts go. -/
theorem bind [IsTrans σ relation] {first : Action σ α} {second : α → Action σ β}
    (start : Moves relation first) (rest : ∀ value, Moves relation (second value)) :
    Moves relation (first >>= second) := by
  intro state
  have reached := start state
  rw [bind_apply]
  cases made : first state with
  | mk outcome between =>
    rw [made] at reached
    cases outcome with
    | error failure => exact reached
    | ok value => exact trans_of relation reached (rest value between)

/-- What is made of an action whose answer does not matter goes where the action goes. -/
theorem regardless {action : Action σ α} (moves : Moves relation action) :
    Moves relation (Action.regardless action) :=
  moves

/-- Actions on the elements of a list, one after the other, go where each of them goes. -/
theorem forM [IsPreorder σ relation] {action : α → Action σ Unit}
    (moves : ∀ element, Moves relation (action element)) (elements : List α) :
    Moves relation (elements.forM action) := by
  induction elements with
  | nil => exact Moves.pure ()
  | cons head rest ih => exact Moves.bind (moves head) fun _ => ih

end Moves

/-- A run of an action that starts where an invariant holds ends there, and what it gives has the
property. -/
def Upholds (invariant : σ → Prop) (action : Action σ α) (property : α → Prop) : Prop :=
  ∀ state, invariant state →
    invariant (action state).2 ∧ ∀ value, (action state).1 = .ok value → property value

namespace Upholds

variable {invariant : σ → Prop} {property : α → Prop}

/-- A pure action gives its value. -/
theorem pure {value : α} (holds : property value) :
    Upholds invariant (pure value : Action σ α) property :=
  fun _ held => ⟨held, fun _ given => Except.ok.inj given ▸ holds⟩

/-- A failure gives nothing. -/
theorem fail (failure : Failure) : Upholds invariant (Action.fail failure : Action σ α) property :=
  fun _ held => ⟨held, fun _ given => absurd given (by simp)⟩

/-- Reading gives what is seen where the invariant holds. -/
theorem read {view : σ → α} (holds : ∀ state, invariant state → property (view state)) :
    Upholds invariant (Action.read view) property :=
  fun state held => ⟨held, fun _ given => Except.ok.inj given ▸ holds state held⟩

/-- A check gives what it has. -/
theorem check {outcome : Except Error α} (holds : ∀ value, outcome = .ok value → property value) :
    Upholds invariant (Action.check outcome : Action σ α) property := by
  intro state held
  cases outcome with
  | error cause => exact ⟨held, fun _ given => absurd given (by simp [Action.check, refuse])⟩
  | ok value => exact ⟨held, fun _ given => Except.ok.inj given ▸ holds value rfl⟩

/-- Reading upholds everything, whatever is seen. -/
theorem read_any (view : σ → α) : Upholds invariant (Action.read view) fun _ => True :=
  Upholds.read fun _ _ => trivial

/-- So does a check, whatever it has. -/
theorem check_any (outcome : Except Error α) :
    Upholds invariant (Action.check outcome : Action σ α) fun _ => True :=
  Upholds.check fun _ _ => trivial

/-- An update upholds what it keeps. -/
theorem update {change : σ → σ} (kept : ∀ state, invariant state → invariant (change state)) :
    Upholds invariant (Action.update change) fun _ => True :=
  fun state held => ⟨kept state held, fun _ _ => trivial⟩

/-- A sequence upholds what its parts do; the second may use what the first gives. -/
theorem bind {middle : α → Prop} {last : β → Prop} {first : Action σ α} {second : α → Action σ β}
    (start : Upholds invariant first middle)
    (rest : ∀ value, middle value → Upholds invariant (second value) last) :
    Upholds invariant (first >>= second) last := by
  intro state held
  have begun := start state held
  rw [bind_apply]
  cases made : first state with
  | mk outcome between =>
    rw [made] at begun
    cases outcome with
    | error failure => exact ⟨begun.1, fun _ given => absurd given (by simp)⟩
    | ok value => exact rest value (begun.2 value rfl) between begun.1

/-- Moves that keep the invariant uphold it. -/
theorem of_moves {action : Action σ α}
    (moves : Moves (fun before after => invariant before → invariant after) action) :
    Upholds invariant action fun _ => True :=
  fun state held => ⟨moves state held, fun _ _ => trivial⟩

/-- An action on a part of the state upholds an invariant of the whole that follows from one of
the part. -/
theorem within {inner : τ → Prop} {part : σ → τ} {replace : σ → τ → σ} {action : Action τ α}
    (upholds : Upholds inner action property)
    (given : ∀ state, invariant state → inner (part state))
    (back : ∀ state after, invariant state → inner after → invariant (replace state after)) :
    Upholds invariant (Action.within part replace action) property := by
  intro state held
  have made := upholds (part state) (given state held)
  exact ⟨back state _ held made.1, made.2⟩

/-- Actions on the elements of a list, one after the other, uphold what each of them does. -/
theorem forM {action : α → Action σ Unit} {elements : List α}
    (upholds : ∀ element ∈ elements, Upholds invariant (action element) fun _ => True) :
    Upholds invariant (elements.forM action) fun _ => True := by
  induction elements with
  | nil => exact Upholds.pure trivial
  | cons head rest ih =>
    obtain ⟨first, others⟩ := List.forall_mem_cons.mp upholds
    exact Upholds.bind first fun _ _ => ih others

end Upholds

/-- Checks made one after the other all pass exactly when each of them does. -/
theorem forM_eq_ok_iff {check : α → Action σ Unit} (kept : ∀ element, Moves (· = ·) (check element))
    (elements : List α) (state : σ) :
    elements.forM check state = (.ok (), state) ↔
      ∀ element ∈ elements, check element state = (.ok (), state) := by
  induction elements with
  | nil => simp [List.forM_eq_forM, List.forM_nil]
  | cons head rest ih =>
    rw [List.forall_mem_cons, ← ih]
    change (check head >>= fun _ => rest.forM check) state = _ ↔ _
    rw [bind_eq_ok_iff]
    constructor
    · rintro ⟨_, between, first, second⟩
      have same : between = state := by
        have stayed := kept head state
        rw [first] at stayed
        exact stayed.symm
      subst same
      exact ⟨first, second⟩
    · rintro ⟨first, second⟩
      exact ⟨(), state, first, second⟩

/-- Checks made one after the other fail where one of them does. -/
theorem forM_eq_error {check : α → Action σ Unit} (kept : ∀ element, Moves (· = ·) (check element))
    {elements : List α} {state after : σ} {failure : Failure}
    (failed : elements.forM check state = (.error failure, after)) :
    ∃ element ∈ elements, check element state = (.error failure, state) := by
  induction elements with
  | nil => simp [List.forM_eq_forM, List.forM_nil] at failed
  | cons head rest ih =>
    change (check head >>= fun _ => rest.forM check) state = _ at failed
    have stayed := kept head state
    cases made : check head state with
    | mk outcome between =>
      rw [made] at stayed
      subst stayed
      cases outcome with
      | error other =>
        rw [bind_apply_of_error made] at failed
        obtain rfl := Except.error.inj (Prod.mk.inj failed).1
        exact ⟨head, List.mem_cons_self, made⟩
      | ok value =>
        rw [bind_apply_of_ok made] at failed
        obtain ⟨element, member, refused⟩ := ih failed
        exact ⟨element, List.mem_cons_of_mem head member, refused⟩

end HostChannel.Action
