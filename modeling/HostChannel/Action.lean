import HostChannel.Error

/-!
# Actions

An action works on a state. It gives a result or fails, and the state it leaves behind is
part of the answer in both cases, so that what a failed action has changed can be said.
-/

namespace HostChannel

/-- How an action ends without a result. -/
inductive Failure where
  /-- It is refused, for a cause that the caller can tell. -/
  | refused (cause : Error)
  /-- It is given up half-way, because memory of that length or another handle cannot be had. -/
  | aborted
  /-- It waits for something that nothing is left to bring about. -/
  | blocked
  /-- It names an object that is not there. -/
  | absent
  deriving DecidableEq, Repr

/-- The greatest number of bytes that one piece of memory can have. -/
def maxMemory : Nat := 0x7fffffffffffffff

/-- A step on a state that gives a result or fails. -/
def Action (σ α : Type) : Type :=
  σ → Except Failure α × σ

namespace Action

variable {σ τ α β : Type}

/-- Gives a result and keeps the state. -/
def result (value : α) : Action σ α :=
  fun state => (.ok value, state)

/-- One action after another; the second is not made if the first fails. -/
def andThen (first : Action σ α) (second : α → Action σ β) : Action σ β :=
  fun state =>
    match first state with
    | (.ok value, after) => second value after
    | (.error failure, after) => (.error failure, after)

instance : Monad (Action σ) where
  pure := result
  bind := andThen

/-- Fails and keeps the state. -/
def fail (failure : Failure) : Action σ α :=
  fun state => (.error failure, state)

/-- Refuses for a cause and keeps the state. -/
def refuse (cause : Error) : Action σ α :=
  fail (.refused cause)

/-- The result of a check, with the state kept. -/
def check (outcome : Except Error α) : Action σ α :=
  match outcome with
  | .ok value => result value
  | .error cause => refuse cause

/-- Gets memory for a number of bytes, or gives up if no memory has that many. -/
def makeRoom (length : Nat) : Action σ Unit :=
  if maxMemory < length then fail .aborted else result ()

/-- Gives what a function reads off the state. -/
def read (view : σ → α) : Action σ α :=
  fun state => (.ok (view state), state)

/-- Changes the state. -/
def update (change : σ → σ) : Action σ Unit :=
  fun state => (.ok (), change state)

/-- An action on a part of the state. -/
def within (part : τ → σ) (replace : τ → σ → τ) (action : Action σ α) : Action τ α :=
  fun state =>
    let (outcome, after) := action (part state)
    (outcome, replace state after)

/-- Makes the action and keeps what it changed, whether it fails or not. -/
def regardless (action : Action σ α) : Action σ Unit :=
  fun state => (.ok (), (action state).2)

@[simp] theorem pure_apply (value : α) (state : σ) :
    (pure value : Action σ α) state = (.ok value, state) := rfl

theorem bind_apply (first : Action σ α) (second : α → Action σ β) (state : σ) :
    (first >>= second) state =
      match first state with
      | (.ok value, after) => second value after
      | (.error failure, after) => (.error failure, after) := rfl

/-- What follows a result works on the state left behind. -/
theorem bind_apply_of_ok {first : Action σ α} {state after : σ} {value : α}
    (given : first state = (.ok value, after)) (second : α → Action σ β) :
    (first >>= second) state = second value after := by
  rw [bind_apply, given]

/-- Nothing follows a failure. -/
theorem bind_apply_of_error {first : Action σ α} {state after : σ} {failure : Failure}
    (failed : first state = (.error failure, after)) (second : α → Action σ β) :
    (first >>= second) state = (.error failure, after) := by
  rw [bind_apply, failed]

instance : LawfulMonad (Action σ) := .mk' (Action σ)
  (fun action => by
    funext state
    change (match action state with | (.ok value, after) => _ | (.error failure, after) => _) = _
    split <;> simp_all [result, Function.comp])
  (fun _ _ => rfl)
  (fun first second third => by
    funext state
    simp only [bind_apply]
    cases first state with
    | mk outcome after => cases outcome <;> rfl)

end Action

end HostChannel
