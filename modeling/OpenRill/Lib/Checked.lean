/-!
# Checked computations and rolled-back transactions

The vocabulary of a fallible operation over a state: a guard that throws, a
lookup that throws when it finds nothing, and the inversion of a successful
sequence into the facts each of its parts established. `commit` is the meaning
of a database transaction whose body throws: nothing of it is kept.
-/

namespace OpenRill.Lib.Checked

universe u v w

variable {Failure : Type u} {Value Next : Type v} {Result : Type w}

def require (condition : Prop) [Decidable condition] (failure : Failure) :
    Except Failure Unit :=
  if condition then .ok () else .error failure

def fetch (found : Option Value) (failure : Failure) : Except Failure Value :=
  match found with
  | some value => .ok value
  | none => .error failure

@[simp] theorem require_ok_iff (condition : Prop) [Decidable condition]
    (failure : Failure) (done : Unit) :
    require condition failure = .ok done ↔ condition := by
  unfold require
  by_cases holds : condition
  · simp [holds]
  · simp [holds]

@[simp] theorem fetch_ok_iff (found : Option Value) (failure : Failure)
    (value : Value) :
    fetch found failure = .ok value ↔ found = some value := by
  cases found with
  | none => simp [fetch]
  | some other => simp [fetch]

@[simp] theorem pure_ok_iff (value result : Value) :
    (pure value : Except Failure Value) = .ok result ↔ value = result := by
  simp [pure, Except.pure]

/-- A sequence succeeds exactly when its first part does and the rest succeeds
on what the first part returned. -/
theorem bind_ok_iff (first : Except Failure Value) (rest : Value → Except Failure Next)
    (result : Next) :
    (first >>= rest) = .ok result ↔ ∃ value, first = .ok value ∧ rest value = .ok result := by
  cases first with
  | error failure => simp [bind, Except.bind]
  | ok value => simp [bind, Except.bind]

variable {State : Type v}

/-- A transaction keeps the state its body reached, or on a throw the state it
began with. -/
def commit (state : State) (body : Except Failure (State × Result)) : State :=
  match body with
  | .ok (reached, _) => reached
  | .error _ => state

@[simp] theorem commit_ok (state reached : State) (result : Result) :
    commit state (.ok (reached, result) : Except Failure (State × Result)) =
      reached := rfl

@[simp] theorem commit_error (state : State) (failure : Failure) :
    commit state (.error failure : Except Failure (State × Result)) = state := rfl

/-- What holds before and of every state the body can reach holds after the
transaction. -/
theorem commit_preserves (property : State → Prop) (state : State)
    (body : Except Failure (State × Result)) (before : property state)
    (reached_ok : ∀ reached result, body = .ok (reached, result) → property reached) :
    property (commit state body) := by
  cases body with
  | error failure => exact before
  | ok pair => exact reached_ok pair.1 pair.2 rfl

end OpenRill.Lib.Checked
