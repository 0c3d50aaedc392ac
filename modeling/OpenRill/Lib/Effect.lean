/-!
# Procedures whose effects stay

A procedure reads and changes a state and may throw; unlike a transaction, a procedure that
throws leaves the state as it was at the throw. `Respects` says how the state at the end is
related to the state at the start however the procedure ends, and `Raises` which failures it
can end with.
-/

namespace OpenRill.Lib.Effect

variable {condition : Prop}

def Effect (State Failure Value : Type) := State → Except Failure Value × State

variable {State Failure Value Result : Type} {first body : Effect State Failure Value}
variable {rest : Value → Effect State Failure Result}
variable {handler : Failure → Effect State Failure Value} {last : Effect State Failure Unit}
variable {failure : Failure}

instance : Monad (Effect State Failure) where
  pure value := fun state => (.ok value, state)
  bind first rest := fun state =>
    match first state with
    | (.ok value, reached) => rest value reached
    | (.error failure, reached) => (.error failure, reached)

def throws (failure : Failure) : Effect State Failure Value := fun state => (.error failure, state)

/-- A read that may fail. -/
def look (view : State → Except Failure Value) : Effect State Failure Value :=
  fun state => (view state, state)

def write (next : State → State) : Effect State Failure Unit := fun state => (.ok (), next state)

/-- Throws `failure` when the condition holds. -/
def stopIf (condition : Prop) [Decidable condition] (failure : Failure) :
    Effect State Failure Unit :=
  if condition then throws failure else pure ()

/-- `try … catch`. -/
def handle (body : Effect State Failure Value) (handler : Failure → Effect State Failure Value) :
    Effect State Failure Value := fun state =>
  match body state with
  | (.ok value, reached) => (.ok value, reached)
  | (.error failure, reached) => handler failure reached

/-- `try … finally`: a throw of the last part replaces what the body ended with. -/
def lastly (body : Effect State Failure Value) (last : Effect State Failure Unit) :
    Effect State Failure Value := fun state =>
  match last (body state).2 with
  | (.ok _, reached) => ((body state).1, reached)
  | (.error failure, reached) => (.error failure, reached)

variable {state reached : State} {value : Value}

@[simp] theorem pure_run (value : Value) :
    (pure value : Effect State Failure Value) state = (.ok value, state) := rfl

theorem bind_ok (ran : first state = (.ok value, reached)) :
    (first >>= rest) state = rest value reached := by
  change (match first state with
    | (.ok value, next) => rest value next
    | (.error failure, next) => (.error failure, next)) = _
  rw [ran]

theorem bind_error (ran : first state = (.error failure, reached)) :
    (first >>= rest) state = (.error failure, reached) := by
  change (match first state with
    | (.ok value, next) => rest value next
    | (.error failure, next) => (.error failure, next)) = _
  rw [ran]

theorem stopIf_false [Decidable condition] (fails : ¬ condition) :
    (stopIf condition failure : Effect State Failure Unit) = pure () :=
  if_neg fails

theorem stopIf_true [Decidable condition] (holds : condition) :
    (stopIf condition failure : Effect State Failure Unit) = throws failure :=
  if_pos holds

theorem bind_returns_iff (first : Effect State Failure Value)
    (rest : Value → Effect State Failure Result) (result : Result) :
    (first >>= rest) state = (.ok result, reached) ↔
      ∃ value next, first state = (.ok value, next) ∧ rest value next = (.ok result, reached) := by
  cases ran : first state with
  | mk ended next =>
    cases ended with
    | error failure =>
      rw [bind_error ran]
      constructor
      · intro same
        cases same
      · rintro ⟨value, other, same, _⟩
        cases same
    | ok value =>
      rw [bind_ok ran]
      constructor
      · intro same
        exact ⟨value, next, rfl, same⟩
      · rintro ⟨other, another, same, returned⟩
        cases same
        exact returned

theorem pure_returns_iff (value result : Value) :
    (pure value : Effect State Failure Value) state = (.ok result, reached) ↔
      value = result ∧ state = reached := by
  rw [pure_run, Prod.mk.injEq, Except.ok.injEq]

theorem look_returns_iff (view : State → Except Failure Value) (value : Value) :
    look view state = (.ok value, reached) ↔ view state = .ok value ∧ state = reached := by
  rw [look, Prod.mk.injEq]

theorem write_returns_iff (next : State → State) (done : Unit) :
    (write next : Effect State Failure Unit) state = (.ok done, reached) ↔
      next state = reached := by
  rw [write, Prod.mk.injEq]
  exact ⟨fun both => both.2, fun same => ⟨rfl, same⟩⟩

theorem stopIf_returns_iff (condition : Prop) [Decidable condition] (failure : Failure)
    (done : Unit) : (stopIf condition failure : Effect State Failure Unit) state =
      (.ok done, reached) ↔ ¬ condition ∧ state = reached := by
  by_cases holds : condition
  · rw [stopIf_true holds]
    constructor
    · intro same
      cases same
    · intro both
      exact absurd holds both.1
  · rw [stopIf_false holds, pure_returns_iff]
    exact ⟨fun both => ⟨holds, both.2⟩, fun both => ⟨rfl, both.2⟩⟩

theorem handle_ok (ran : body state = (.ok value, reached)) :
    handle body handler state = (.ok value, reached) := by
  rw [handle, ran]

theorem handle_error (ran : body state = (.error failure, reached)) :
    handle body handler state = handler failure reached := by
  rw [handle, ran]

theorem lastly_ok (ran : last (body state).2 = (.ok (), reached)) :
    lastly body last state = ((body state).1, reached) := by
  rw [lastly, ran]

theorem lastly_error (ran : last (body state).2 = (.error failure, reached)) :
    lastly body last state = (.error failure, reached) := by
  rw [lastly, ran]

section Relations

/-- However the procedure ends, the state at its end is related to the one at its start. -/
def Respects (Rel : State → State → Prop) (body : Effect State Failure Value) : Prop :=
  ∀ state, Rel state (body state).2

variable {Rel : State → State → Prop}

section

variable (refl : ∀ state, Rel state state)
include refl

theorem respects_pure (value : Value) :
    Respects Rel (pure value : Effect State Failure Value) := refl

theorem respects_throws (failure : Failure) :
    Respects Rel (throws failure : Effect State Failure Value) := refl

theorem respects_look (view : State → Except Failure Value) :
    Respects Rel (look view) := refl

end

theorem respects_write {next : State → State} (related : ∀ state, Rel state (next state)) :
    Respects Rel (write next : Effect State Failure Unit) := related

theorem respects_stopIf (refl : ∀ state, Rel state state) (condition : Prop)
    [Decidable condition] (failure : Failure) :
    Respects Rel (stopIf condition failure : Effect State Failure Unit) := by
  by_cases holds : condition
  · rw [stopIf_true holds]
    exact respects_throws refl failure
  · rw [stopIf_false holds]
    exact respects_pure refl ()

theorem respects_seq {First Rest : State → State → Prop}
    (stops : ∀ first second, First first second → Rel first second)
    (joins : ∀ first second third, First first second → Rest second third → Rel first third)
    (one : Respects First first) (other : ∀ value, Respects Rest (rest value)) :
    Respects Rel (first >>= rest) := by
  intro state
  have related := one state
  cases ran : first state with
  | mk ended reached =>
    rw [ran] at related
    cases ended with
    | error failure =>
      rw [bind_error ran]
      exact stops _ _ related
    | ok value =>
      rw [bind_ok ran]
      exact joins _ _ _ related (other value reached)

variable (trans : ∀ first second third, Rel first second → Rel second third → Rel first third)

include trans

theorem respects_bind (one : Respects Rel first) (other : ∀ value, Respects Rel (rest value)) :
    Respects Rel (first >>= rest) :=
  respects_seq (fun _ _ related => related) trans one other

theorem respects_handle (one : Respects Rel body)
    (other : ∀ failure, Respects Rel (handler failure)) : Respects Rel (handle body handler) := by
  intro state
  have related := one state
  cases ran : body state with
  | mk ended reached =>
    rw [ran] at related
    cases ended with
    | error failure =>
      rw [handle_error ran]
      exact trans _ _ _ related (other failure reached)
    | ok value =>
      rw [handle_ok ran]
      exact related

theorem respects_lastly (one : Respects Rel body) (other : Respects Rel last) :
    Respects Rel (lastly body last) := by
  intro state
  have related := trans _ _ _ (one state) (other (body state).2)
  cases ran : last (body state).2 with
  | mk ended reached =>
    rw [ran] at related
    cases ended with
    | error failure =>
      rw [lastly_error ran]
      exact related
    | ok value =>
      rw [lastly_ok ran]
      exact related

end Relations

def Raises (Allowed : Failure → Prop) (body : Effect State Failure Value) : Prop :=
  ∀ state failure, (body state).1 = .error failure → Allowed failure

variable {Allowed : Failure → Prop}

theorem raises_pure (value : Value) :
    Raises Allowed (pure value : Effect State Failure Value) := by
  intro state failure ended
  cases ended

theorem raises_throws (allowed : Allowed failure) :
    Raises Allowed (throws failure : Effect State Failure Value) := by
  intro state other ended
  cases ended
  exact allowed

theorem raises_look {view : State → Except Failure Value}
    (allowed : ∀ state failure, view state = .error failure → Allowed failure) :
    Raises Allowed (look view) := allowed

theorem raises_write (next : State → State) :
    Raises Allowed (write next : Effect State Failure Unit) := by
  intro state failure ended
  cases ended

theorem raises_stopIf [Decidable condition] (allowed : Allowed failure) :
    Raises Allowed (stopIf condition failure : Effect State Failure Unit) := by
  by_cases holds : condition
  · rw [stopIf_true holds]
    exact raises_throws allowed
  · rw [stopIf_false holds]
    exact raises_pure ()

theorem raises_bind (one : Raises Allowed first) (other : ∀ value, Raises Allowed (rest value)) :
    Raises Allowed (first >>= rest) := by
  intro state failure ended
  cases ran : first state with
  | mk result reached =>
    cases result with
    | error own =>
      rw [bind_error ran] at ended
      cases ended
      exact one state failure (by rw [ran])
    | ok value =>
      rw [bind_ok ran] at ended
      exact other value reached failure ended

theorem raises_handle (one : Raises Allowed body)
    (other : ∀ failure, Allowed failure → Raises Allowed (handler failure)) :
    Raises Allowed (handle body handler) := by
  intro state failure ended
  cases ran : body state with
  | mk result reached =>
    cases result with
    | error own =>
      rw [handle_error ran] at ended
      exact other own (one state own (by rw [ran])) reached failure ended
    | ok value =>
      rw [handle_ok ran] at ended
      cases ended

theorem raises_lastly (one : Raises Allowed body) (other : Raises Allowed last) :
    Raises Allowed (lastly body last) := by
  intro state failure ended
  cases ran : last (body state).2 with
  | mk result reached =>
    cases result with
    | error own =>
      rw [lastly_error ran] at ended
      cases ended
      exact other (body state).2 failure (by rw [ran])
    | ok value =>
      rw [lastly_ok ran] at ended
      exact one state failure ended

end OpenRill.Lib.Effect
