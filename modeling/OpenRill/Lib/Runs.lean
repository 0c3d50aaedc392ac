/-!
# Runs of a state machine

A machine is a total step function over operations; an operation that is
refused leaves the state as it was. A run is a list of operations. The rules
below carry a property of one step to every run, and to the runs all of whose
steps meet a condition.
-/

namespace OpenRill.Lib.Runs

universe u v

variable {State : Type u} {Op : Type v}
variable {condition : State → Op → Prop} {step : State → Op → State} {state : State}

def run (step : State → Op → State) (state : State) (ops : List Op) : State :=
  ops.foldl step state

section

variable (step : State → Op → State)

@[simp] theorem run_nil (state : State) :
    run step state [] = state := rfl

@[simp] theorem run_cons (state : State) (op : Op) (ops : List Op) :
    run step state (op :: ops) = run step (step state op) ops := rfl

theorem run_append (state : State) (earlier later : List Op) :
    run step state (earlier ++ later) = run step (run step state earlier) later := by
  exact List.foldl_append

theorem run_invariant (invariant : State → Prop)
    (preserved : ∀ state op, invariant state → invariant (step state op)) (state : State)
    (ops : List Op) (initially : invariant state) : invariant (run step state ops) := by
  induction ops generalizing state with
  | nil => exact initially
  | cons op ops ih => exact ih (step state op) (preserved state op initially)

/-- A reflexive and transitive relation that every step from an invariant state
respects relates the two ends of every run. -/
theorem run_relates (invariant : State → Prop) (relation : State → State → Prop)
    (refl : ∀ state, relation state state) (trans : ∀ first second third,
      relation first second → relation second third → relation first third)
    (preserved : ∀ state op, invariant state → invariant (step state op))
    (respected : ∀ state op, invariant state → relation state (step state op)) (state : State)
    (ops : List Op) (initially : invariant state) : relation state (run step state ops) := by
  induction ops generalizing state with
  | nil => exact refl state
  | cons op ops ih =>
    have first : relation state (step state op) := respected state op initially
    have rest : relation (step state op) (run step (step state op) ops) :=
      ih (step state op) (preserved state op initially)
    exact trans _ _ _ first rest

end

/-- Every step of the run is taken from a state that meets the condition with
that operation. -/
def EveryStep (step : State → Op → State) (condition : State → Op → Prop) :
    State → List Op → Prop
  | _, [] => True
  | state, op :: ops => condition state op ∧ EveryStep step condition (step state op) ops

instance decidableEveryStep (step : State → Op → State) (condition : State → Op → Prop)
    [∀ state op, Decidable (condition state op)] :
    ∀ state ops, Decidable (EveryStep step condition state ops)
  | _, [] => isTrue trivial
  | state, op :: ops =>
    have : Decidable (EveryStep step condition (step state op) ops) :=
      decidableEveryStep step condition (step state op) ops
    inferInstanceAs (Decidable (condition state op ∧ _))

theorem everyStep_append (step : State → Op → State)
    (condition : State → Op → Prop) (state : State) (earlier later : List Op) :
    EveryStep step condition state (earlier ++ later) ↔
      EveryStep step condition state earlier ∧
        EveryStep step condition (run step state earlier) later := by
  induction earlier generalizing state with
  | nil => simp [EveryStep]
  | cons op earlier ih => simp [EveryStep, ih, and_assoc]

theorem everyStep_of_forall (step : State → Op → State) (holds : ∀ state op, condition state op)
    (state : State) (ops : List Op) : EveryStep step condition state ops := by
  induction ops generalizing state with
  | nil => exact trivial
  | cons op ops ih => exact ⟨holds state op, ih (step state op)⟩

theorem everyStep_mono {weaker : State → Op → Prop}
    (implies : ∀ state op, condition state op → weaker state op) {ops : List Op}
    (meets : EveryStep step condition state ops) : EveryStep step weaker state ops := by
  induction ops generalizing state with
  | nil => exact trivial
  | cons op ops ih => exact ⟨implies state op meets.1, ih meets.2⟩

/-- Two conditions that agree on every state that meets an invariant are met by the same
runs. -/
theorem everyStep_iff {other : State → Op → Prop} {invariant : State → Prop}
    (preserved : ∀ state op, invariant state → invariant (step state op))
    (agree : ∀ state op, invariant state → (condition state op ↔ other state op)) (ops : List Op)
    (initially : invariant state) :
    EveryStep step condition state ops ↔ EveryStep step other state ops := by
  induction ops generalizing state with
  | nil => exact Iff.rfl
  | cons op ops ih =>
    exact and_congr (agree state op initially) (ih (preserved state op initially))

/-- An invariant that a step preserves when it meets the condition holds after
every run whose steps all meet it. -/
theorem run_invariant_of_everyStep (step : State → Op → State)
    (condition : State → Op → Prop) (invariant : State → Prop)
    (preserved : ∀ state op, condition state op → invariant state → invariant (step state op))
    (state : State) (ops : List Op) (initially : invariant state)
    (meets : EveryStep step condition state ops) :
    invariant (run step state ops) := by
  induction ops generalizing state with
  | nil => exact initially
  | cons op ops ih =>
    obtain ⟨first, rest⟩ := meets
    exact ih (step state op) (preserved state op first initially) rest

end OpenRill.Lib.Runs
