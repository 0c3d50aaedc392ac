import Mathlib.Algebra.BigOperators.Group.List.Basic
import Mathlib.Algebra.Order.Group.Nat

/-!
# Usage and capacity vectors

The five counters an execution reports, and the four dimensions in which a run
reserves capacity for a child. Both add componentwise.
-/

namespace OpenRill.State

@[ext]
structure Usage where
  turns : Nat
  inputTokens : Nat
  outputTokens : Nat
  modelCalls : Nat
  toolCalls : Nat
  deriving DecidableEq

namespace Usage

instance : Zero Usage where
  zero :=
    { turns := 0, inputTokens := 0, outputTokens := 0, modelCalls := 0, toolCalls := 0 }

instance : Add Usage where
  add first second :=
    { turns := first.turns + second.turns
      inputTokens := first.inputTokens + second.inputTokens
      outputTokens := first.outputTokens + second.outputTokens
      modelCalls := first.modelCalls + second.modelCalls
      toolCalls := first.toolCalls + second.toolCalls }

@[simp] theorem zero_turns : (0 : Usage).turns = 0 := rfl
@[simp] theorem zero_inputTokens : (0 : Usage).inputTokens = 0 := rfl
@[simp] theorem zero_outputTokens : (0 : Usage).outputTokens = 0 := rfl
@[simp] theorem zero_modelCalls : (0 : Usage).modelCalls = 0 := rfl
@[simp] theorem zero_toolCalls : (0 : Usage).toolCalls = 0 := rfl

variable (first second : Usage)

@[simp] theorem add_turns : (first + second).turns = first.turns + second.turns := rfl
@[simp] theorem add_inputTokens :
    (first + second).inputTokens = first.inputTokens + second.inputTokens := rfl
@[simp] theorem add_outputTokens :
    (first + second).outputTokens = first.outputTokens + second.outputTokens := rfl
@[simp] theorem add_modelCalls :
    (first + second).modelCalls = first.modelCalls + second.modelCalls := rfl
@[simp] theorem add_toolCalls :
    (first + second).toolCalls = first.toolCalls + second.toolCalls := rfl

instance : AddCommMonoid Usage where
  nsmul := nsmulRec
  add_assoc := by
    intro a b c
    ext <;> simp [Nat.add_assoc]
  zero_add := by
    intro a
    ext <;> simp
  add_zero := by
    intro a
    ext <;> simp
  add_comm := by
    intro a b
    ext <;> simp [Nat.add_comm]

end Usage

/-- What a reservation holds for a child and a ceiling allows. -/
@[ext]
structure Capacity where
  turns : Nat
  modelCalls : Nat
  toolCalls : Nat
  totalTokens : Nat
  deriving DecidableEq

namespace Capacity

instance : Zero Capacity where
  zero :=
    { turns := 0, modelCalls := 0, toolCalls := 0, totalTokens := 0 }

instance : Add Capacity where
  add first second :=
    { turns := first.turns + second.turns
      modelCalls := first.modelCalls + second.modelCalls
      toolCalls := first.toolCalls + second.toolCalls
      totalTokens := first.totalTokens + second.totalTokens }

instance : LE Capacity where
  le first second :=
    first.turns ≤ second.turns ∧ first.modelCalls ≤ second.modelCalls ∧
      first.toolCalls ≤ second.toolCalls ∧ first.totalTokens ≤ second.totalTokens

instance (first second : Capacity) : Decidable (first ≤ second) := by
  unfold LE.le instLE
  infer_instance

theorem le_iff (first second : Capacity) :
    first ≤ second ↔
      first.turns ≤ second.turns ∧ first.modelCalls ≤ second.modelCalls ∧
        first.toolCalls ≤ second.toolCalls ∧ first.totalTokens ≤ second.totalTokens :=
  Iff.rfl

@[simp] theorem zero_turns : (0 : Capacity).turns = 0 := rfl
@[simp] theorem zero_modelCalls : (0 : Capacity).modelCalls = 0 := rfl
@[simp] theorem zero_toolCalls : (0 : Capacity).toolCalls = 0 := rfl
@[simp] theorem zero_totalTokens : (0 : Capacity).totalTokens = 0 := rfl

variable (first second : Capacity)

@[simp] theorem add_turns : (first + second).turns = first.turns + second.turns := rfl
@[simp] theorem add_modelCalls :
    (first + second).modelCalls = first.modelCalls + second.modelCalls := rfl
@[simp] theorem add_toolCalls :
    (first + second).toolCalls = first.toolCalls + second.toolCalls := rfl
@[simp] theorem add_totalTokens :
    (first + second).totalTokens = first.totalTokens + second.totalTokens := rfl

instance : AddCommMonoid Capacity where
  nsmul := nsmulRec
  add_assoc := by
    intro a b c
    ext <;> simp [Nat.add_assoc]
  zero_add := by
    intro a
    ext <;> simp
  add_zero := by
    intro a
    ext <;> simp
  add_comm := by
    intro a b
    ext <;> simp [Nat.add_comm]

end Capacity

/-- What a usage takes from a capacity: both kinds of token count. -/
def Usage.spent (usage : Usage) : Capacity where
  turns := usage.turns
  modelCalls := usage.modelCalls
  toolCalls := usage.toolCalls
  totalTokens := usage.inputTokens + usage.outputTokens

end OpenRill.State
