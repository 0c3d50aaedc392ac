import Mathlib.Data.List.Basic

/-!
# Numbered logs

Entries of several owners in one list, each owner with a counter. The log has no gap
when the positions of an owner's entries are one, two and so on up to its counter. An
owner that has just been opened counts from zero, which is what an owner without
entries counts to, so opening one changes nothing.
-/

namespace OpenRill.Lib.NumberedLog

universe u v

variable {Entry : Type u} {Owner : Type v} [DecidableEq Owner] {other : Owner → Nat}

def entriesOf (owner : Entry → Owner) (entries : List Entry) (wanted : Owner) : List Entry :=
  entries.filter (fun entry => decide (owner entry = wanted))

/-- Every owner's entries are numbered from one up to its counter. -/
def GapFree (owner : Entry → Owner) (position : Entry → Nat) (counter : Owner → Nat)
    (entries : List Entry) : Prop :=
  ∀ wanted, (entriesOf owner entries wanted).map position = List.range' 1 (counter wanted)

variable {owner : Entry → Owner} {position : Entry → Nat} {counter : Owner → Nat}
  {entries : List Entry}

theorem gapFree_nil (unused : ∀ wanted, counter wanted = 0) :
    GapFree owner position counter [] := by
  intro wanted
  rw [unused]
  rfl

theorem gapFree_of_counter (same : ∀ wanted, other wanted = counter wanted)
    (gapFree : GapFree owner position counter entries) : GapFree owner position other entries := by
  intro wanted
  rw [same]
  exact gapFree wanted

theorem gapFree_append {entry : Entry} (next : position entry = counter (owner entry) + 1)
    (counted : other (owner entry) = counter (owner entry) + 1)
    (others : ∀ wanted, wanted ≠ owner entry → other wanted = counter wanted)
    (gapFree : GapFree owner position counter entries) :
    GapFree owner position other (entries ++ [entry]) := by
  intro wanted
  unfold entriesOf
  rw [List.filter_append, List.map_append]
  have before := gapFree wanted
  unfold entriesOf at before
  rw [before]
  by_cases own : owner entry = wanted
  · rw [← own, counted, List.range'_1_concat]
    simp [next, Nat.add_comm]
  · rw [others wanted fun same => own same.symm]
    simp [own]

theorem length_entriesOf (gapFree : GapFree owner position counter entries) (wanted : Owner) :
    (entriesOf owner entries wanted).length = counter wanted := by
  have lengths := congrArg List.length (gapFree wanted)
  rw [List.length_map, List.length_range'] at lengths
  exact lengths

end OpenRill.Lib.NumberedLog
