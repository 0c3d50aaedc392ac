import Mathlib.Data.List.Basic
import Mathlib.Data.List.Dedup
import Mathlib.Data.List.Perm.Subperm

/-!
# Bounded caches in order of insertion

A cache keeps its entries in the order in which they were put, and drops the oldest when
there are more than it may hold. An entry stays as long as fewer entries than the capacity
were put after it, however often it is looked up.
-/

namespace OpenRill.Lib.FifoCache

universe u v

variable {Entry : Type u} {Key : Type v} [DecidableEq Key]

def find (key : Entry → Key) (entries : List Entry) (wanted : Key) : Option Entry :=
  entries.find? (fun entry => decide (key entry = wanted))

/-- The cache with a new entry, and without the oldest ones if there is no room. -/
def put (capacity : Nat) (entries : List Entry) (entry : Entry) : List Entry :=
  (entries ++ [entry]).drop ((entries ++ [entry]).length - capacity)

theorem find_none_iff {key : Entry → Key} {entries : List Entry} {wanted : Key} :
    find key entries wanted = none ↔ wanted ∉ entries.map key := by
  simp [find]

theorem find_of_distinct {key : Entry → Key} {older newer : List Entry} {entry : Entry}
    (distinct : ((older ++ entry :: newer).map key).Nodup) :
    find key (older ++ entry :: newer) (key entry) = some entry := by
  have notOlder : ∀ other ∈ older, key other ≠ key entry := by
    intro other otherIn same
    rw [List.map_append, List.nodup_append] at distinct
    exact distinct.2.2 (key other) (List.mem_map_of_mem otherIn) (key entry) (by simp) same
  unfold find
  rw [List.find?_append, List.find?_eq_none.mpr]
  · simp
  · intro other otherIn
    simpa using notOlder other otherIn

omit [DecidableEq Key] in
theorem distinct_put {key : Entry → Key} {entries : List Entry} {entry : Entry}
    (capacity : Nat) (distinct : (entries.map key).Nodup)
    (new : key entry ∉ entries.map key) : ((put capacity entries entry).map key).Nodup := by
  have grown : ((entries ++ [entry]).map key).Nodup := by
    rw [List.map_append, List.nodup_append]
    refine ⟨distinct, by simp, ?_⟩
    intro first firstIn second secondIn same
    have isEntry : second = key entry := by simpa using secondIn
    rw [← isEntry, ← same] at new
    exact new firstIn
  unfold put
  rw [List.map_drop]
  exact grown.sublist (List.drop_sublist _ _)

/-- An entry stays, with all that was put after it, while there is room for these. -/
theorem put_keeps {capacity : Nat} {older newer : List Entry} {entry other : Entry}
    (room : newer.length + 2 ≤ capacity) :
    ∃ kept, put capacity (older ++ entry :: newer) other = kept ++ entry :: (newer ++ [other]) := by
  have grown : older ++ entry :: newer ++ [other] = older ++ (entry :: (newer ++ [other])) := by
    simp
  have few : (older ++ (entry :: (newer ++ [other]))).length - capacity ≤ older.length := by
    simp only [List.length_append, List.length_cons, List.length_nil]
    omega
  refine ⟨older.drop ((older ++ (entry :: (newer ++ [other]))).length - capacity), ?_⟩
  unfold put
  rw [grown, List.drop_append_of_le_length few]

theorem put_newest {capacity : Nat} (entries : List Entry) (entry : Entry)
    (positive : 0 < capacity) : ∃ kept, put capacity entries entry = kept ++ [entry] := by
  have few : (entries ++ [entry]).length - capacity ≤ entries.length := by
    simp only [List.length_append, List.length_singleton]
    omega
  refine ⟨entries.drop ((entries ++ [entry]).length - capacity), ?_⟩
  unfold put
  rw [List.drop_append_of_le_length few]

/-- Distinct keys among the others are no more than there are distinct others. -/
theorem length_le_of_distinct {keys others : List Key} (distinct : keys.Nodup)
    (within : keys ⊆ others) : keys.length ≤ others.dedup.length := by
  refine (List.subperm_of_subset distinct ?_).length_le
  intro key keyIn
  exact List.mem_dedup.mpr (within keyIn)

end OpenRill.Lib.FifoCache
