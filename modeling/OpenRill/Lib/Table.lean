import Mathlib.Algebra.BigOperators.Group.List.Basic
import Mathlib.Data.List.Nodup
import Mathlib.Data.List.Sort
import Mathlib.Tactic.Abel

/-!
# Tables with a primary key

A table is a list of rows no two of which share a key, in insertion order. The
operations are the ones a relational store offers: a lookup by key, an insert
that is refused on a duplicate key, a replacement of the row with a given key
and a delete by predicate. Every lemma about a written table is stated as what
its rows, its lookups or its counts become.
-/

namespace OpenRill.Lib

universe u v

/-- Rows with pairwise distinct keys. -/
structure Table {Row : Type u} {Key : Type v} (key : Row → Key) where
  rows : List Row
  keysNodup : (rows.map key).Nodup
  deriving DecidableEq

variable {Row : Type u} {Key : Type v} {key : Row → Key} {old row : Row} {wanted : Key}

namespace Table

variable {other : Row} {Mark : Type*}

def empty : Table key where
  rows := []
  keysNodup := by simp

theorem row_unique (table : Table key) {first second : Row}
    (firstIn : first ∈ table.rows) (secondIn : second ∈ table.rows)
    (same : key first = key second) : first = second := by
  exact List.inj_on_of_nodup_map table.keysNodup firstIn secondIn same

/-- `DELETE … WHERE selected`. -/
def deleteWhere (table : Table key) (selected : Row → Bool) : Table key where
  rows := table.rows.filter (fun row => !selected row)
  keysNodup := table.keysNodup.sublist (List.filter_sublist.map key)

theorem mem_deleteWhere_iff (table : Table key) (selected : Row → Bool) (row : Row) :
    row ∈ (table.deleteWhere selected).rows ↔ row ∈ table.rows ∧ selected row = false := by
  simp [deleteWhere]

variable [DecidableEq Key]

/-- `SELECT … WHERE primary key = wanted`. -/
def find (table : Table key) (wanted : Key) : Option Row :=
  table.rows.find? (fun row => decide (key row = wanted))

/-- `INSERT`, refused when the key is taken. -/
def insert (table : Table key) (row : Row) : Option (Table key) :=
  if fresh : key row ∉ table.rows.map key then
    some
      { rows := table.rows ++ [row]
        keysNodup := by
          simp only [List.map_append, List.map_cons, List.map_nil]
          exact List.nodup_append.mpr
            ⟨table.keysNodup, by simp, by
              intro first firstIn second secondIn
              have isRow : second = key row := by simpa using secondIn
              rw [isRow]
              intro same
              exact fresh (same ▸ firstIn)⟩ }
  else none

/-- `UPDATE … WHERE primary key = key row`: no row has that key, or exactly one
becomes `row`. -/
def update (table : Table key) (row : Row) : Table key where
  rows := table.rows.map (fun other => if key other = key row then row else other)
  keysNodup := by
    have sameKeys :
        (table.rows.map (fun other => if key other = key row then row else other)).map key =
          table.rows.map key := by
      rw [List.map_map]
      apply List.map_congr_left
      intro other _
      by_cases same : key other = key row
      · simp [same]
      · simp [same]
    rw [sameKeys]
    exact table.keysNodup

theorem find_some_iff (table : Table key) (wanted : Key) (row : Row) :
    table.find wanted = some row ↔ row ∈ table.rows ∧ key row = wanted := by
  constructor
  · intro found
    exact ⟨List.mem_of_find?_eq_some found, by simpa using List.find?_some found⟩
  rintro ⟨rowIn, rfl⟩
  cases found : table.find (key row) with
  | none =>
    have absent := List.find?_eq_none.mp found row rowIn
    simp at absent
  | some other =>
    have otherIn : other ∈ table.rows := List.mem_of_find?_eq_some found
    have sameKey : key other = key row := by simpa using List.find?_some found
    rw [table.row_unique otherIn rowIn sameKey]

theorem find_none_iff (table : Table key) (wanted : Key) :
    table.find wanted = none ↔ ∀ row ∈ table.rows, key row ≠ wanted := by
  simp [find, List.find?_eq_none]

section

variable (table : Table key)
include table

theorem mem_of_find (found : table.find wanted = some row) : row ∈ table.rows :=
  ((table.find_some_iff wanted row).mp found).1

theorem key_of_find (found : table.find wanted = some row) : key row = wanted :=
  ((table.find_some_iff wanted row).mp found).2

theorem find_self (found : table.find wanted = some row) : table.find (key row) = some row := by
  rw [table.key_of_find found]
  exact found

theorem find_of_mem (rowIn : row ∈ table.rows) : table.find (key row) = some row :=
  (table.find_some_iff (key row) row).mpr ⟨rowIn, rfl⟩

theorem isSome_find_iff (wanted : Key) :
    (table.find wanted).isSome = true ↔ wanted ∈ table.rows.map key := by
  rw [Option.isSome_iff_exists, List.mem_map]
  constructor
  · rintro ⟨row, found⟩
    exact ⟨row, table.mem_of_find found, table.key_of_find found⟩
  · rintro ⟨row, rowIn, isKey⟩
    exact ⟨row, (table.find_some_iff wanted row).mpr ⟨rowIn, isKey⟩⟩

/-- A successful insert says that the key was free and that the row is last. -/
theorem insert_some_iff (inserted : Table key) (row : Row) :
    table.insert row = some inserted ↔
      (∀ other ∈ table.rows, key other ≠ key row) ∧ inserted.rows = table.rows ++ [row] := by
  unfold insert
  by_cases fresh : key row ∉ table.rows.map key
  · rw [dif_pos fresh]
    have absent : ∀ other ∈ table.rows, key other ≠ key row := by
      intro other otherIn same
      exact fresh (List.mem_map.mpr ⟨other, otherIn, same⟩)
    constructor
    · intro same
      have rowsEq := congrArg (Option.map Table.rows) same
      simp only [Option.map_some, Option.some.injEq] at rowsEq
      exact ⟨absent, rowsEq.symm⟩
    · rintro ⟨-, rowsEq⟩
      cases inserted
      simp_all
  · rw [dif_neg fresh]
    simp only [reduceCtorEq, false_iff, not_and]
    intro absent
    obtain ⟨other, otherIn, same⟩ := List.mem_map.mp (not_not.mp fresh)
    exact absurd same (absent other otherIn)

theorem mem_insert_iff (inserted : Table key) (row : Row) (done : table.insert row = some inserted)
    (other : Row) : other ∈ inserted.rows ↔ other ∈ table.rows ∨ other = row := by
  rw [((table.insert_some_iff inserted row).mp done).2, List.mem_append, List.mem_singleton]

theorem insert_of_fresh (row : Row) (fresh : table.find (key row) = none) :
    ∃ inserted, table.insert row = some inserted := by
  rw [find_none_iff] at fresh
  have free : key row ∉ table.rows.map key := by
    intro taken
    obtain ⟨other, otherIn, same⟩ := List.mem_map.mp taken
    exact fresh other otherIn same
  unfold insert
  rw [dif_pos free]
  exact ⟨_, rfl⟩

theorem find_insert (inserted : Table key) (row : Row) (wanted : Key)
    (done : table.insert row = some inserted) :
    inserted.find wanted =
      if key row = wanted then some row else table.find wanted := by
  obtain ⟨absent, rowsEq⟩ := (table.insert_some_iff inserted row).mp done
  unfold find
  rw [rowsEq, List.find?_append]
  by_cases same : key row = wanted
  · have missed : table.rows.find? (fun other => decide (key other = wanted)) = none := by
      rw [List.find?_eq_none]
      intro other otherIn
      simpa [← same] using absent other otherIn
    simp [missed, same]
  · simp [same]

/-- A delete that takes no row under the wanted key leaves its lookup alone. -/
theorem find_deleteWhere (selected : Row → Bool) (wanted : Key)
    (spared : ∀ row ∈ table.rows, key row = wanted → selected row = false) :
    (table.deleteWhere selected).find wanted = table.find wanted := by
  cases found : table.find wanted with
  | none =>
    rw [find_none_iff] at found ⊢
    intro row rowIn
    exact found row ((table.mem_deleteWhere_iff selected row).mp rowIn).1
  | some row =>
    obtain ⟨rowIn, rowKey⟩ := (table.find_some_iff wanted row).mp found
    apply ((table.deleteWhere selected).find_some_iff wanted row).mpr
    exact ⟨(table.mem_deleteWhere_iff selected row).mpr ⟨rowIn, spared row rowIn rowKey⟩, rowKey⟩

theorem mem_update_iff (row : Row) (present : table.find (key row) = some old) (other : Row) :
    other ∈ (table.update row).rows ↔ other = row ∨ (other ∈ table.rows ∧ key other ≠ key row) := by
  obtain ⟨oldIn, oldKey⟩ := (table.find_some_iff _ _).mp present
  simp only [update, List.mem_map]
  constructor
  · rintro ⟨source, sourceIn, rfl⟩
    by_cases same : key source = key row
    · left
      rw [if_pos same]
    · right
      rw [if_neg same]
      exact ⟨sourceIn, same⟩
  · rintro (isRow | ⟨otherIn, different⟩)
    · exact ⟨old, oldIn, by rw [if_pos oldKey, isRow]⟩
    · exact ⟨other, otherIn, by rw [if_neg different]⟩

theorem find_update (row : Row) (present : table.find (key row) = some old) (wanted : Key) :
    (table.update row).find wanted =
      if key row = wanted then some row else table.find wanted := by
  by_cases same : key row = wanted
  · rw [if_pos same]
    apply ((table.update row).find_some_iff wanted row).mpr
    exact ⟨(table.mem_update_iff _ present row).mpr (Or.inl rfl), same⟩
  rw [if_neg same]
  cases found : table.find wanted with
  | none =>
    rw [find_none_iff] at found ⊢
    intro other otherIn
    rcases (table.mem_update_iff _ present other).mp otherIn with isRow | ⟨inTable, -⟩
    · rw [isRow]
      exact same
    · exact found other inTable
  | some other =>
    obtain ⟨otherIn, otherKey⟩ := (table.find_some_iff _ _).mp found
    apply ((table.update row).find_some_iff wanted other).mpr
    refine ⟨(table.mem_update_iff _ present other).mpr (Or.inr ⟨otherIn, ?_⟩), otherKey⟩
    rw [otherKey]
    exact fun equal => same equal.symm

/-- A column that an update leaves in its row is left in the table. -/
theorem map_update (row : Row) (present : table.find (key row) = some old) (column : Row → Mark)
    (same : column row = column old) :
    (table.update row).rows.map column = table.rows.map column := by
  simp only [update, List.map_map]
  apply List.map_congr_left
  intro other otherIn
  by_cases replaced : key other = key row
  · have isOld : other = old := table.row_unique otherIn (table.mem_of_find present)
      (replaced.trans (table.key_of_find present).symm)
    simp [isOld, table.key_of_find present, same]
  · simp [replaced]

/-- A row that is found before an update has a row after it, its own or the one written. -/
theorem related_update (row : Row) (present : table.find (key row) = some old)
    (Related : Row → Row → Prop) (refl : ∀ other, Related other other) (own : Related row old)
    (found : table.find wanted = some other) :
    ∃ later, (table.update row).find wanted = some later ∧ Related later other := by
  have lookup := table.find_update row present wanted
  by_cases same : key row = wanted
  · rw [same, found] at present
    rw [← Option.some.inj present] at own
    exact ⟨row, lookup.trans (if_pos same), own⟩
  · exact ⟨other, (lookup.trans (if_neg same)).trans found, refl other⟩

theorem kept_insert (inserted : Table key) (row : Row) (done : table.insert row = some inserted)
    (found : table.find wanted = some other) : inserted.find wanted = some other := by
  have different : ¬ key row = wanted := by
    rintro rfl
    exact ((table.insert_some_iff inserted row).mp done).1 other (table.mem_of_find found)
      (table.key_of_find found)
  exact ((table.find_insert inserted row wanted done).trans (if_neg different)).trans found

end

theorem forall_update (table : Table key) (row : Row) {old : Row}
    (present : table.find (key row) = some old) {Holds : Row → Prop} (own : Holds row)
    (others : ∀ other ∈ table.rows, key other ≠ key row → Holds other) :
    ∀ other ∈ (table.update row).rows, Holds other := by
  intro other otherIn
  rcases (table.mem_update_iff row present other).mp otherIn with isRow | ⟨there, different⟩
  · exact isRow ▸ own
  · exact others other there different

theorem forall_insert (table inserted : Table key) (row : Row)
    (done : table.insert row = some inserted) {Holds : Row → Prop} (own : Holds row)
    (others : ∀ other ∈ table.rows, Holds other) : ∀ other ∈ inserted.rows, Holds other := by
  intro other otherIn
  rcases (table.mem_insert_iff inserted row done other).mp otherIn with there | isRow
  · exact others other there
  · exact isRow ▸ own

/-- Rows that a mark tells apart are told apart when one of them is written with its mark. -/
theorem once_update (table : Table key) (row : Row) (present : table.find (key row) = some old)
    (mark : Row → Mark) (same : mark row = mark old)
    (once : ∀ first ∈ table.rows, ∀ second ∈ table.rows, mark first = mark second →
      first = second) :
    ∀ first ∈ (table.update row).rows, ∀ second ∈ (table.update row).rows,
      mark first = mark second → first = second := by
  obtain ⟨oldIn, oldKey⟩ := (table.find_some_iff _ _).mp present
  have alone : ∀ other ∈ table.rows, key other ≠ key row → mark other ≠ mark row := by
    intro other otherIn different sameMark
    apply different
    rw [once other otherIn old oldIn (sameMark.trans same), oldKey]
  refine table.forall_update row present ?_ ?_
  · exact table.forall_update row present (fun _ => rfl)
      fun other otherIn different sameMark => absurd sameMark.symm (alone other otherIn different)
  · intro first firstIn different
    exact table.forall_update row present
      (fun sameMark => absurd sameMark (alone first firstIn different))
      fun second secondIn _ => once first firstIn second secondIn

theorem once_insert (table inserted : Table key) (row : Row)
    (done : table.insert row = some inserted) (mark : Row → Mark)
    (fresh : ∀ other ∈ table.rows, mark other ≠ mark row)
    (once : ∀ first ∈ table.rows, ∀ second ∈ table.rows, mark first = mark second →
      first = second) :
    ∀ first ∈ inserted.rows, ∀ second ∈ inserted.rows, mark first = mark second →
      first = second := by
  refine table.forall_insert inserted row done ?_ ?_
  · exact table.forall_insert inserted row done (fun _ => rfl)
      fun other otherIn same => absurd same.symm (fresh other otherIn)
  · intro first firstIn
    exact table.forall_insert inserted row done
      (fun same => absurd same (fresh first firstIn)) (once first firstIn)

/-- A selection that takes neither the old row nor the new one is unmoved. -/
theorem filter_update (table : Table key) (row : Row) (present : table.find (key row) = some old)
    (selected : Row → Bool) (oldOut : selected old = false) (rowOut : selected row = false) :
    (table.update row).rows.filter selected = table.rows.filter selected := by
  have oldIn := (table.find_some_iff _ _).mp present
  simp only [update, List.filter_map]
  have sameSelection :
      table.rows.filter (selected ∘ fun other => if key other = key row then row else other) =
        table.rows.filter selected := by
    apply List.filter_congr
    intro other otherIn
    by_cases same : key other = key row
    · have isOld : other = old := table.row_unique otherIn oldIn.1 (same.trans oldIn.2.symm)
      simp [isOld, oldIn.2, oldOut, rowOut]
    · simp [same]
  rw [sameSelection]
  have unmoved :
      (table.rows.filter selected).map
          (fun other => if key other = key row then row else other) =
        (table.rows.filter selected).map id := by
    apply List.map_congr_left
    intro other otherIn
    have picked := List.mem_filter.mp otherIn
    have different : key other ≠ key row := by
      intro same
      have isOld : other = old :=
        table.row_unique picked.1 oldIn.1 (same.trans oldIn.2.symm)
      rw [isOld, oldOut] at picked
      exact absurd picked.2 (by simp)
    simp [different]
  rw [unmoved, List.map_id]

theorem countP_insert (table inserted : Table key) (row : Row)
    (done : table.insert row = some inserted) (counted : Row → Bool) :
    inserted.rows.countP counted = table.rows.countP counted + (counted row).toNat := by
  obtain ⟨-, rowsEq⟩ := (table.insert_some_iff inserted row).mp done
  rw [rowsEq, List.countP_append, List.countP_singleton]
  cases counted row <;> simp

section Sums

variable {Amount : Type} [AddCommMonoid Amount]

theorem sum_filter (rows : List Row) (selected : Row → Bool) (amount : Row → Amount) :
    ((rows.filter selected).map amount).sum =
      (rows.map (fun row => if selected row then amount row else 0)).sum := by
  induction rows with
  | nil => rfl
  | cons row rest ih =>
    by_cases picked : selected row = true
    · simp [picked, ih]
    · simp [picked, ih]

theorem sum_split (table : Table key) (found : table.find wanted = some row)
    (amount : Row → Amount) :
    (table.rows.map amount).sum =
      (table.rows.map (fun other => if key other = wanted then 0 else amount other)).sum +
        amount row := by
  obtain ⟨rowIn, isKey⟩ := (table.find_some_iff _ _).mp found
  have distinct := table.keysNodup
  generalize table.rows = rows at rowIn distinct
  induction rows with
  | nil => simp at rowIn
  | cons first rest ih =>
    simp only [List.map_cons, List.nodup_cons, List.mem_map, not_exists, not_and] at distinct
    obtain ⟨firstFresh, restDistinct⟩ := distinct
    simp only [List.map_cons, List.sum_cons]
    rcases List.mem_cons.mp rowIn with isFirst | inRest
    · have others : rest.map (fun other => if key other = wanted then 0 else amount other) =
          rest.map amount := by
        apply List.map_congr_left
        intro other otherIn
        have different : key other ≠ wanted := by
          intro same
          apply firstFresh other otherIn
          rw [same, ← isKey, isFirst]
        rw [if_neg different]
      rw [others, ← isFirst, if_pos isKey, zero_add, add_comm]
    · have different : key first ≠ wanted := by
        intro same
        exact firstFresh row inRest (isKey.trans same.symm)
      rw [if_neg different, ih inRest restDistinct, add_assoc]

theorem sum_update (table : Table key) (row : Row) (present : table.find (key row) = some old)
    (amount : Row → Amount) :
    ((table.update row).rows.map amount).sum + amount old =
      (table.rows.map amount).sum + amount row := by
  have own : (table.update row).find (key row) = some row :=
    (table.find_update row present _).trans (if_pos rfl)
  have others : (table.update row).rows.map
      (fun other => if key other = key row then 0 else amount other) =
        table.rows.map (fun other => if key other = key row then 0 else amount other) := by
    simp only [update, List.map_map]
    apply List.map_congr_left
    intro other _
    by_cases replaced : key other = key row
    · simp [replaced]
    · simp [replaced]
  rw [sum_split _ own amount, sum_split _ present amount, others]
  abel

theorem sum_update_same (table : Table key) (row : Row) (present : table.find (key row) = some old)
    (amount : Row → Amount) (same : amount row = amount old) :
    ((table.update row).rows.map amount).sum = (table.rows.map amount).sum := by
  rw [table.map_update row present amount same]

end Sums

/-- Replacing a row exchanges its old contribution to a count for the new one. -/
theorem countP_update (table : Table key) (row : Row) (present : table.find (key row) = some old)
    (counted : Row → Bool) :
    (table.update row).rows.countP counted + (counted old).toNat =
      table.rows.countP counted + (counted row).toNat := by
  have asSum : ∀ rows : List Row,
      rows.countP counted = (rows.map fun row => (counted row).toNat).sum := by
    intro rows
    induction rows with
    | nil => rfl
    | cons first rest ih =>
      rw [List.countP_cons, ih, List.map_cons, List.sum_cons, Nat.add_comm]
      cases counted first <;> rfl
  rw [asSum, asSum]
  exact table.sum_update row present _

end Table

/-- `ORDER BY`. -/
def orderBy (position : Row → Nat) (rows : List Row) : List Row :=
  rows.insertionSort (fun first second => position first ≤ position second)

@[simp] theorem mem_orderBy (position : Row → Nat) (rows : List Row) (row : Row) :
    row ∈ orderBy position rows ↔ row ∈ rows :=
  List.mem_insertionSort _

@[simp] theorem length_orderBy (position : Row → Nat) (rows : List Row) :
    (orderBy position rows).length = rows.length :=
  List.length_insertionSort _ rows

theorem orderBy_ascending (position : Row → Nat) (rows : List Row) :
    (orderBy position rows).Pairwise (fun first second => position first ≤ position second) := by
  have total : Std.Total (fun first second : Row => position first ≤ position second) :=
    ⟨fun first second => Nat.le_total (position first) (position second)⟩
  have transitive : IsTrans Row (fun first second => position first ≤ position second) :=
    ⟨fun _ _ _ => Nat.le_trans⟩
  exact List.pairwise_insertionSort _ rows

theorem orderBy_map (position : Row → Nat) (rewrite : Row → Row) (rows : List Row)
    (same : ∀ row ∈ rows, position (rewrite row) = position row) :
    orderBy position (rows.map rewrite) = (orderBy position rows).map rewrite := by
  symm
  apply List.map_insertionSort
  intro first firstIn second secondIn
  rw [same first firstIn, same second secondIn]

theorem orderBy_of_ascending (position : Row → Nat) {rows : List Row}
    (ascending : rows.Pairwise (fun first second => position first ≤ position second)) :
    orderBy position rows = rows :=
  List.Pairwise.insertionSort_eq ascending

end OpenRill.Lib
