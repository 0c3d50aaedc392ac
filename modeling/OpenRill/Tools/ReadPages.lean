import OpenRill.Tools.CompactDiff

/-!
# Reading a file page by page

`workspace.read` returns so many whole lines as fit the limits. A caller that reads
on behind them while the result is truncated gets to the end of the file, unless a
line alone is longer than a page may be.
-/

namespace OpenRill.Tools.ReadPages

open CompactDiff

variable {offset calls : Nat}

structure ReadLimits where
  maxReadBytes : Nat
  maxReadLines : Nat

structure ReadInput where
  offsetLine : Option Nat
  maxLines : Option Nat
  maxBytes : Option Nat

structure ReadResult where
  content : Text
  offsetLine : Nat
  outputLines : Nat
  totalLines : Nat
  truncated : Bool

def boundedInteger (value : Option Nat) (fallback min max : Nat) : Except String Nat :=
  match value with
  | none => .ok fallback
  | some value =>
    if value < min ∨ value > max then .error "bounded integer validation mismatch" else .ok value

/-- The loop over the lines: those selected, and whether the bytes ended it. -/
def selectLines (maxBytes : Nat) : List Text → List Text → Nat → List Text × Bool
  | [], selected, _ => (selected, false)
  | line :: rest, selected, outputBytes =>
    let candidate := if selected.length = 0 then line else newline :: line
    let bytes := byteLength candidate
    if outputBytes + bytes > maxBytes then (selected, true)
    else selectLines maxBytes rest (selected ++ [line]) (outputBytes + bytes)

/-- `workspace.read` of a file with this content. -/
def readTool (limits : ReadLimits) (content : Text) (input : ReadInput) :
    Except String ReadResult := do
  let lines := lines content
  let offsetLine ← boundedInteger input.offsetLine 1 1 (max 1 (lines.length + 1))
  let maxLines ← boundedInteger input.maxLines limits.maxReadLines 1 limits.maxReadLines
  let maxBytes ← boundedInteger input.maxBytes limits.maxReadBytes 1 limits.maxReadBytes
  let (selected, truncatedByBytes) :=
    selectLines maxBytes ((lines.drop (offsetLine - 1)).take maxLines) [] 0
  return {
    content := joined selected
    offsetLine
    outputLines := selected.length
    totalLines := lines.length
    truncated := truncatedByBytes || offsetLine - 1 + selected.length < lines.length }

structure PageSize (limits : ReadLimits) where
  maxLines : Nat
  maxBytes : Nat
  someLines : 1 ≤ maxLines
  linesWithin : maxLines ≤ limits.maxReadLines
  someBytes : 1 ≤ maxBytes
  bytesWithin : maxBytes ≤ limits.maxReadBytes

variable {limits : ReadLimits} (size : PageSize limits) (content : Text)

/-- The contents that a caller reads from a line on while the result is truncated;
nothing when it is not done after so many calls. -/
def readPages : Nat → Nat → Except String (Option (List Text))
  | 0, _ => .ok none
  | calls + 1, offset => do
    let page ← readTool limits content ⟨some offset, some size.maxLines, some size.maxBytes⟩
    if page.truncated then
      return (← readPages calls (offset + page.outputLines)).map (page.content :: ·)
    else return some [page.content]

theorem byteLength_newline (line : Text) : byteLength (newline :: line) = 1 + byteLength line := by
  cases line with
  | nil => rfl
  | cons unit rest => rfl

/-- The selected lines are the first ones, each fits, and the bytes end the loop just
when lines are left. -/
theorem select_spec (maxBytes : Nat) (texts selected : List Text) (bytes : Nat) :
    ∃ taken left, texts = taken ++ left ∧
      selectLines maxBytes texts selected bytes = (selected ++ taken, !left.isEmpty) ∧
      ∀ line ∈ taken, byteLength line ≤ maxBytes := by
  induction texts generalizing selected bytes with
  | nil => exact ⟨[], [], rfl, by simp [selectLines], by simp⟩
  | cons line rest ih =>
    have longer : byteLength line ≤
        byteLength (if selected.length = 0 then line else newline :: line) := by
      split
      · exact Nat.le_refl _
      · rw [byteLength_newline]
        omega
    unfold selectLines
    dsimp only
    generalize (if selected.length = 0 then line else newline :: line) = candidate at longer
    split
    · exact ⟨[], line :: rest, rfl, by simp, by simp⟩
    · next within =>
      obtain ⟨taken, left, split, result, fits⟩ :=
        ih (selected ++ [line]) (bytes + byteLength candidate)
      refine ⟨line :: taken, left, by rw [split]; rfl, by simpa using result, ?_⟩
      intro other member
      rcases List.mem_cons.mp member with rfl | member
      · omega
      · exact fits other member

theorem read_page (positive : 1 ≤ offset) (within : offset ≤ (lines content).length) :
    ∃ taken rest, (lines content).drop (offset - 1) = taken ++ rest ∧
      readTool limits content ⟨some offset, some size.maxLines, some size.maxBytes⟩ =
        .ok ⟨joined taken, offset, taken.length, (lines content).length, !rest.isEmpty⟩ ∧
      (∀ line ∈ taken, byteLength line ≤ size.maxBytes) ∧
      ((∀ line ∈ lines content, byteLength line ≤ size.maxBytes) → taken ≠ []) := by
  obtain ⟨taken, left, split, result, fits⟩ := select_spec size.maxBytes
    (((lines content).drop (offset - 1)).take size.maxLines) [] 0
  have whole : (lines content).drop (offset - 1)
      = taken ++ (left ++ ((lines content).drop (offset - 1)).drop size.maxLines) := by
    rw [← List.append_assoc, ← split, List.take_append_drop]
  have total := congrArg List.length whole
  have cut := congrArg List.length split
  simp only [List.length_drop, List.length_append, List.length_take] at total cut
  refine ⟨taken, _, whole, ?_, fits, fun allFit nothing => ?_⟩
  · have admitted : readTool limits content
        ⟨some offset, some size.maxLines, some size.maxBytes⟩ =
          .ok ⟨joined taken, offset, taken.length, (lines content).length,
            !left.isEmpty || decide (offset - 1 + taken.length < (lines content).length)⟩ := by
      have := size.someLines
      have := size.linesWithin
      have := size.someBytes
      have := size.bytesWithin
      simp only [readTool, boundedInteger]
      rw [if_neg (by omega), if_neg (by omega), if_neg (by omega)]
      simp only [bind, Except.bind, result, List.nil_append]
      rfl
    rw [admitted]
    congr 2
    rw [Bool.eq_iff_iff]
    simp only [Bool.or_eq_true, Bool.not_eq_true', List.isEmpty_eq_false_iff, decide_eq_true_eq,
      ← List.length_pos_iff, List.length_append, List.length_drop]
    omega
  · obtain ⟨line, rest, first⟩ := List.exists_cons_of_length_pos
      (l := ((lines content).drop (offset - 1)).take size.maxLines)
      (by rw [List.length_take, List.length_drop]; have := size.someLines; omega)
    have fitting := allFit line (List.mem_of_mem_drop (List.mem_of_mem_take
      (first ▸ List.mem_cons_self)))
    obtain ⟨more, _, _, again, _⟩ := select_spec size.maxBytes rest [line] (byteLength line)
    rw [first, selectLines] at result
    simp only [List.length_nil, if_true, Nat.zero_add, if_neg (Nat.not_lt.mpr fitting),
      List.nil_append, again, nothing, Prod.mk.injEq] at result
    exact absurd result.1 (by simp)

theorem joined_append {first second : List Text} (some : first ≠ []) (more : second ≠ []) :
    joined (first ++ second) = joined first ++ [newline] ++ joined second := by
  induction first with
  | nil => contradiction
  | cons line rest ih =>
    cases rest with
    | nil =>
      unfold joined
      rw [List.singleton_append, List.intercalate_cons_of_ne_nil more,
        List.intercalate_singleton]
    | cons next rest =>
      have tail := ih (List.cons_ne_nil _ _)
      unfold joined at tail ⊢
      rw [List.cons_append, List.intercalate_cons_of_ne_nil (by simp), tail,
        List.intercalate_cons_of_ne_nil (List.cons_ne_nil _ _)]
      simp only [List.append_assoc]

theorem fit_of_pages {pages : List Text} (positive : 1 ≤ offset)
    (within : offset ≤ (lines content).length)
    (done : readPages size content calls offset = .ok (some pages)) :
    ∀ line ∈ (lines content).drop (offset - 1), byteLength line ≤ size.maxBytes := by
  induction calls generalizing offset pages with
  | zero => cases done
  | succ calls ih =>
    obtain ⟨taken, rest, whole, page, fits, _⟩ := read_page size content positive within
    rw [readPages, page] at done
    intro line member
    rw [whole] at member
    rcases List.mem_append.mp member with member | member
    · exact fits line member
    have behind := congrArg (List.drop taken.length) whole
    rw [List.drop_drop, List.drop_left] at behind
    have inside := congrArg List.length behind
    rw [List.length_drop] at inside
    have some := List.length_pos_of_mem member
    have more : rest.isEmpty = false := by
      rw [List.isEmpty_eq_false_iff]
      exact List.ne_nil_of_mem member
    simp only [bind, Except.bind, more, Bool.not_false, if_true] at done
    cases later : readPages size content calls (offset + taken.length) with
    | error reason =>
      rw [later] at done
      cases done
    | ok found =>
      cases found with
      | none =>
        rw [later] at done
        cases done
      | some pages =>
        refine ih (by omega) (by omega) later line ?_
        rw [show offset + taken.length - 1 = offset - 1 + taken.length by omega, behind]
        exact member

/-- When every line fits, the pages from a line on spell what is left of the file. -/
theorem pages_spell (allFit : ∀ line ∈ lines content, byteLength line ≤ size.maxBytes)
    (positive : 1 ≤ offset) (within : offset ≤ (lines content).length)
    (enough : (lines content).length - (offset - 1) ≤ calls) :
    ∃ pages, readPages size content calls offset = .ok (some pages) ∧ pages ≠ [] ∧
      joined pages = joined ((lines content).drop (offset - 1)) := by
  induction calls generalizing offset with
  | zero => omega
  | succ calls ih =>
    obtain ⟨taken, rest, whole, page, _, progress⟩ := read_page size content positive within
    have some := progress allFit
    have longer := List.length_pos_iff.mpr some
    have total := congrArg List.length whole
    rw [List.length_drop, List.length_append] at total
    rw [readPages, page, whole]
    cases rest with
    | nil => exact ⟨[joined taken], rfl, List.cons_ne_nil _ _, by simp [joined]⟩
    | cons line rest =>
      rw [List.length_cons] at total
      obtain ⟨pages, later, more, spelled⟩ :=
        @ih (offset + taken.length) (by omega) (by omega) (by omega)
      have behind := congrArg (List.drop taken.length) whole
      rw [List.drop_drop, List.drop_left,
        show offset - 1 + taken.length = offset + taken.length - 1 by omega] at behind
      refine ⟨joined taken :: pages, ?_, List.cons_ne_nil _ _, ?_⟩
      · simp only [bind, Except.bind, List.isEmpty_cons, Bool.not_false, if_true, later]
        rfl
      · rw [joined_append some (List.cons_ne_nil _ _), ← behind, ← spelled]
        exact List.intercalate_cons_of_ne_nil more

/-- Reading on from the first line ends, without an error and with the whole file, exactly
when no line is longer than a page. -/
theorem pages_rebuild_iff :
    (∃ calls pages, readPages size content calls 1 = .ok (some pages) ∧
      joined pages = content) ↔
      ∀ line ∈ lines content, byteLength line ≤ size.maxBytes := by
  have within : 1 ≤ (lines content).length :=
    List.length_pos_iff.mpr (List.splitOn_ne_nil _ _)
  refine ⟨fun ⟨calls, pages, done, _⟩ => fit_of_pages size content (Nat.le_refl 1) within done,
    fun allFit => ?_⟩
  obtain ⟨pages, done, _, spelled⟩ :=
    pages_spell size content allFit (Nat.le_refl 1) within (Nat.le_refl _)
  exact ⟨_, pages, done, spelled.trans (List.intercalate_splitOn newline)⟩

/-- A line of two bytes is never read in pages of one. -/
theorem long_line_never_read :
    ¬ ∃ calls pages, readPages (⟨400, 1, by decide, by decide, by decide, by decide⟩ :
      PageSize ⟨65536, 400⟩) (ascii "ab") calls 1 = .ok (some pages) ∧
      joined pages = ascii "ab" := by
  rintro ⟨calls, pages, done, _⟩
  exact absurd (fit_of_pages _ _ (Nat.le_refl 1) (by decide) done (ascii "ab") (by decide))
    (by decide)

end OpenRill.Tools.ReadPages
