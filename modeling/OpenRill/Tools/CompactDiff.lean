import Mathlib

/-!
# The recorded diff of a change

`buildCompactDiff` scans two texts for the lines they share at the beginning and
at the end, and prints what is left of both as one hunk. A text is a sequence of
UTF-16 units.
-/

namespace OpenRill.Tools.CompactDiff

abbrev Text := List UInt16

def newline : UInt16 := 10

def ascii (text : String) : Text :=
  text.toList.map fun char => UInt16.ofNat char.toNat

/-- `text.split("\n")`. -/
def lines (text : Text) : List Text :=
  text.splitOn newline

/-- `lines.join("\n")`. -/
def joined (lines : List Text) : Text :=
  [newline].intercalate lines

/-- The units of each code point; a surrogate without its other half stands alone. -/
def codePoints : Text → List Text
  | [] => []
  | [unit] => [[unit]]
  | high :: low :: rest =>
    if high &&& 0xfc00 = 0xd800 ∧ low &&& 0xfc00 = 0xdc00 then
      [high, low] :: codePoints rest
    else [high] :: codePoints (low :: rest)

/-- The bytes of a code point in UTF-8; a lone surrogate is written as U+FFFD. -/
def utf8Size : Text → Nat
  | [unit] => if unit < 0x80 then 1 else if unit < 0x800 then 2 else 3
  | _ => 4

def byteLength (text : Text) : Nat :=
  ((codePoints text).map utf8Size).sum

/-- What the decoder that is not fatal makes of so many bytes of a text. -/
def decodeCut : Nat → List Text → Text
  | _, [] => []
  | 0, _ => []
  | budget, point :: rest =>
    if utf8Size point ≤ budget then
      (if point.all (fun unit => unit &&& 0xf800 = 0xd800) ∧ point.length = 1 then [0xfffd]
        else point) ++ decodeCut (budget - utf8Size point) rest
    else [0xfffd]

/-- `while (index < limit && same(index)) index += 1`, with what is left to the limit. -/
def scan (same : Nat → Bool) : Nat → Nat → Nat
  | 0, index => index
  | left + 1, index => if same index then scan same left (index + 1) else index

structure CompactDiff where
  text : Text
  truncated : Bool
  deriving DecidableEq

def hunk (start : Nat) (removed added : List Text) : Text :=
  joined ([ascii "--- before", ascii "+++ after",
    ascii s!"@@ -{start},{removed.length} +{start},{added.length} @@"]
    ++ removed.map (ascii "-" ++ ·) ++ added.map (ascii "+" ++ ·)) ++ [newline]

def buildCompactDiff (before : Option Text) (after : Text) (maxBytes : Nat) : CompactDiff :=
  let oldLines := lines (before.getD [])
  let newLines := lines after
  let start := scan (fun index => oldLines[index]? == newLines[index]?)
    (min oldLines.length newLines.length) 0
  let suffix := scan
    (fun index => oldLines[oldLines.length - 1 - index]?
      == newLines[newLines.length - 1 - index]?)
    (min (oldLines.length - start) (newLines.length - start)) 0
  let removed := (oldLines.take (oldLines.length - suffix)).drop start
  let added := (newLines.take (newLines.length - suffix)).drop start
  let full := hunk (start + 1) removed added
  if byteLength full ≤ maxBytes then { text := full, truncated := false }
  else
    { text := decodeCut maxBytes (codePoints full) ++ ascii "\n...DIFF_TRUNCATED...\n"
      truncated := true }

theorem scan_spec (same : Nat → Bool) (left index : Nat) :
    scan same left index ≤ index + left ∧
      ∀ place, index ≤ place → place < scan same left index → same place = true := by
  induction left generalizing index with
  | zero => exact ⟨Nat.le_refl _, fun place later before => absurd before (Nat.not_lt.mpr later)⟩
  | succ left ih =>
    rw [scan]
    split
    · next holds =>
      obtain ⟨bounded, scanned⟩ := ih (index + 1)
      refine ⟨by omega, fun place later before => ?_⟩
      rcases Nat.eq_or_lt_of_le later with rfl | later
      · exact holds
      · exact scanned place later before
    · exact ⟨by omega, fun place later before => absurd before (Nat.not_lt.mpr later)⟩

theorem split_between (texts : List Text) {first last : Nat} (ordered : first ≤ last) :
    texts = texts.take first ++ (texts.take last).drop first ++ texts.drop last := by
  have head : texts.take first = (texts.take last).take first := by
    rw [List.take_take, Nat.min_eq_left ordered]
  rw [head, List.take_append_drop, List.take_append_drop]

theorem split_around (old new : List Text) (start suffix : Nat)
    (inOld : start + suffix ≤ old.length) (inNew : start + suffix ≤ new.length)
    (sameStart : ∀ place < start, old[place]? = new[place]?)
    (sameEnd : ∀ place < suffix,
      old[old.length - 1 - place]? = new[new.length - 1 - place]?) :
    ∃ kept rest, kept.length = start ∧
      old = kept ++ (old.take (old.length - suffix)).drop start ++ rest ∧
      new = kept ++ (new.take (new.length - suffix)).drop start ++ rest := by
  have kept : new.take start = old.take start := by
    apply List.ext_getElem?
    intro place
    rw [List.getElem?_take, List.getElem?_take]
    split
    · exact (sameStart place ‹_›).symm
    · rfl
  have rest : new.drop (new.length - suffix) = old.drop (old.length - suffix) := by
    apply List.ext_getElem?
    intro place
    rw [List.getElem?_drop, List.getElem?_drop]
    by_cases inside : place < suffix
    · have same := sameEnd (suffix - 1 - place) (by omega)
      rw [show old.length - 1 - (suffix - 1 - place) = old.length - suffix + place by omega,
        show new.length - 1 - (suffix - 1 - place) = new.length - suffix + place by omega] at same
      exact same.symm
    · rw [List.getElem?_eq_none (by omega), List.getElem?_eq_none (by omega)]
  refine ⟨old.take start, old.drop (old.length - suffix), ?_, ?_, ?_⟩
  · rw [List.length_take]
    omega
  · exact split_between old (by omega)
  · rw [← kept, ← rest]
    exact split_between new (by omega)

/-- A diff that is not truncated is one hunk: the lines of both texts are the same
up to its line and behind its removed and added lines. -/
theorem diff_reproduces (before : Option Text) (after : Text) (maxBytes : Nat)
    (whole : (buildCompactDiff before after maxBytes).truncated = false) :
    ∃ kept removed added rest,
      (buildCompactDiff before after maxBytes).text = hunk (kept.length + 1) removed added ∧
      lines (before.getD []) = kept ++ removed ++ rest ∧
      lines after = kept ++ added ++ rest ∧
      after = joined (kept ++ added ++ rest) := by
  revert whole
  unfold buildCompactDiff
  extract_lets oldLines newLines start suffix removed added full
  intro whole
  have first := scan_spec (fun index => oldLines[index]? == newLines[index]?)
    (min oldLines.length newLines.length) 0
  have last := scan_spec
    (fun index => oldLines[oldLines.length - 1 - index]?
      == newLines[newLines.length - 1 - index]?)
    (min (oldLines.length - start) (newLines.length - start)) 0
  obtain ⟨kept, rest, position, oldSplit, newSplit⟩ :=
    split_around oldLines newLines start suffix
      (by have := first.1; have := last.1; omega) (by have := first.1; have := last.1; omega)
      (fun place inside => eq_of_beq (first.2 place (Nat.zero_le _) inside))
      fun place inside => eq_of_beq (last.2 place (Nat.zero_le _) inside)
  refine ⟨kept, removed, added, rest, ?_, oldSplit, newSplit, ?_⟩
  · split at whole
    · next fits =>
      rw [if_pos fits, position]
    · cases whole
  · rw [← newSplit]
    exact (List.intercalate_splitOn newline).symm

theorem diff_of_new_file : ∃ kept removed added rest,
    (buildCompactDiff none [newline] 65536).text = hunk (kept.length + 1) removed added ∧
      lines (none.getD []) = kept ++ removed ++ rest ∧
      lines [newline] = kept ++ added ++ rest ∧ [newline] = joined (kept ++ added ++ rest) :=
  diff_reproduces none [newline] 65536 (by decide +kernel)

end OpenRill.Tools.CompactDiff
