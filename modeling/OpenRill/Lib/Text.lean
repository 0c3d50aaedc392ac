import Mathlib.Algebra.GroupWithZero.Nat

/-!
# Text as the source measures it

A source string is a sequence of UTF-16 code units, and its `length` counts
them: a code point above the basic plane counts twice. The bounds that guard an
identifier or a summary are bounds on that length. A slice that would fall
inside a surrogate pair drops the whole code point here; the source keeps a
lone half, which no modelled function reads back.
-/

namespace OpenRill.Lib.Text

def codeUnits (char : Char) : Nat :=
  if char.toNat < 0x10000 then 1 else 2

/-- The `length` of a string of the source. -/
def utf16Length (text : String) : Nat :=
  (text.toList.map codeUnits).sum

/-- The longest prefix of at most `budget` code units. -/
def takeUnits : Nat → List Char → List Char
  | _, [] => []
  | budget, char :: rest =>
    if codeUnits char ≤ budget then
      char :: takeUnits (budget - codeUnits char) rest
    else []

/-- `text.slice(0, budget)`. -/
def sliceUnits (budget : Nat) (text : String) : String :=
  String.ofList (takeUnits budget text.toList)

/-- The white space `trim` removes. -/
def isTrimmed (char : Char) : Bool :=
  [9, 10, 11, 12, 13, 32, 0xA0, 0x1680, 0x2028, 0x2029, 0x202F, 0x205F, 0x3000,
    0xFEFF].contains char.toNat || (0x2000 ≤ char.toNat && char.toNat ≤ 0x200A)

/-- `text.trim()`. -/
def trim (text : String) : String :=
  String.ofList ((text.toList.dropWhile isTrimmed).reverse.dropWhile isTrimmed).reverse

theorem dropWhile_of_head {selected : Char → Bool} {text : List Char}
    (kept : ∀ char, text.head? = some char → selected char = false) :
    text.dropWhile selected = text := by
  cases text with
  | nil => rfl
  | cons char rest =>
    have unselected := kept char rfl
    simp [unselected]

theorem head_of_dropWhile (selected : Char → Bool) (text : List Char) {char : Char}
    (isHead : (text.dropWhile selected).head? = some char) : selected char = false := by
  have notSelected := List.head?_dropWhile_not selected text
  rw [isHead] at notSelected
  exact notSelected

theorem trim_trim (text : String) : trim (trim text) = trim text := by
  unfold trim
  rw [String.toList_ofList]
  congr 1
  generalize isLeft : text.toList.dropWhile isTrimmed = left
  generalize isRight : left.reverse.dropWhile isTrimmed = right
  have leftKept : right.reverse.dropWhile isTrimmed = right.reverse := by
    apply dropWhile_of_head
    intro char isHead
    have isPrefix : right.reverse <+: left := by
      have isSuffix : right <:+ left.reverse := by
        rw [← isRight]
        exact List.dropWhile_suffix isTrimmed
      rw [← List.reverse_suffix, List.reverse_reverse]
      exact isSuffix
    have sameHead : left.head? = some char := by
      obtain ⟨rest, isLeftRest⟩ := isPrefix
      rw [← isLeftRest, List.head?_append, isHead]
      rfl
    rw [← isLeft] at sameHead
    exact head_of_dropWhile isTrimmed text.toList sameHead
  have rightKept : right.dropWhile isTrimmed = right := by
    apply dropWhile_of_head
    intro char isHead
    rw [← isRight] at isHead
    exact head_of_dropWhile isTrimmed left.reverse isHead
  rw [leftKept, List.reverse_reverse, rightKept]

/-- Each maximal run of `selected` characters becomes one space. -/
def collapseRuns (selected : Char → Bool) : List Char → List Char
  | [] => []
  | char :: rest =>
    if selected char then
      match rest with
      | next :: _ =>
        if selected next then collapseRuns selected rest
        else ' ' :: collapseRuns selected rest
      | [] => [' ']
    else char :: collapseRuns selected rest

/-- Code units `JSON.stringify` writes for one code point of a string. -/
def jsonUnits (char : Char) : Nat :=
  if char = '"' ∨ char = '\\' ∨ char.toNat ∈ [8, 9, 10, 12, 13] then 2
  else if char.toNat < 0x20 then 6
  else codeUnits char

/-- Length of the JSON text of a string, of a number and of a value or `null`. -/
def jsonText (text : String) : Nat :=
  2 + (text.toList.map jsonUnits).sum

def jsonNumber (value : Nat) : Nat :=
  (Nat.toDigits 10 value).length

def jsonOptional {Value : Type} (size : Value → Nat) : Option Value → Nat
  | some value => size value
  | none => 4

/-- Length of the JSON text of an array, given those of its elements. -/
def jsonArray (sizes : List Nat) : Nat :=
  2 + sizes.sum + (sizes.length - 1)

/-- Length of the JSON text of an object, given those of its members. -/
def jsonObject (members : List (String × Nat)) : Nat :=
  jsonArray (members.map (fun member => jsonText member.1 + 1 + member.2))

def matchesPattern (first further : Char → Bool) (tail : Nat) (text : String) : Bool :=
  match text.toList with
  | [] => false
  | char :: rest => first char && rest.all further && decide (rest.length ≤ tail)

/-- `/^[A-Za-z0-9][A-Za-z0-9._:-]{0,tail}$/`. -/
def matchesIdPattern (tail : Nat) (text : String) : Bool :=
  matchesPattern Char.isAlphanum
    (fun char => char.isAlphanum || ['.', '_', ':', '-'].contains char) tail text

/-- `/^[a-z][a-z0-9._-]{0,63}$/`. -/
def matchesWorkspacePattern (text : String) : Bool :=
  matchesPattern Char.isLower
    (fun char => char.isLower || char.isDigit || ['.', '_', '-'].contains char) 63 text

/-- `/^[a-z][a-z0-9._-]{0,127}$/`. -/
def matchesToolPattern (text : String) : Bool :=
  matchesPattern Char.isLower
    (fun char => char.isLower || char.isDigit || ['.', '_', '-'].contains char) 127 text

/-- `/^[allowed]+$/`. -/
def matchesAll (allowed : Char → Bool) (text : String) : Bool :=
  decide (text.toList ≠ []) && text.toList.all allowed

def matchesLongPattern (first further : Char → Bool) (text : String) : Bool :=
  match text.toList with
  | char :: next :: rest => first char && (next :: rest).all further
  | _ => false

/-- `/^[A-Za-z0-9._:-]+$/`. -/
def matchesKeyPattern (text : String) : Bool :=
  matchesAll (fun char => char.isAlphanum || ['.', '_', ':', '-'].contains char) text

/-- `/^[a-z][a-z0-9._-]+$/`. -/
def matchesEventPattern (text : String) : Bool :=
  matchesLongPattern Char.isLower
    (fun char => char.isLower || char.isDigit || ['.', '_', '-'].contains char) text

/-- `/^[A-Z][A-Z0-9_]+$/`. -/
def matchesErrorPattern (text : String) : Bool :=
  matchesLongPattern Char.isUpper (fun char => char.isUpper || char.isDigit || char == '_') text

end OpenRill.Lib.Text
