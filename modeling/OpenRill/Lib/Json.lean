import Mathlib.Data.List.Sort
import Mathlib.Data.String.Basic

/-!
# JSON documents and the values they are made from

`JSON.stringify` leaves out the undefined members of an object and turns the
undefined items of an array into `null`, so a value and the document that is
stored of it may differ. The canonical text of a value sorts the members of every
object; it is a list of tokens here, a token being a mark, a word or a whole
literal. Two documents have one canonical text exactly when they agree up to the
order of their members, which unique readability of the printed tokens shows.
-/

namespace OpenRill.Lib

/-- A JSON document. A number is the literal that `JSON.stringify` writes for it. -/
inductive Json where
  | null
  | flag (value : Bool)
  | number (literal : String)
  | text (value : String)
  | list (items : List Json)
  | object (members : List (String × Json))

inductive Token where
  | openList
  | closeList
  | openObject
  | closeObject
  | comma
  | colon
  | null
  | undefined
  | flag (value : Bool)
  | number (literal : String)
  | text (value : String)
  deriving DecidableEq

mutual

/-- The text of a document with its members in the order given. -/
def Json.print : Json → List Token
  | .null => [.null]
  | .flag value => [.flag value]
  | .number literal => [.number literal]
  | .text value => [.text value]
  | .list items => .openList :: Json.printItems items
  | .object members => .openObject :: Json.printMembers members

def Json.printItems : List Json → List Token
  | [] => [.closeList]
  | item :: rest => item.print ++ Json.printMoreItems rest

def Json.printMoreItems : List Json → List Token
  | [] => [.closeList]
  | item :: rest => .comma :: (item.print ++ Json.printMoreItems rest)

def Json.printMembers : List (String × Json) → List Token
  | [] => [.closeObject]
  | (key, value) :: rest => .text key :: .colon :: (value.print ++ Json.printMoreMembers rest)

def Json.printMoreMembers : List (String × Json) → List Token
  | [] => [.closeObject]
  | (key, value) :: rest =>
    .comma :: .text key :: .colon :: (value.print ++ Json.printMoreMembers rest)

end

theorem print_head_open (document : Json) (rest : List Token) :
    (document.print ++ rest).head? ≠ some .closeList := by
  cases document <;> simp [Json.print]

mutual

/-- Unique readability: a document is read off the tokens that begin with it. -/
theorem print_readable (first second : Json) (rest other : List Token)
    (same : first.print ++ rest = second.print ++ other) : first = second ∧ rest = other := by
  cases first with
  | null => cases second <;> simp_all [Json.print]
  | flag value => cases second <;> simp_all [Json.print]
  | number literal => cases second <;> simp_all [Json.print]
  | text value => cases second <;> simp_all [Json.print]
  | list items =>
    cases second with
    | list others =>
      simp only [Json.print, List.cons_append, List.cons.injEq, true_and] at same
      have agree := printItems_readable items others rest other same
      rw [agree.1]
      exact ⟨rfl, agree.2⟩
    | _ => simp [Json.print] at same
  | object members =>
    cases second with
    | object others =>
      simp only [Json.print, List.cons_append, List.cons.injEq, true_and] at same
      have agree := printMembers_readable members others rest other same
      rw [agree.1]
      exact ⟨rfl, agree.2⟩
    | _ => simp [Json.print] at same
termination_by structural first

theorem printItems_readable (first second : List Json) (rest other : List Token)
    (same : Json.printItems first ++ rest = Json.printItems second ++ other) :
    first = second ∧ rest = other := by
  cases first with
  | nil =>
    cases second with
    | nil => simpa [Json.printItems] using same
    | cons item items =>
      have opened := print_head_open item (Json.printMoreItems items ++ other)
      rw [← List.append_assoc, ← Json.printItems, ← same] at opened
      simp [Json.printItems] at opened
  | cons item items =>
    cases second with
    | nil =>
      have opened := print_head_open item (Json.printMoreItems items ++ rest)
      rw [← List.append_assoc, ← Json.printItems, same] at opened
      simp [Json.printItems] at opened
    | cons otherItem otherItems =>
      simp only [Json.printItems, List.append_assoc] at same
      have head := print_readable item otherItem _ _ same
      have tail := printMoreItems_readable items otherItems rest other head.2
      rw [head.1, tail.1]
      exact ⟨rfl, tail.2⟩
termination_by structural first

theorem printMoreItems_readable (first second : List Json) (rest other : List Token)
    (same : Json.printMoreItems first ++ rest = Json.printMoreItems second ++ other) :
    first = second ∧ rest = other := by
  cases first with
  | nil =>
    cases second with
    | nil => simpa [Json.printMoreItems] using same
    | cons item items => simp [Json.printMoreItems] at same
  | cons item items =>
    cases second with
    | nil => simp [Json.printMoreItems] at same
    | cons otherItem otherItems =>
      simp only [Json.printMoreItems, List.cons_append, List.append_assoc,
        List.cons.injEq, true_and] at same
      have head := print_readable item otherItem _ _ same
      have tail := printMoreItems_readable items otherItems rest other head.2
      rw [head.1, tail.1]
      exact ⟨rfl, tail.2⟩
termination_by structural first

theorem printMembers_readable (first second : List (String × Json)) (rest other : List Token)
    (same : Json.printMembers first ++ rest = Json.printMembers second ++ other) :
    first = second ∧ rest = other := by
  cases first with
  | nil =>
    cases second with
    | nil => simpa [Json.printMembers] using same
    | cons member members => simp [Json.printMembers] at same
  | cons member members =>
    cases second with
    | nil => simp [Json.printMembers] at same
    | cons otherMember otherMembers =>
      obtain ⟨key, value⟩ := member
      obtain ⟨otherKey, otherValue⟩ := otherMember
      simp only [Json.printMembers, List.cons_append, List.append_assoc,
        List.cons.injEq, Token.text.injEq, true_and] at same
      have head := print_readable value otherValue _ _ same.2
      have tail := printMoreMembers_readable members otherMembers rest other head.2
      rw [same.1, head.1, tail.1]
      exact ⟨rfl, tail.2⟩
termination_by structural first

theorem printMoreMembers_readable (first second : List (String × Json))
    (rest other : List Token)
    (same : Json.printMoreMembers first ++ rest = Json.printMoreMembers second ++ other) :
    first = second ∧ rest = other := by
  cases first with
  | nil =>
    cases second with
    | nil => simpa [Json.printMoreMembers] using same
    | cons member members => simp [Json.printMoreMembers] at same
  | cons member members =>
    cases second with
    | nil => simp [Json.printMoreMembers] at same
    | cons otherMember otherMembers =>
      obtain ⟨key, value⟩ := member
      obtain ⟨otherKey, otherValue⟩ := otherMember
      simp only [Json.printMoreMembers, List.cons_append, List.append_assoc,
        List.cons.injEq, Token.text.injEq, true_and] at same
      have head := print_readable value otherValue _ _ same.2
      have tail := printMoreMembers_readable members otherMembers rest other head.2
      rw [same.1, head.1, tail.1]
      exact ⟨rfl, tail.2⟩
termination_by structural first

end

theorem print_injective {first second : Json} (same : first.print = second.print) :
    first = second := by
  apply (print_readable first second [] [] ?_).1
  rw [List.append_nil, List.append_nil]
  exact same

/-- Documents are compared by their text. -/
instance : DecidableEq Json := fun first second =>
  decidable_of_iff (first.print = second.print)
    ⟨print_injective, fun same => congrArg Json.print same⟩

/-- `ORDER` of `Array.prototype.sort` on keys; which total order it is does not matter
to a comparison of texts. -/
def keyBefore {Value : Type} (first second : String × Value) : Prop := first.1 ≤ second.1

instance {Value : Type} : DecidableRel (@keyBefore Value) := fun first second => by
  unfold keyBefore
  infer_instance

def sortMembers {Value : Type} (members : List (String × Value)) : List (String × Value) :=
  members.insertionSort keyBefore

mutual

/-- The document with the members of every object in key order. -/
def Json.sorted : Json → Json
  | .null => .null
  | .flag value => .flag value
  | .number literal => .number literal
  | .text value => .text value
  | .list items => .list (Json.sortedItems items)
  | .object members => .object (sortMembers (Json.sortedMembers members))

def Json.sortedItems : List Json → List Json
  | [] => []
  | item :: rest => item.sorted :: Json.sortedItems rest

def Json.sortedMembers : List (String × Json) → List (String × Json)
  | [] => []
  | (key, value) :: rest => (key, value.sorted) :: Json.sortedMembers rest

end

def Json.hasMember (document : Json) (key : String) (value : Json) : Bool :=
  match document with
  | .object members => members.any (fun member => decide (member = (key, value)))
  | _ => false

/-- The member of an object under a key. -/
def Json.member (document : Json) (key : String) : Option Json :=
  match document with
  | .object members => members.lookup key
  | _ => none

def Json.textMember (document : Json) (key : String) : Option String :=
  match document with
  | .object members =>
    match members.find? (fun member => member.1 == key) with
    | some (_, .text value) => some value
    | _ => none
  | _ => none

/-- A value that `JSON.stringify` does not refuse. A function or a symbol is as good as
undefined, an infinite number or NaN becomes `null`, and an object with a `toJSON`
method, such as a date, is written as what the method returns. -/
inductive JsValue where
  | undefined
  | null
  | flag (value : Bool)
  | number (literal : String)
  | notFinite
  | text (value : String)
  | list (items : List JsValue)
  | object (members : List (String × JsValue))
  | converting (members : List (String × JsValue)) (json : Option Json)

mutual

/-- `JSON.parse(JSON.stringify(value))`, or nothing where there is no text. -/
def JsValue.json : JsValue → Option Json
  | .undefined => none
  | .null => some .null
  | .flag value => some (.flag value)
  | .number literal => some (.number literal)
  | .notFinite => some .null
  | .text value => some (.text value)
  | .list items => some (.list (JsValue.jsonItems items))
  | .object members => some (.object (JsValue.jsonMembers members))
  | .converting _ json => json

def JsValue.jsonItems : List JsValue → List Json
  | [] => []
  | item :: rest => item.json.getD .null :: JsValue.jsonItems rest

def JsValue.jsonMembers : List (String × JsValue) → List (String × Json)
  | [] => []
  | (key, value) :: rest =>
    match value.json with
    | some json => (key, json) :: JsValue.jsonMembers rest
    | none => JsValue.jsonMembers rest

end

/-- `texts.join(",")`. -/
def joined : List (List Token) → List Token
  | [] => []
  | [text] => text
  | text :: next :: rest => text ++ .comma :: joined (next :: rest)

def memberText (member : String × List Token) : List Token :=
  .text member.1 :: .colon :: member.2

def objectText (members : List (String × List Token)) : List Token :=
  .openObject :: (joined ((sortMembers members).map memberText) ++ [.closeObject])

mutual

/-- `canonical`: an undefined item of an array has the empty text, an undefined
member the text `undefined`. -/
def JsValue.canonical : JsValue → List Token
  | .undefined => [.undefined]
  | .null => [.null]
  | .flag value => [.flag value]
  | .number literal => [.number literal]
  | .notFinite => [.null]
  | .text value => [.text value]
  | .list items => .openList :: (joined (JsValue.canonicalItems items) ++ [.closeList])
  | .object members => objectText (JsValue.canonicalMembers members)
  | .converting members _ => objectText (JsValue.canonicalMembers members)

def JsValue.canonicalItems : List JsValue → List (List Token)
  | [] => []
  | .undefined :: rest => [] :: JsValue.canonicalItems rest
  | item :: rest => item.canonical :: JsValue.canonicalItems rest

def JsValue.canonicalMembers : List (String × JsValue) → List (String × List Token)
  | [] => []
  | (key, value) :: rest => (key, value.canonical) :: JsValue.canonicalMembers rest

end

mutual

/-- A document as the value that `JSON.parse` returns. -/
def Json.value : Json → JsValue
  | .null => .null
  | .flag value => .flag value
  | .number literal => .number literal
  | .text value => .text value
  | .list items => .list (Json.valueItems items)
  | .object members => .object (Json.valueMembers members)

def Json.valueItems : List Json → List JsValue
  | [] => []
  | item :: rest => item.value :: Json.valueItems rest

def Json.valueMembers : List (String × Json) → List (String × JsValue)
  | [] => []
  | (key, value) :: rest => (key, value.value) :: Json.valueMembers rest

end

theorem printMoreItems_joined (text : List Token) (items : List Json) :
    text ++ Json.printMoreItems items = joined (text :: items.map Json.print) ++ [.closeList] := by
  induction items generalizing text with
  | nil => rfl
  | cons item rest ih =>
    simp only [Json.printMoreItems, List.map_cons, joined, List.append_assoc, List.cons_append, ih]

theorem printItems_joined (items : List Json) :
    Json.printItems items = joined (items.map Json.print) ++ [.closeList] := by
  cases items with
  | nil => rfl
  | cons item rest => exact printMoreItems_joined item.print rest

def printedMember (member : String × Json) : String × List Token := (member.1, member.2.print)

theorem printMoreMembers_joined (text : List Token) (members : List (String × Json)) :
    text ++ Json.printMoreMembers members =
      joined (text :: (members.map printedMember).map memberText) ++ [.closeObject] := by
  induction members generalizing text with
  | nil => rfl
  | cons member rest ih =>
    obtain ⟨key, value⟩ := member
    have tail := ih (memberText (printedMember (key, value)))
    simp only [List.map_cons, joined, List.append_assoc, List.cons_append]
    rw [← tail]
    rfl

theorem printMembers_joined (members : List (String × Json)) :
    Json.printMembers members =
      joined ((members.map printedMember).map memberText) ++ [.closeObject] := by
  cases members with
  | nil => rfl
  | cons member rest =>
    obtain ⟨key, value⟩ := member
    exact printMoreMembers_joined (memberText (printedMember (key, value))) rest

theorem sortMembers_printed (members : List (String × Json)) :
    sortMembers (members.map printedMember) = (sortMembers members).map printedMember := by
  refine (List.map_insertionSort keyBefore keyBefore printedMember members ?_).symm
  intro first _ second _
  exact Iff.rfl

theorem canonicalItems_document (item : Json) (rest : List JsValue) :
    JsValue.canonicalItems (item.value :: rest) =
      item.value.canonical :: JsValue.canonicalItems rest := by
  cases item <;> rfl

mutual

theorem canonical_value (document : Json) :
    document.value.canonical = document.sorted.print := by
  cases document with
  | list items =>
    simp only [Json.value, JsValue.canonical, Json.sorted, Json.print,
      canonicalItems_value items, printItems_joined]
  | object members =>
    simp only [Json.value, JsValue.canonical, Json.sorted, Json.print, objectText,
      canonicalMembers_value members, printMembers_joined, sortMembers_printed]
  | _ => rfl
termination_by structural document

theorem canonicalItems_value (items : List Json) :
    JsValue.canonicalItems (Json.valueItems items) = (Json.sortedItems items).map Json.print := by
  cases items with
  | nil => rfl
  | cons item rest =>
    simp only [Json.valueItems, canonicalItems_document, canonical_value item,
      canonicalItems_value rest, Json.sortedItems, List.map_cons]
termination_by structural items

theorem canonicalMembers_value (members : List (String × Json)) :
    JsValue.canonicalMembers (Json.valueMembers members) =
      (Json.sortedMembers members).map printedMember := by
  cases members with
  | nil => rfl
  | cons member rest =>
    obtain ⟨key, value⟩ := member
    simp only [Json.valueMembers, JsValue.canonicalMembers, canonical_value value,
      canonicalMembers_value rest, Json.sortedMembers, List.map_cons, printedMember]
termination_by structural members

end

theorem same_text_iff (first second : Json) :
    first.value.canonical = second.value.canonical ↔ first.sorted = second.sorted := by
  rw [canonical_value, canonical_value]
  exact ⟨print_injective, fun same => congrArg Json.print same⟩

/-- The value has the text of what is stored of it. -/
def JsValue.Survives (value : JsValue) : Prop :=
  ∃ document, value.json = some document ∧ value.canonical = document.value.canonical

theorem sortedMembers_map (members : List (String × Json)) :
    Json.sortedMembers members = members.map (fun member => (member.1, member.2.sorted)) := by
  induction members with
  | nil => rfl
  | cons member rest ih =>
    obtain ⟨key, value⟩ := member
    simp only [Json.sortedMembers, ih, List.map_cons]

theorem sorted_eq_text {document : Json} {text : String} :
    document.sorted = .text text ↔ document = .text text := by
  cases document <;> simp [Json.sorted]

theorem hasMember_sorted (document : Json) (key text : String) :
    document.sorted.hasMember key (.text text) = document.hasMember key (.text text) := by
  cases document with
  | object members =>
    rw [Bool.eq_iff_iff]
    simp only [Json.sorted, Json.hasMember, List.any_eq_true, decide_eq_true_eq, sortMembers,
      List.mem_insertionSort, sortedMembers_map, List.mem_map, Prod.exists, Prod.mk.injEq]
    constructor
    · rintro ⟨_, _, ⟨otherKey, value, valueIn, rfl, rfl⟩, rfl, isText⟩
      exact ⟨otherKey, value, valueIn, rfl, sorted_eq_text.mp isText⟩
    · rintro ⟨otherKey, value, valueIn, rfl, rfl⟩
      exact ⟨otherKey, .text text, ⟨otherKey, .text text, valueIn, rfl, rfl⟩, rfl, rfl⟩
  | _ => rfl

def markedWord : List Char → List Char
  | [] => ['"']
  | character :: rest => '\\' :: character :: markedWord rest

def tokenText : Token → List Char
  | .openList => ['[']
  | .closeList => [']']
  | .openObject => ['{']
  | .closeObject => ['}']
  | .comma => [',']
  | .colon => [':']
  | .null => ['n']
  | .undefined => ['u']
  | .flag true => ['t']
  | .flag false => ['f']
  | .number literal => '0' :: markedWord literal.toList
  | .text value => '"' :: markedWord value.toList

def tokensText (tokens : List Token) : List Char := (tokens.map tokenText).flatten

theorem markedWord_readable (first second rest other : List Char)
    (same : markedWord first ++ rest = markedWord second ++ other) :
    first = second ∧ rest = other := by
  induction first generalizing second with
  | nil =>
    cases second with
    | nil => simpa [markedWord] using same
    | cons character characters => simp [markedWord] at same
  | cons character characters inductionHypothesis =>
    cases second with
    | nil => simp [markedWord] at same
    | cons otherCharacter others =>
      simp only [markedWord, List.cons_append, List.cons.injEq, true_and] at same
      have agree := inductionHypothesis others same.2
      rw [same.1, agree.1]
      exact ⟨rfl, agree.2⟩

theorem tokenText_readable (first second : Token) (rest other : List Char)
    (same : tokenText first ++ rest = tokenText second ++ other) :
    first = second ∧ rest = other := by
  cases first with
  | number literal =>
    cases second with
    | number otherLiteral =>
      simp only [tokenText, List.cons_append, List.cons.injEq, true_and] at same
      have agree := markedWord_readable _ _ rest other same
      rw [String.toList_injective agree.1]
      exact ⟨rfl, agree.2⟩
    | flag value => cases value <;> simp [tokenText] at same
    | _ => simp [tokenText] at same
  | text value =>
    cases second with
    | text otherValue =>
      simp only [tokenText, List.cons_append, List.cons.injEq, true_and] at same
      have agree := markedWord_readable _ _ rest other same
      rw [String.toList_injective agree.1]
      exact ⟨rfl, agree.2⟩
    | flag value => cases value <;> simp [tokenText] at same
    | _ => simp [tokenText] at same
  | flag value =>
    cases second with
    | flag otherValue => cases value <;> cases otherValue <;> simp_all [tokenText]
    | _ => cases value <;> simp [tokenText] at same
  | _ =>
    cases second with
    | flag value => cases value <;> simp [tokenText] at same
    | _ => simp_all [tokenText]

theorem tokensText_injective : Function.Injective tokensText := by
  intro first
  induction first with
  | nil =>
    intro second same
    cases second with
    | nil => rfl
    | cons token tokens =>
      cases token with
      | flag value => cases value <;> simp [tokensText, tokenText] at same
      | _ => simp [tokensText, tokenText] at same
  | cons token tokens inductionHypothesis =>
    intro second same
    cases second with
    | nil =>
      cases token with
      | flag value => cases value <;> simp [tokensText, tokenText] at same
      | _ => simp [tokensText, tokenText] at same
    | cons otherToken others =>
      have head := tokenText_readable token otherToken _ _ same
      rw [head.1, inductionHypothesis head.2]

end OpenRill.Lib
