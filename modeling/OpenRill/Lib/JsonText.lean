import OpenRill.Lib.Json

/-!
# JSON texts

The text that `JSON.stringify` writes with an indentation of two, and the reading of
`JSON.parse`: first the tokens of the text, character by character, then the document
that the tokens spell. A string is a sequence of UTF-16 units while it is read; a lone
surrogate is read as the replacement character.
-/

namespace OpenRill.Lib

variable {char : Char}

def utf16 (char : Char) : List Nat :=
  if char.toNat < 0x10000 then [char.toNat]
  else [0xD800 + (char.toNat - 0x10000) / 0x400, 0xDC00 + (char.toNat - 0x10000) % 0x400]

def highUnit (unit : Nat) : Bool := decide (0xD800 ≤ unit) && decide (unit < 0xDC00)

def lowUnit (unit : Nat) : Bool := decide (0xDC00 ≤ unit) && decide (unit < 0xE000)

def unitChar (unit : Nat) : Char :=
  if highUnit unit || lowUnit unit then Char.ofNat 0xFFFD else Char.ofNat unit

/-- The characters that UTF-16 units spell. -/
def utf16Text : List Nat → List Char
  | [] => []
  | [unit] => [unitChar unit]
  | unit :: next :: rest =>
    if highUnit unit && lowUnit next then
      Char.ofNat (0x10000 + (unit - 0xD800) * 0x400 + (next - 0xDC00)) :: utf16Text rest
    else unitChar unit :: utf16Text (next :: rest)

def hexDigit (digit : Nat) : Char :=
  if digit < 10 then Char.ofNat (48 + digit) else Char.ofNat (87 + digit)

/-- How a character stands in a JSON string. -/
def escapedChar (char : Char) : List Char :=
  if char = '"' then ['\\', '"']
  else if char = '\\' then ['\\', '\\']
  else if char.toNat = 8 then ['\\', 'b']
  else if char.toNat = 9 then ['\\', 't']
  else if char.toNat = 10 then ['\\', 'n']
  else if char.toNat = 12 then ['\\', 'f']
  else if char.toNat = 13 then ['\\', 'r']
  else if char.toNat < 0x20 then
    ['\\', 'u', '0', '0', hexDigit (char.toNat / 16), hexDigit (char.toNat % 16)]
  else [char]

def quoted (text : String) : List Char :=
  '"' :: (text.toList.flatMap escapedChar ++ ['"'])

def blanks (count : Nat) : List Char := List.replicate count ' '

def flagWord (value : Bool) : List Char :=
  if value then ['t', 'r', 'u', 'e'] else ['f', 'a', 'l', 's', 'e']

mutual

/-- `JSON.stringify(document, null, 2)`, inside an indentation. -/
def Json.lines (indent : Nat) : Json → List Char
  | .null => ['n', 'u', 'l', 'l']
  | .flag value => flagWord value
  | .number literal => literal.toList
  | .text value => quoted value
  | .list [] => ['[', ']']
  | .list (item :: rest) =>
    '[' :: '\n' :: (blanks (indent + 2) ++ (item.lines (indent + 2) ++
      (Json.moreLines (indent + 2) rest ++ ('\n' :: (blanks indent ++ [']'])))))
  | .object [] => ['{', '}']
  | .object ((key, value) :: rest) =>
    '{' :: '\n' :: (blanks (indent + 2) ++ (quoted key ++ (':' :: ' ' ::
      (value.lines (indent + 2) ++
        (Json.moreMemberLines (indent + 2) rest ++ ('\n' :: (blanks indent ++ ['}'])))))))

def Json.moreLines (indent : Nat) : List Json → List Char
  | [] => []
  | item :: rest =>
    ',' :: '\n' :: (blanks indent ++ (item.lines indent ++ Json.moreLines indent rest))

def Json.moreMemberLines (indent : Nat) : List (String × Json) → List Char
  | [] => []
  | (key, value) :: rest =>
    ',' :: '\n' :: (blanks indent ++ (quoted key ++ (':' :: ' ' ::
      (value.lines indent ++ Json.moreMemberLines indent rest))))

end

def wordChar (char : Char) : Bool :=
  char.isAlphanum || char = '+' || char = '-' || char = '.'

/-- A JSON number: a sign, an integer without leading zeros, a fraction, an exponent. -/
def afterInteger : List Char → Option (List Char)
  | '0' :: rest => some rest
  | char :: rest =>
    if char.isDigit then some (rest.dropWhile Char.isDigit) else none
  | [] => none

def afterDigits : List Char → Option (List Char)
  | char :: rest => if char.isDigit then some (rest.dropWhile Char.isDigit) else none
  | [] => none

def afterFraction : List Char → Option (List Char)
  | '.' :: rest => afterDigits rest
  | rest => some rest

def afterExponent : List Char → Option (List Char)
  | char :: rest =>
    if char = 'e' ∨ char = 'E' then
      match rest with
      | '+' :: digits => afterDigits digits
      | '-' :: digits => afterDigits digits
      | digits => afterDigits digits
    else some (char :: rest)
  | [] => some []

def isNumber (word : List Char) : Bool :=
  let unsigned := match word with
    | '-' :: rest => rest
    | rest => rest
  word.all wordChar && ((afterInteger unsigned).bind afterFraction).bind afterExponent = some []

def wordToken (word : List Char) : Option Token :=
  if word = ['n', 'u', 'l', 'l'] then some .null
  else if word = flagWord true then some (.flag true)
  else if word = flagWord false then some (.flag false)
  else if isNumber word then some (.number (String.ofList word))
  else none

def isBlank (char : Char) : Bool :=
  char = ' ' || char = '\t' || char = '\n' || char = '\r'

def markToken : Char → Option Token
  | '[' => some .openList
  | ']' => some .closeList
  | '{' => some .openObject
  | '}' => some .closeObject
  | ',' => some .comma
  | ':' => some .colon
  | _ => none

/-- The unit that a letter after a backslash stands for. -/
def escapedUnit : Char → Option Nat
  | '"' => some 34
  | '\\' => some 92
  | '/' => some 47
  | 'b' => some 8
  | 't' => some 9
  | 'n' => some 10
  | 'f' => some 12
  | 'r' => some 13
  | _ => none

def hexValue (char : Char) : Option Nat :=
  if 48 ≤ char.toNat ∧ char.toNat ≤ 57 then some (char.toNat - 48)
  else if 97 ≤ char.toNat ∧ char.toNat ≤ 102 then some (char.toNat - 87)
  else if 65 ≤ char.toNat ∧ char.toNat ≤ 70 then some (char.toNat - 55)
  else none

inductive LexMode where
  | between
  | word (read : List Char)
  | text (units : List Nat)
  | escape (units : List Nat)
  | unit (units : List Nat) (value left : Nat)
  deriving DecidableEq

structure Lexing where
  done : List Token
  mode : LexMode
  deriving DecidableEq

/-- A character where a token may begin. -/
def lexOpen (done : List Token) (char : Char) : Option Lexing :=
  if isBlank char then some ⟨done, .between⟩
  else if char = '"' then some ⟨done, .text []⟩
  else if wordChar char then some ⟨done, .word [char]⟩
  else (markToken char).map (fun mark => ⟨done ++ [mark], .between⟩)

def lexChar (lexing : Lexing) (char : Char) : Option Lexing :=
  match lexing.mode with
  | .between => lexOpen lexing.done char
  | .word read =>
    if wordChar char then some ⟨lexing.done, .word (read ++ [char])⟩
    else (wordToken read).bind (fun token => lexOpen (lexing.done ++ [token]) char)
  | .text units =>
    if char = '"' then
      some ⟨lexing.done ++ [.text (String.ofList (utf16Text units))], .between⟩
    else if char = '\\' then some ⟨lexing.done, .escape units⟩
    else if char.toNat < 0x20 then none
    else some ⟨lexing.done, .text (units ++ utf16 char)⟩
  | .escape units =>
    if char = 'u' then some ⟨lexing.done, .unit units 0 4⟩
    else (escapedUnit char).map (fun unit => ⟨lexing.done, .text (units ++ [unit])⟩)
  | .unit units value left =>
    (hexValue char).map (fun digit =>
      if left ≤ 1 then ⟨lexing.done, .text (units ++ [16 * value + digit])⟩
      else ⟨lexing.done, .unit units (16 * value + digit) (left - 1)⟩)

def lexText (lexing : Lexing) (text : List Char) : Option Lexing := text.foldlM lexChar lexing

def lexEnd (lexing : Lexing) : Option (List Token) :=
  match lexing.mode with
  | .between => some lexing.done
  | .word read => (wordToken read).map (fun token => lexing.done ++ [token])
  | _ => none

def lexFrom (lexing : Lexing) (text : List Char) : Option (List Token) :=
  (lexText lexing text).bind lexEnd

/-- A member of an object, in the place of an earlier one with its key. -/
def putMember (members : List (String × Json)) (member : String × Json) :
    List (String × Json) :=
  if members.any (fun other => other.1 = member.1) then
    members.map (fun other => if other.1 = member.1 then member else other)
  else members ++ [member]

mutual

/-- The document at the head of the tokens. -/
def readValue : Nat → List Token → Option (Json × List Token)
  | 0, _ => none
  | fuel + 1, tokens =>
    match tokens with
    | .null :: rest => some (.null, rest)
    | .flag value :: rest => some (.flag value, rest)
    | .number literal :: rest => some (.number literal, rest)
    | .text value :: rest => some (.text value, rest)
    | .openList :: .closeList :: rest => some (.list [], rest)
    | .openList :: rest =>
      (readItems fuel rest).map (fun items => (.list items.1, items.2))
    | .openObject :: .closeObject :: rest => some (.object [], rest)
    | .openObject :: rest =>
      (readMembers fuel rest).map (fun members =>
        (.object (members.1.foldl putMember []), members.2))
    | _ => none

def readItems : Nat → List Token → Option (List Json × List Token)
  | 0, _ => none
  | fuel + 1, tokens =>
    match readValue fuel tokens with
    | some (item, .closeList :: rest) => some ([item], rest)
    | some (item, .comma :: rest) =>
      (readItems fuel rest).map (fun items => (item :: items.1, items.2))
    | _ => none

def readMembers : Nat → List Token → Option (List (String × Json) × List Token)
  | 0, _ => none
  | fuel + 1, tokens =>
    match tokens with
    | .text key :: .colon :: rest =>
      match readValue fuel rest with
      | some (value, .closeObject :: later) => some ([(key, value)], later)
      | some (value, .comma :: later) =>
        (readMembers fuel later).map (fun members => ((key, value) :: members.1, members.2))
      | _ => none
    | _ => none

end

/-- `JSON.parse`. -/
def parseJson (text : List Char) : Option Json :=
  (lexFrom ⟨[], .between⟩ text).bind (fun tokens =>
    match readValue (tokens.length + 1) tokens with
    | some (document, []) => some document
    | _ => none)

theorem lexFrom_cons (lexing : Lexing) (char : Char) (rest : List Char) :
    lexFrom lexing (char :: rest) =
      (lexChar lexing char).bind (fun reached => lexFrom reached rest) := by
  unfold lexFrom lexText
  rw [List.foldlM_cons]
  cases lexChar lexing char <;> rfl

theorem lexFrom_append (lexing : Lexing) (first rest : List Char) :
    lexFrom lexing (first ++ rest) =
      (lexText lexing first).bind (fun reached => lexFrom reached rest) := by
  unfold lexFrom lexText
  rw [List.foldlM_append]
  cases List.foldlM lexChar lexing first <;> rfl

variable {done : List Token}

theorem lexFrom_blank (blank : isBlank char = true) (rest : List Char) :
    lexFrom ⟨done, .between⟩ (char :: rest) = lexFrom ⟨done, .between⟩ rest := by
  rw [lexFrom_cons]
  simp [lexChar, lexOpen, blank]

theorem char_ext {first second : Char} (same : first.toNat = second.toNat) : first = second := by
  rw [← Char.ofNat_toNat first, same, Char.ofNat_toNat]

end OpenRill.Lib
