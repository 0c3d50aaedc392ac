import Mathlib
import OpenRill.Provider.EventStream

/-!
# Decoding does not depend on the chunks

The frames of a stream are a function of its text alone. Every event whose empty line ends in
LF is one frame, and the frame has the value of the event; an empty line that ends in CRLF
is no boundary, so the values of such a stream are not yielded.
-/

namespace OpenRill.Provider.StreamDecoding

open OpenRill.Lib OpenRill.Lib.Utf8
open EventStream

variable {rest text : List Char} {lines : List Line} {value : Json} {frames : List (List Char)}
variable {char : Char}

def onFirstFrame (char : Char) : List (List Char) × List Char → List (List Char) × List Char
  | ([], tail) => ([], char :: tail)
  | (frame :: frames, tail) => ((char :: frame) :: frames, tail)

/-- The frames of a text and what is left after the last boundary. -/
def cut : List Char → List (List Char) × List Char
  | [] => ([], [])
  | [char] => ([], [char])
  | char :: next :: later =>
    if char = '\n' ∧ next = '\n' then ([] :: (cut later).1, (cut later).2)
    else onFirstFrame char (cut (next :: later))

theorem cut_boundary (rest : List Char) :
    cut ('\n' :: '\n' :: rest) = ([] :: (cut rest).1, (cut rest).2) := by
  rw [cut]
  simp

theorem cut_step (inside : ¬(char = '\n' ∧ rest.head? = some '\n')) :
    cut (char :: rest) = onFirstFrame char (cut rest) := by
  cases rest with
  | nil => rfl
  | cons next later =>
    have notBoundary : ¬(char = '\n' ∧ next = '\n') := by
      simpa using inside
    rw [cut]
    simp only [notBoundary, if_false]

theorem onFirstFrame_append (char : Char) (some_frame : frames ≠ []) (tail : List Char)
    (more : List (List Char)) (last : List Char) :
    onFirstFrame char (frames ++ more, last) =
      ((onFirstFrame char (frames, tail)).1 ++ more, last) := by
  cases frames with
  | nil => exact absurd rfl some_frame
  | cons frame frames => rfl

theorem cut_uncut (none_cut : (cut text).1 = []) : (cut text).2 = text := by
  induction text using cut.induct with
  | case1 => rfl
  | case2 char => rfl
  | case3 char next later boundary ih =>
    obtain ⟨rfl, rfl⟩ := boundary
    cases none_cut
  | case4 char next later inside ih =>
    have step : cut (char :: next :: later) = onFirstFrame char (cut (next :: later)) :=
      cut_step (by simpa using inside)
    rw [step] at none_cut ⊢
    cases reached : cut (next :: later) with
    | mk frames tail =>
      rw [reached] at none_cut ih
      cases frames with
      | nil =>
        have same : tail = next :: later := ih rfl
        rw [same]
        rfl
      | cons frame frames => cases none_cut

theorem onFirstFrame_tail (char : Char) (some_frame : frames ≠ []) (tail : List Char) :
    (onFirstFrame char (frames, tail)).2 = tail := by
  cases frames with
  | nil => exact absurd rfl some_frame
  | cons frame frames => rfl

theorem cut_append (first rest : List Char) :
    cut (first ++ rest) =
      ((cut first).1 ++ (cut ((cut first).2 ++ rest)).1, (cut ((cut first).2 ++ rest)).2) := by
  induction first using cut.induct with
  | case1 => rfl
  | case2 char => rfl
  | case3 char next later boundary ih =>
    obtain ⟨rfl, rfl⟩ := boundary
    rw [List.cons_append, List.cons_append, cut_boundary, cut_boundary, ih]
    rfl
  | case4 char next later inside ih =>
    have step : cut (char :: next :: later) = onFirstFrame char (cut (next :: later)) :=
      cut_step (by simpa using inside)
    by_cases uncut : (cut (next :: later)).1 = []
    · have tail := cut_uncut uncut
      have nothing : cut (char :: next :: later) = ([], char :: next :: later) := by
        rw [step]
        cases reached : cut (next :: later) with
        | mk frames last =>
          rw [reached] at uncut tail
          dsimp only at uncut tail
          rw [uncut, tail]
          rfl
      rw [nothing]
      rfl
    · have longer : cut (char :: (next :: later ++ rest)) =
          onFirstFrame char (cut (next :: later ++ rest)) :=
        cut_step (by simpa using inside)
      rw [List.cons_append, longer, ih, step]
      rw [onFirstFrame_append char uncut (cut (next :: later)).2]
      rw [onFirstFrame_tail char uncut]

theorem indexOf_cut (text : List Char) :
    cut text = match indexOfBoundary text with
      | none => ([], text)
      | some boundary =>
        (text.take boundary :: (cut (text.drop (boundary + 2))).1,
          (cut (text.drop (boundary + 2))).2) := by
  induction text with
  | nil => rfl
  | cons char rest ih =>
    rw [indexOfBoundary]
    split_ifs with boundary
    · obtain ⟨rfl, next⟩ := boundary
      cases rest with
      | nil => cases next
      | cons char later =>
        obtain rfl : char = '\n' := by simpa using next
        exact cut_boundary later
    · rw [cut_step boundary, ih]
      cases indexOfBoundary rest with
      | none => rfl
      | some index => rfl

/-- The frames of a text, one after the other. -/
def yieldFrames : List (List Char) → List Json → List Json × Option StreamError
  | [], yielded => (yielded, none)
  | frame :: rest, yielded =>
    match frameValue frame with
    | .error error => (yielded, some error)
    | .ok value => yieldFrames rest (yielded ++ value.toList)

theorem yieldFrames_append (first rest : List (List Char)) (yielded : List Json) :
    yieldFrames (first ++ rest) yielded =
      match yieldFrames first yielded with
      | (reached, some error) => (reached, some error)
      | (reached, none) => yieldFrames rest reached := by
  induction first generalizing yielded with
  | nil => rfl
  | cons frame first ih =>
    rw [List.cons_append, yieldFrames, yieldFrames]
    cases frameValue frame with
    | error error => rfl
    | ok value => exact ih (yielded ++ value.toList)

theorem drain_cut {fuel : Nat} {buffer : List Char} {yielded : List Json}
    (enough : buffer.length < fuel) :
    drain fuel buffer yielded =
      match yieldFrames (cut buffer).1 yielded with
      | (reached, some error) => (reached, .error error)
      | (reached, none) => (reached, .ok (cut buffer).2) := by
  induction fuel generalizing buffer yielded with
  | zero => omega
  | succ fuel ih =>
    rw [drain, indexOf_cut buffer]
    cases found : indexOfBoundary buffer with
    | none => rfl
    | some boundary =>
      simp only [yieldFrames]
      cases frameValue (buffer.take boundary) with
      | error error => rfl
      | ok value =>
        apply ih
        have some_char : buffer ≠ [] := by
          rintro rfl
          cases found
        have long := List.length_pos_of_ne_nil some_char
        rw [List.length_drop]
        omega

/-- How a stream ends whose text is this. -/
def settle (text : List Char) (yielded : List Json) : Outcome :=
  match yieldFrames (cut text).1 yielded with
  | (reached, some error) => ⟨reached, some error⟩
  | (reached, none) =>
    if (cut text).2.dropWhile Text.isTrimmed = [] then ⟨reached, none⟩
    else ⟨reached, some .incompleteFrame⟩

theorem settle_append (first rest : List Char) (yielded : List Json) :
    settle (first ++ rest) yielded =
      match yieldFrames (cut first).1 yielded with
      | (reached, some error) => ⟨reached, some error⟩
      | (reached, none) => settle ((cut first).2 ++ rest) reached := by
  rw [settle, cut_append, yieldFrames_append]
  cases yieldFrames (cut first).1 yielded with
  | mk reached failure =>
    cases failure with
    | none => rfl
    | some error => rfl

theorem readChunks_settle (turn : Nat) (reading : Reading) (chunks : List (List UInt8))
    {decoder : Decoder} (decoded : reading.decoder.decodeAll chunks = some (decoder, text))
    (finished : decoder.left = 0) :
    readChunks unaborted turn reading chunks = settle (reading.buffer ++ text) reading.yielded := by
  induction chunks generalizing turn reading text with
  | nil =>
    cases decoded
    have whole : reading.decoder.finish = true := decide_eq_true finished
    rw [readChunks, drain_cut (Nat.lt_succ_self _), List.append_nil, settle]
    simp only [unaborted, whole]
    cases yieldFrames (cut reading.buffer).1 reading.yielded with
    | mk reached failure =>
      cases failure with
      | none => rfl
      | some error => rfl
  | cons chunk rest ih =>
    rw [Decoder.decodeAll] at decoded
    cases first : reading.decoder.decode chunk with
    | none =>
      rw [first] at decoded
      cases decoded
    | some step =>
      obtain ⟨next, characters⟩ := step
      rw [first, Option.bind_some, Option.map_eq_some_iff] at decoded
      obtain ⟨⟨last, later⟩, more, same⟩ := decoded
      cases same
      rw [readChunks, first]
      simp only [unaborted]
      rw [drain_cut (Nat.lt_succ_self _), ← List.append_assoc, settle_append]
      cases yieldFrames (cut (reading.buffer ++ characters)).1 reading.yielded with
      | mk reached failure =>
        cases failure with
        | some error => rfl
        | none =>
          exact ih (turn + 1) ⟨next, (cut (reading.buffer ++ characters)).2, reached⟩ more

variable {line : List Char} {done tokens : List Token}

def lexData (done : List Token) (data : Option (List Char)) : Option (List Token) :=
  data.elim (some done) (fun value => lexFrom ⟨done, .between⟩ value)

theorem wordChar_code (isWord : wordChar char = true) : 43 ≤ char.toNat ∧ char.toNat ≤ 122 := by
  simp only [wordChar, Char.isAlphanum, Char.isAlpha, Char.isUpper, Char.isLower, Char.isDigit,
    Bool.or_eq_true, Bool.and_eq_true, decide_eq_true_eq, ge_iff_le,
    UInt32.le_iff_toNat_le] at isWord
  have code : char.toNat = char.val.toNat := rfl
  have upper : 'A'.val.toNat = 65 ∧ 'Z'.val.toNat = 90 := by decide
  have lower : 'a'.val.toNat = 97 ∧ 'z'.val.toNat = 122 := by decide
  have digit : '0'.val.toNat = 48 ∧ '9'.val.toNat = 57 := by decide
  rcases isWord with ((((bounds | bounds) | bounds) | rfl) | rfl) | rfl
  · omega
  · omega
  · omega
  · decide
  · decide
  · decide

theorem markToken_code {token : Token} (isMark : markToken char = some token) :
    44 ≤ char.toNat ∧ char.toNat ≤ 125 := by
  unfold markToken at isMark
  split at isMark <;> first | decide | cases isMark

theorem trimmed_opens_nothing (char : Char) (trimmed : Text.isTrimmed char = true)
    (notBlank : isBlank char = false) (done : List Token) : lexOpen done char = none := by
  have outside : char.toNat ≤ 13 ∨ char.toNat = 32 ∨ 0xA0 ≤ char.toNat := by
    simp [Text.isTrimmed] at trimmed
    omega
  have notSpace : char.toNat ≠ 32 := by
    intro isSpace
    obtain rfl : char = ' ' := char_ext isSpace
    cases notBlank
  have notQuote : char ≠ '"' := by
    rintro rfl
    exact absurd outside (by decide)
  have notWord : wordChar char = false := by
    rw [Bool.eq_false_iff]
    intro isWord
    have code := wordChar_code isWord
    omega
  have notMark : markToken char = none := by
    cases isMark : markToken char with
    | none => rfl
    | some token =>
      have code := markToken_code isMark
      omega
  simp [lexOpen, notBlank, notQuote, notWord, notMark]

theorem fieldData_data (value : List Char) :
    fieldData (dataPrefix ++ value) =
      match value with
      | ' ' :: rest => some rest
      | rest => some rest := by
  have notBare : dataPrefix ++ value ≠ ['d', 'a', 't', 'a'] := by
    simp [dataPrefix]
  have isData : dataPrefix.isPrefixOf (dataPrefix ++ value) = true :=
    List.isPrefixOf_iff_prefix.2 (List.prefix_append _ _)
  rfl

theorem dataOfLine_data (value : List Char) :
    dataOfLine (dataPrefix ++ value) = some (value.dropWhile Text.isTrimmed) := by
  have isData : dataPrefix.isPrefixOf (dataPrefix ++ value) = true :=
    List.isPrefixOf_iff_prefix.2 (List.prefix_append _ _)
  rfl

theorem data_of_return (notData : ¬dataPrefix <+: line) : ¬dataPrefix <+: line ++ ['\r'] := by
  intro isData
  apply notData
  obtain ⟨rest, whole⟩ := isData
  rcases List.eq_nil_or_concat rest with rfl | ⟨front, last, rfl⟩
  · rw [List.append_nil] at whole
    have lastChar := congrArg List.getLast? whole
    rw [List.getLast?_concat] at lastChar
    exact absurd lastChar (by decide)
  · rw [List.concat_eq_append, ← List.append_assoc] at whole
    exact ⟨front, List.append_inj_left' whole rfl⟩

/-- The data that the code reads off a line has the tokens of the line's field. A return
that is left at the end of the line does not matter. -/
theorem lexData_line {read : List Char} (same : read = line ∨ read = line ++ ['\r'])
    (field : lexData done (fieldData line) = some tokens) :
    lexData done (dataOfLine read) = some tokens := by
  by_cases isData : dataPrefix <+: line
  · obtain ⟨value, rfl⟩ := isData
    have whole : lexFrom ⟨done, .between⟩ value = some tokens := by
      rw [fieldData_data] at field
      split at field
      next rest =>
        exact field
      next => exact field
    rcases same with rfl | rfl
    · rw [dataOfLine_data]
      exact lexFrom_dropWhile trimmed_opens_nothing whole
    · rw [List.append_assoc, dataOfLine_data]
      rw [← lexFrom_return] at whole
      exact lexFrom_dropWhile trimmed_opens_nothing whole
  · have noneRead : dataOfLine read = none := by
      unfold dataOfLine
      rw [if_neg]
      intro readData
      rw [List.isPrefixOf_iff_prefix] at readData
      rcases same with rfl | rfl
      · exact isData readData
      · exact data_of_return isData readData
    have emptyField : fieldData line = none ∨ fieldData line = some [] := by
      unfold fieldData
      split
      next => exact Or.inr rfl
      next =>
        rw [if_neg]
        · exact Or.inl rfl
        · intro isPrefix
          exact isData (List.isPrefixOf_iff_prefix.1 isPrefix)
    rw [noneRead]
    rcases emptyField with none | empty
    · rw [none] at field
      exact field
    · rw [empty] at field
      exact field

def body (line : Line) : List Char := line.text ++ line.ending.text.dropLast

/-- The lines of a frame as they are split: a return that stood before the last LF stays on
the last line. -/
def splitTexts : List Line → List (List Char)
  | [] => []
  | [line] => [body line]
  | line :: next :: rest => line.text :: splitTexts (next :: rest)

theorem lexData_lines (lines : List Line)
    (fields : lines.foldlM (fun done line => lexData done (fieldData line.text)) done =
      some tokens) :
    (splitTexts lines).foldlM (fun done line => lexData done (dataOfLine line)) done =
      some tokens := by
  induction lines generalizing done with
  | nil => exact fields
  | cons line rest ih =>
    obtain ⟨reached, first, later⟩ := Option.bind_eq_some_iff.1 fields
    cases rest with
    | nil =>
      have same : body line = line.text ∨ body line = line.text ++ ['\r'] := by
        unfold body
        cases line.ending with
        | lf => exact Or.inl (List.append_nil _)
        | crlf => exact Or.inr rfl
      rw [splitTexts, List.foldlM_cons, lexData_line same first]
      exact later
    | cons next rest =>
      rw [splitTexts, List.foldlM_cons, lexData_line (Or.inl rfl) first]
      exact ih later

theorem lexFrom_filterMap {Source : Type} (dataOf : Source → Option (List Char))
    (lines : List Source) (done : List Token) :
    lexFrom ⟨done, .between⟩ (['\n'].intercalate (lines.filterMap dataOf)) =
      lines.foldlM (fun done line => lexData done (dataOf line)) done := by
  rw [lexFrom_lines_joined, List.foldlM_filterMap]
  congr 1
  funext tokens line
  cases dataOf line <;> rfl

theorem parseJson_split (json : parseJson (eventData lines) = some value) :
    parseJson (['\n'].intercalate ((splitTexts lines).filterMap dataOfLine)) = some value := by
  unfold parseJson at json ⊢
  obtain ⟨tokens, read, document⟩ := Option.bind_eq_some_iff.1 json
  unfold eventData at read
  rw [lexFrom_filterMap fun line : Line => fieldData line.text] at read
  rw [lexFrom_filterMap dataOfLine, lexData_lines lines read]
  exact document

theorem written_body (line : Line) : line.written = body line ++ ['\n'] := by
  unfold Line.written body
  cases line.ending <;> simp [LineEnd.text]

theorem body_one_line (line : Line) : ∀ char ∈ body line, char ≠ '\n' := by
  intro char mem
  rcases List.mem_append.1 mem with inText | inEnding
  · exact (line.one_line char inText).1
  · cases ending : line.ending with
    | lf =>
      rw [ending] at inEnding
      cases inEnding
    | crlf =>
      rw [ending] at inEnding
      obtain rfl : char = '\r' := List.mem_singleton.1 inEnding
      decide

theorem body_head (line : Line) (rest : List Char) :
    (body line ++ rest).head? ≠ some '\n' := by
  have one_line := body_one_line line
  have not_empty : body line ≠ [] := by
    intro empty
    exact line.not_empty (List.append_eq_nil_iff.1 empty).1
  cases isBody : body line with
  | nil => exact absurd isBody not_empty
  | cons char more =>
    rw [isBody] at one_line
    intro isHead
    exact one_line char List.mem_cons_self (Option.some.inj isHead)

def frameText : List Line → List Char
  | [] => []
  | [line] => body line
  | line :: next :: rest => body line ++ '\n' :: frameText (next :: rest)

theorem written_frame (some_line : lines ≠ []) :
    lines.flatMap Line.written = frameText lines ++ ['\n'] := by
  induction lines with
  | nil => exact absurd rfl some_line
  | cons line rest ih =>
    cases rest with
    | nil => simp [frameText, written_body]
    | cons next rest =>
      rw [List.flatMap_cons, ih (List.cons_ne_nil _ _), written_body, frameText]
      simp

section

variable (one_line : ∀ char ∈ text, char ≠ '\n' ∧ char ≠ '\r') (ending : LineEnd)
include one_line ending

theorem splitLines_line :
    splitLines (text ++ ending.text.dropLast ++ '\n' :: rest) = text :: splitLines rest := by
  induction text with
  | nil => cases ending <;> simp [LineEnd.text, splitLines]
  | cons char text ih =>
    have notBreak := one_line char List.mem_cons_self
    have later := ih fun other mem => one_line other (List.mem_cons_of_mem _ mem)
    rw [List.cons_append, List.cons_append, splitLines, if_neg notBreak.1,
      if_neg fun isReturn => notBreak.2 isReturn.1, later]
    rfl

theorem splitLines_last :
    splitLines (text ++ ending.text.dropLast) = [text ++ ending.text.dropLast] := by
  induction text with
  | nil => cases ending <;> rfl
  | cons char text ih =>
    have notBreak := one_line char List.mem_cons_self
    have later := ih fun other mem => one_line other (List.mem_cons_of_mem _ mem)
    rw [List.cons_append, splitLines, if_neg notBreak.1,
      if_neg fun isReturn => notBreak.2 isReturn.1, later]
    rfl

end

theorem splitLines_frame (some_line : lines ≠ []) :
    splitLines (frameText lines) = splitTexts lines := by
  induction lines with
  | nil => exact absurd rfl some_line
  | cons line rest ih =>
    cases rest with
    | nil => exact splitLines_last line.one_line line.ending
    | cons next rest =>
      rw [frameText, splitTexts, ← ih (List.cons_ne_nil _ _)]
      exact splitLines_line line.one_line line.ending

theorem cut_line {frame tail : List Char} (one_line : ∀ char ∈ text, char ≠ '\n')
    (later : cut rest = (frame :: frames, tail)) :
    cut (text ++ rest) = ((text ++ frame) :: frames, tail) := by
  induction text with
  | nil => exact later
  | cons char text ih =>
    have notBreak := one_line char List.mem_cons_self
    rw [List.cons_append, cut_step fun boundary => notBreak boundary.1,
      ih fun other mem => one_line other (List.mem_cons_of_mem _ mem)]
    rfl

theorem cut_frame (some_line : lines ≠ []) (rest : List Char) :
    cut (frameText lines ++ '\n' :: '\n' :: rest) =
      (frameText lines :: (cut rest).1, (cut rest).2) := by
  induction lines with
  | nil => exact absurd rfl some_line
  | cons line more ih =>
    cases more with
    | nil =>
      have whole := cut_line (body_one_line line) (cut_boundary rest)
      rw [List.append_nil] at whole
      exact whole
    | cons next more =>
      have later := ih (List.cons_ne_nil _ _)
      have notBoundary : ¬('\n' = '\n' ∧
          (frameText (next :: more) ++ '\n' :: '\n' :: rest).head? = some '\n') := by
        rintro ⟨_, isHead⟩
        cases more with
        | nil => exact body_head next _ isHead
        | cons last more =>
          rw [frameText, List.append_assoc] at isHead
          exact body_head next _ isHead
      have broken := cut_step notBoundary
      rw [later] at broken
      rw [frameText, List.append_assoc, List.cons_append]
      exact cut_line (body_one_line line) broken

theorem onFirstFrame_length (char : Char) (reached : List (List Char) × List Char) :
    (onFirstFrame char reached).1.length = reached.1.length := by
  obtain ⟨frames, tail⟩ := reached
  cases frames <;> rfl

theorem frames_of_line {text : List Char} (one_line : ∀ char ∈ text, char ≠ '\n')
    (rest : List Char) : (cut (text ++ rest)).1.length = (cut rest).1.length := by
  induction text with
  | nil => rfl
  | cons char text ih =>
    have notBreak := one_line char List.mem_cons_self
    rw [List.cons_append, cut_step fun boundary => notBreak boundary.1, onFirstFrame_length]
    exact ih fun other mem => one_line other (List.mem_cons_of_mem _ mem)

theorem frames_of_break (inside : rest.head? ≠ some '\n') :
    (cut ('\n' :: rest)).1.length = (cut rest).1.length := by
  rw [cut_step fun boundary => inside boundary.2, onFirstFrame_length]

theorem frames_of_lines (lines : List Line) {rest : List Char}
    (inside : rest.head? ≠ some '\n') :
    (cut (lines.flatMap Line.written ++ rest)).1.length = (cut rest).1.length ∧
      (lines.flatMap Line.written ++ rest).head? ≠ some '\n' := by
  induction lines with
  | nil => exact ⟨rfl, inside⟩
  | cons line lines ih =>
    rw [List.flatMap_cons, written_body, List.append_assoc, List.append_assoc]
    refine ⟨?_, body_head line _⟩
    rw [frames_of_line (body_one_line line)]
    exact (frames_of_break ih.2).trans ih.1

variable {events : List Event} {marked : Bool}

theorem empty_not_json : parseJson [] ≠ some value := by
  intro same
  cases same

theorem doneMark_not_json : parseJson doneMark ≠ some value := by
  intro same
  cases same

theorem event_lines (event : Event) : event.lines ≠ [] := by
  intro none
  have json := event.json
  rw [none] at json
  exact empty_not_json json

theorem event_head (event : Event) : (event.written ++ rest).head? ≠ some '\n' := by
  have some_line := event_lines event
  unfold Event.written
  cases lines : event.lines with
  | nil => exact absurd lines some_line
  | cons line more =>
    rw [List.flatMap_cons, written_body, List.append_assoc, List.append_assoc, List.append_assoc]
    exact body_head line _

theorem stream_head (events : List Event) :
    (events.flatMap Event.written).head? ≠ some '\n' := by
  cases events with
  | nil => simp
  | cons event events => exact event_head event

theorem written_lf {event : Event} (lf : event.blank = .lf) :
    event.written = frameText event.lines ++ ['\n', '\n'] := by
  rw [Event.written, lf, written_frame (event_lines event), List.append_assoc]
  rfl

theorem frames_of_stream (events : List Event) :
    (cut (events.flatMap Event.written)).1.length =
      events.countP (fun event => event.blank = .lf) := by
  induction events with
  | nil => rfl
  | cons event events ih =>
    rw [List.flatMap_cons]
    cases blank : event.blank with
    | lf =>
      have counted : events.countP (fun event => event.blank = .lf) + 1 =
          (event :: events).countP (fun event => event.blank = .lf) := by
        rw [List.countP_cons, if_pos (by simp [blank])]
      rw [written_lf blank, List.append_assoc, ← counted, ← ih]
      have framed := cut_frame (event_lines event) (events.flatMap Event.written)
      exact congrArg (fun reached => reached.1.length) framed
    | crlf =>
      have counted : events.countP (fun event => event.blank = .lf) =
          (event :: events).countP (fun event => event.blank = .lf) := by
        rw [List.countP_cons, if_neg (by simp [blank]), Nat.add_zero]
      have returned := @frames_of_line ['\r'] (by simp) ('\n' :: events.flatMap Event.written)
      have broken := frames_of_break (stream_head events)
      have lines := @frames_of_lines event.lines
        ('\r' :: '\n' :: events.flatMap Event.written) (by simp)
      rw [← counted, ← ih, ← broken, ← returned, List.singleton_append, ← lines.1,
        Event.written, blank, List.append_assoc]
      rfl

theorem cut_stream (all_lf : ∀ event ∈ events, event.blank = .lf) :
    cut (events.flatMap Event.written) = (events.map (fun event => frameText event.lines), []) := by
  induction events with
  | nil => rfl
  | cons event events ih =>
    have later := ih fun other mem => all_lf other (List.mem_cons_of_mem _ mem)
    have framed := cut_frame (event_lines event) (events.flatMap Event.written)
    rw [later] at framed
    rw [List.flatMap_cons, written_lf (all_lf event List.mem_cons_self), List.append_assoc]
    exact framed

theorem frameValue_event (event : Event) :
    frameValue (frameText event.lines) = .ok (some event.value) := by
  have parsed := parseJson_split event.json
  have data : frameData (frameText event.lines) =
      ['\n'].intercalate ((splitTexts event.lines).filterMap dataOfLine) := by
    rw [frameData, splitLines_frame (event_lines event)]
  have not_skipped : ¬(frameData (frameText event.lines) = [] ∨
      frameData (frameText event.lines) = doneMark) := by
    rw [data]
    rintro (empty | finished)
    · rw [empty] at parsed
      exact empty_not_json parsed
    · rw [finished] at parsed
      exact doneMark_not_json parsed
  rw [frameValue]
  simp only [not_skipped, if_false]
  rw [data, parsed]

theorem yieldFrames_events (events : List Event) (yielded : List Json) :
    yieldFrames (events.map (fun event => frameText event.lines)) yielded =
      (yielded ++ events.map Event.value, none) := by
  induction events generalizing yielded with
  | nil => rw [List.map_nil, yieldFrames, List.map_nil, List.append_nil]
  | cons event events ih =>
    rw [List.map_cons, yieldFrames, frameValue_event]
    simp only
    rw [ih, List.append_assoc]
    rfl

theorem yieldFrames_length (frames : List (List Char)) (yielded : List Json) :
    (yieldFrames frames yielded).1.length ≤ yielded.length + frames.length := by
  induction frames generalizing yielded with
  | nil => exact Nat.le_refl _
  | cons frame frames ih =>
    rw [yieldFrames, List.length_cons]
    cases frameValue frame with
    | error error => exact Nat.le_add_right _ _
    | ok value =>
      have later := ih (yielded ++ value.toList)
      have atMostOne : value.toList.length ≤ 1 := by
        cases value <;> simp
      rw [List.length_append] at later
      simp only
      omega

theorem settle_yielded (text : List Char) :
    (settle text []).yielded.length ≤ (cut text).1.length := by
  have bounded := yieldFrames_length (cut text).1 []
  rw [List.length_nil, Nat.zero_add] at bounded
  unfold settle
  cases reached : yieldFrames (cut text).1 [] with
  | mk values failure =>
    rw [reached] at bounded
    cases failure with
    | none =>
      simp only
      split <;> exact bounded
    | some error => exact bounded

section

variable (unmarked : marked = false → (events.flatMap Event.written).head? ≠ some byteOrderMark)
include unmarked

theorem decoded_stream :
    ∃ decoder, decoder.left = 0 ∧
      Decoder.initial.decode (streamBytes marked events) =
        some (decoder, events.flatMap Event.written) := by
  cases marked with
  | false => exact decode_initial (unmarked rfl)
  | true => exact ⟨.ready, rfl, decode_marked _⟩

theorem parseSse_settle {body : List (List UInt8)}
    (chunked : body.flatten = streamBytes marked events) :
    parseSse unaborted body = settle (events.flatMap Event.written) [] := by
  obtain ⟨decoder, finished, decoded⟩ := decoded_stream unmarked
  rw [← chunked, ← decodeAll_flatten] at decoded
  exact readChunks_settle 0 ⟨.initial, [], []⟩ body decoded finished

end

/-- However its bytes are chunked, a stream of events yields exactly the values of the events
and ends without an error if and only if the empty line after every event ends in LF. -/
theorem stream_decoded_iff (events : List Event) (marked : Bool)
    (unmarked : marked = false → (events.flatMap Event.written).head? ≠ some byteOrderMark)
    (body : List (List UInt8)) (chunked : body.flatten = streamBytes marked events) :
    parseSse unaborted body = ⟨events.map Event.value, none⟩ ↔
      ∀ event ∈ events, event.blank = .lf := by
  rw [parseSse_settle unmarked chunked]
  constructor
  · intro decoded
    have bounded := settle_yielded (events.flatMap Event.written)
    rw [decoded, List.length_map, frames_of_stream] at bounded
    have every := List.countP_eq_length.1 (Nat.le_antisymm List.countP_le_length bounded)
    intro event mem
    exact of_decide_eq_true (every event mem)
  · intro all_lf
    rw [settle, cut_stream all_lf, yieldFrames_events]
    rfl

def numberLine (ending : LineEnd) : Line where
  text := ['d', 'a', 't', 'a', ':', ' ', '1']
  ending := ending
  not_empty := by decide
  one_line := by simp

def numberEvent (ending blank : LineEnd) : Event where
  lines := [numberLine ending]
  blank := blank
  value := .number "1"
  json := by
    cases ending <;> decide

/-- Two events in two chunks, the first of which ends inside a line ending. -/
theorem numbers_decoded :
    parseSse unaborted [(streamBytes false [numberEvent .crlf .lf, numberEvent .lf .lf]).take 8,
      (streamBytes false [numberEvent .crlf .lf, numberEvent .lf .lf]).drop 8] =
      ⟨[.number "1", .number "1"], none⟩ :=
  (stream_decoded_iff [numberEvent .crlf .lf, numberEvent .lf .lf] false (fun _ => by decide) _
    (by rw [List.flatten_cons, List.flatten_singleton, List.take_append_drop])).2 (by decide)

/-- The event whose lines all end in CRLF is not yielded, and its stream ends in an error. -/
theorem returned_event_lost :
    parseSse unaborted [streamBytes false [numberEvent .crlf .crlf]] ≠
        ⟨[numberEvent .crlf .crlf].map Event.value, none⟩ ∧
      parseSse unaborted [streamBytes false [numberEvent .crlf .crlf]] =
        ⟨[], some .incompleteFrame⟩ := by
  decide +kernel

end OpenRill.Provider.StreamDecoding
