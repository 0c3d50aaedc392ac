import OpenRill.Lib.JsonText

/-!
# Line breaks in a document

A document may be broken into lines between its tokens, and only there: reading its lines one
after the other reads the document.
-/

namespace OpenRill.Lib

variable {line : List Char} {char : Char}

/-- A line break ends the token it stands after, and cannot stand inside a string. -/
theorem lexChar_break (lexing : Lexing) (isBreak : char = '\n' ∨ char = '\r') :
    lexChar lexing char = (lexEnd lexing).map (fun tokens => ⟨tokens, .between⟩) := by
  have opened : ∀ done, lexOpen done char = some ⟨done, .between⟩ := by
    intro done
    rcases isBreak with rfl | rfl <;> rfl
  have notWord : wordChar char = false := by
    rcases isBreak with rfl | rfl <;> rfl
  obtain ⟨done, mode⟩ := lexing
  cases mode with
  | between => exact opened done
  | word read =>
    simp only [lexChar, lexEnd, notWord, Bool.false_eq_true, if_false, opened]
    cases wordToken read <;> rfl
  | text units => rcases isBreak with rfl | rfl <;> rfl
  | escape units => rcases isBreak with rfl | rfl <;> rfl
  | unit units value left => rcases isBreak with rfl | rfl <;> rfl

theorem lexFrom_break (lexing : Lexing) (line rest : List Char)
    (isBreak : char = '\n' ∨ char = '\r') :
    lexFrom lexing (line ++ char :: rest) =
      (lexFrom lexing line).bind (fun tokens => lexFrom ⟨tokens, .between⟩ rest) := by
  rw [lexFrom_append]
  unfold lexFrom
  cases lexText lexing line with
  | none => rfl
  | some reached =>
    have read := lexFrom_cons reached char rest
    unfold lexFrom at read
    rw [Option.bind_some, Option.bind_some, read, lexChar_break reached isBreak]
    cases lexEnd reached <;> rfl

theorem lexFrom_return {lexing : Lexing} :
    lexFrom lexing (line ++ ['\r']) = lexFrom lexing line := by
  rw [lexFrom_break lexing line [] (Or.inr rfl)]
  cases lexFrom lexing line <;> rfl

/-- White space that is dropped before a token does not change the tokens. -/
theorem lexFrom_dropWhile {dropped : Char → Bool}
    (noToken : ∀ char, dropped char = true → isBlank char = false →
      ∀ done, lexOpen done char = none) {done tokens : List Token}
    (read : lexFrom ⟨done, .between⟩ line = some tokens) :
    lexFrom ⟨done, .between⟩ (line.dropWhile dropped) = some tokens := by
  induction line with
  | nil => exact read
  | cons char rest ih =>
    rw [List.dropWhile_cons]
    split
    next isDropped =>
      apply ih
      cases blank : isBlank char with
      | true =>
        rw [lexFrom_blank blank] at read
        exact read
      | false =>
        have opened : lexChar ⟨done, .between⟩ char = none :=
          noToken char isDropped blank done
        rw [lexFrom_cons, opened] at read
        cases read
    next => exact read

theorem lexFrom_lines_joined (lines : List (List Char)) (done : List Token) :
    lexFrom ⟨done, .between⟩ (['\n'].intercalate lines) =
      lines.foldlM (fun tokens line => lexFrom ⟨tokens, .between⟩ line) done := by
  induction lines generalizing done with
  | nil => rfl
  | cons line rest ih =>
    cases rest with
    | nil =>
      rw [List.foldlM_cons]
      have joined : ['\n'].intercalate [line] = line := by
        simp [List.intercalate]
      rw [joined]
      cases lexFrom ⟨done, .between⟩ line <;> rfl
    | cons next rest =>
      have joined : ['\n'].intercalate (line :: next :: rest) =
          line ++ '\n' :: ['\n'].intercalate (next :: rest) := by
        simp [List.intercalate]
      rw [joined, lexFrom_break _ _ _ (Or.inl rfl), List.foldlM_cons]
      simp only [ih]
      rfl

end OpenRill.Lib
