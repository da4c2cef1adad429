import TextTemplate.Proofs.Expression.Name
import TextTemplate.Proofs.Expression.QuotedText

set_option autoImplicit false

/-! # Lexemes one behind the other

A lexeme is as long as it can be, so where it ends depends on what stands behind it, but on the first
character only. If that one cannot prolong a mark, a number, a name or white space, then these are cut
off by themselves, and the rest is tokenized as if it stood alone (`lexemesFrom_mark`,
`lexemesFrom_digits`, `lexemesFrom_closed`, `lexemesFrom_append`). -/

namespace TextTemplate

/-! ## Rows -/

section Rows

variable {α : Type} {p : α → Bool} {rest : List α}

/-- A row does not go on in a text that starts with something else. -/
theorem takeWhile_append_of_head (hrest : ∀ a ∈ rest.head?, p a = false) (row : List α) :
    (row ++ rest).takeWhile p = row.takeWhile p := by
  induction row with
  | nil =>
      cases rest with
      | nil => rfl
      | cons a rest => simp [hrest a rfl]
  | cons a row ih => simp only [List.cons_append, List.takeWhile_cons, ih]

theorem takeWhile_row {row : List α} (hrow : ∀ a ∈ row, p a = true)
    (hrest : ∀ a ∈ rest.head?, p a = false) : (row ++ rest).takeWhile p = row := by
  rw [takeWhile_append_of_head hrest, List.takeWhile_eq_self_iff.2 hrow]

theorem dropWhile_row {row : List α} (hrow : ∀ a ∈ row, p a = true)
    (hrest : ∀ a ∈ rest.head?, p a = false) : (row ++ rest).dropWhile p = rest := by
  rw [List.dropWhile_append_of_pos hrow]
  cases rest with
  | nil => rfl
  | cons a rest => simp [hrest a rfl]

end Rows

namespace Text

/-- The text is empty or starts with one of the marks. -/
def StartsIn (marks text : List Char) : Prop := ∀ c ∈ text.head?, c ∈ marks

variable {marks text : List Char}

theorem startsIn_nil (marks : List Char) : StartsIn marks [] := by
  intro c hc
  cases hc

theorem startsIn_cons {c : Char} (hc : c ∈ marks) (text : List Char) : StartsIn marks (c :: text) := by
  intro d hd
  cases hd
  exact hc

theorem StartsIn.mono {marks' : List Char} (h : StartsIn marks text) (hsub : marks ⊆ marks') :
    StartsIn marks' text :=
  fun c hc => hsub (h c hc)

/-- What holds for none of the marks does not hold for the first character. -/
theorem StartsIn.head_eq_false {p : Char → Bool} (h : StartsIn marks text)
    (hmarks : marks.any p = false) : ∀ c ∈ text.head?, p c = false :=
  fun c hc => Bool.eq_false_iff.2 (List.any_eq_false.1 hmarks c (h c hc))

end Text

namespace Token

/-! ## Lexemes in front of a text -/

/-- The lexeme at the start, and the lexemes of what stands behind it. -/
theorem lexemesFrom_of_lexemeAt {c : Char} {row rest : List Char} {token : Token}
    (h : lexemeAt c (row ++ rest) = ⟨token, c :: row⟩) :
    lexemesFrom 0 (c :: (row ++ rest)) = ⟨token, c :: row⟩ :: lexemesFrom 0 rest := by
  rw [lexemesFrom_cons, h]
  simp

theorem lexemesFrom_mark {c : Char} {token : Token} (h : ofChar? c = some token) (rest : List Char) :
    lexemesFrom 0 (c :: rest) = ⟨token, [c]⟩ :: lexemesFrom 0 rest := by
  have hat : lexemeAt c ([] ++ rest) = ⟨token, [c]⟩ := by
    unfold ofChar? at h
    split at h
    case h_12 => cases h
    all_goals
      cases h
      rfl
  exact lexemesFrom_of_lexemeAt hat

theorem lexemesFrom_digits {row rest : List Char} (hne : row ≠ [])
    (hrow : ∀ c ∈ row, Text.isDigit c = true) (hrest : ∀ c ∈ rest.head?, Text.isDigit c = false) :
    lexemesFrom 0 (row ++ rest) = ⟨.digits, row⟩ :: lexemesFrom 0 rest := by
  obtain ⟨c, row, rfl⟩ := List.exists_cons_of_ne_nil hne
  obtain ⟨hc, htail⟩ := List.forall_mem_cons.1 hrow
  refine lexemesFrom_of_lexemeAt ?_
  rw [lexemeAt, if_pos hc, takeWhile_row htail hrest]

/-- A quote, a text that does not come to a loose backslash, and the same quote. -/
theorem lexemesFrom_closed {quote : Char} {written content : List Char}
    (hquote : isQuote quote = true) (h : Denotes quote (· ≠ '\n') written content)
    (rest : List Char) :
    lexemesFrom 0 (quote :: (written ++ quote :: rest)) =
      ⟨.quoted content, quote :: (written ++ [quote])⟩ :: lexemesFrom 0 rest := by
  have hat := lexemeAt_closed hquote h rest
  have hsplit : written ++ quote :: rest = (written ++ [quote]) ++ rest := by simp
  rw [hsplit] at hat ⊢
  exact lexemesFrom_of_lexemeAt hat

theorem lexemesFrom_blanks {row rest : List Char} (hne : row ≠ [])
    (hrow : ∀ c ∈ row, Text.isTokenBlank c = true)
    (hrest : ∀ c ∈ rest.head?, Text.isTokenBlank c = false) :
    lexemesFrom 0 (row ++ rest) = ⟨.blank, row⟩ :: lexemesFrom 0 rest := by
  obtain ⟨c, row, rfl⟩ := List.exists_cons_of_ne_nil hne
  obtain ⟨hc, htail⟩ := List.forall_mem_cons.1 hrow
  refine lexemesFrom_of_lexemeAt ?_
  have hcases : ((c = ' ' ∨ c = '\t') ∨ c = '\r') ∨ c = '\n' := by
    simpa [Text.isTokenBlank] using hc
  rw [lexemeAt]
  rcases hcases with ((rfl | rfl) | rfl) | rfl
  all_goals
    rw [if_neg (by decide), if_neg (by decide), if_pos (by decide), takeWhile_row htail hrest]

/-! ## Names in front of a text -/

/-- A character of a name with its namespace. -/
def isPathChar (c : Char) : Bool := Text.isWordChar c || c = ':'

/-- What the first lexeme of a name is does not depend on what stands behind the name. -/
theorem lexemeAt_append {c : Char} (hc : isPathChar c = true) (row : List Char) {rest : List Char}
    (hrest : ∀ d ∈ rest.head?, Text.isWordChar d = false) :
    lexemeAt c (row ++ rest) = lexemeAt c row := by
  have hdigit : ∀ d ∈ rest.head?, Text.isDigit d = false := by
    intro d hd
    have hword := hrest d hd
    simp only [Text.isWordChar, Bool.or_eq_false_iff] at hword
    exact hword.1.1.2
  unfold lexemeAt
  rw [takeWhile_append_of_head hdigit, takeWhile_append_of_head hrest]
  by_cases hd : Text.isDigit c = true
  · rw [if_pos hd, if_pos hd]
  · by_cases hl : (Text.isLetter c || decide (c = '_')) = true
    · rw [if_neg hd, if_neg hd, if_pos hl, if_pos hl]
    · -- a minus sign or a colon, which is a lexeme of its own
      have hcases : c = '-' ∨ c = ':' := by
        simp only [Bool.not_eq_true, Bool.or_eq_false_iff] at hd hl
        simpa [isPathChar, Text.isWordChar, hd, hl.1, of_decide_eq_false hl.2] using hc
      rcases hcases with rfl | rfl
      · rfl
      · rfl

/-- **A name is cut off from what stands behind it**, as soon as that cannot be part of a name. -/
theorem lexemesFrom_append {name rest : List Char} (hname : ∀ c ∈ name, isPathChar c = true)
    (hrest : ∀ c ∈ rest.head?, Text.isWordChar c = false) :
    lexemesFrom 0 (name ++ rest) = lexemesFrom 0 name ++ lexemesFrom 0 rest := by
  match name with
  | [] => rfl
  | c :: name =>
      obtain ⟨hc, hname'⟩ := List.forall_mem_cons.1 hname
      obtain ⟨tail, htext, hprefix⟩ := exists_text_lexemeAt c name
      have hlength : (lexemeAt c name).text.length - 1 ≤ name.length := by
        rw [htext]
        exact hprefix.length_le
      rw [List.cons_append, lexemesFrom_cons, lexemeAt_append hc name hrest, lexemesFrom_cons,
        List.drop_append_of_le_length hlength, List.cons_append,
        lexemesFrom_append (fun d hd => hname' d (List.mem_of_mem_drop hd)) hrest]
termination_by name.length
decreasing_by
  rw [List.length_drop, List.length_cons]
  omega

/-! ## The token at the start -/

/-- The token of a lexeme is settled by its first character, unless that is a quote. -/
theorem token_lexemeAt {c : Char} (hc : isQuote c = false) (rest : List Char) :
    (lexemeAt c rest).token = (lexemeAt c []).token := by
  unfold lexemeAt
  rw [hc]
  split
  · rfl
  split
  · rfl
  split
  · rfl
  · rfl

/-- A character that stands alone is neither a number nor white space. -/
theorem ofChar?_ne (c : Char) :
    (ofChar? c).getD .junk ≠ .digits ∧ (ofChar? c).getD .junk ≠ .blank := by
  unfold ofChar?
  split
  all_goals decide

/-- A lexeme of digits starts with a digit, and one of white space with white space. -/
theorem first_of_token (c : Char) (rest : List Char) :
    ((lexemeAt c rest).token = .digits → Text.isDigit c = true) ∧
      ((lexemeAt c rest).token = .blank → Text.isTokenBlank c = true) := by
  unfold lexemeAt
  split
  · next hdigit => exact ⟨fun _ => hdigit, nofun⟩
  split
  · exact ⟨nofun, nofun⟩
  split
  · next hblank => exact ⟨nofun, fun _ => hblank⟩
  split
  · dsimp only
    split
    · exact ⟨nofun, nofun⟩
    · exact ⟨nofun, nofun⟩
  · obtain ⟨hdigits, hblank⟩ := ofChar?_ne c
    exact ⟨fun h => absurd h hdigits, fun h => absurd h hblank⟩

/-- If a lexeme of this kind has to start with certain characters, then others start no such lexeme. -/
theorem head_token_ne {text : List Char} {p : Char → Bool} {token : Token}
    (htoken : ∀ c rest, (lexemeAt c rest).token = token → p c = true)
    (h : ∀ c ∈ text.head?, p c = false) :
    ∀ lexeme ∈ (lexemesFrom 0 text).head?, lexeme.token ≠ token := by
  intro lexeme hl heq
  cases text with
  | nil => cases hl
  | cons c rest =>
      rw [lexemesFrom_cons] at hl
      cases hl
      exact Bool.false_ne_true ((h c rfl).symm.trans (htoken c rest heq))

/-- What holds for no token of the marks does not hold for the token at the start. -/
theorem head_token_of_startsIn {marks text : List Char} {p : Token → Bool}
    (h : Text.StartsIn marks text)
    (hmarks : marks.all (fun c => !isQuote c && !p (lexemeAt c []).token) = true) :
    ∀ lexeme ∈ (lexemesFrom 0 text).head?, p lexeme.token = false := by
  intro lexeme hl
  cases text with
  | nil => cases hl
  | cons c rest =>
      rw [lexemesFrom_cons] at hl
      cases hl
      have hc := List.all_eq_true.1 hmarks c (h c rfl)
      rw [Bool.and_eq_true, Bool.not_eq_true', Bool.not_eq_true'] at hc
      rw [token_lexemeAt hc.1]
      exact hc.2

/-- A text that starts with none of the marks of this token does not start with this token. -/
theorem head_token_ne_of_startsIn {marks text : List Char} {token : Token}
    (h : Text.StartsIn marks text)
    (hmarks : marks.all (fun c => !isQuote c && !decide ((lexemeAt c []).token = token)) = true) :
    ∀ lexeme ∈ (lexemesFrom 0 text).head?, lexeme.token ≠ token := fun lexeme hl =>
  of_decide_eq_false
    (head_token_of_startsIn (p := fun other => decide (other = token)) h hmarks lexeme hl)

end Token

/-- A row of such characters is a row of lexemes that can be part of a name with its namespace. -/
theorem Parser.isPathPart_of_mem_lexemesFrom {text : List Char}
    (h : ∀ c ∈ text, Token.isPathChar c = true) :
    ∀ lexeme ∈ Token.lexemesFrom 0 text, isPathPart lexeme = true := by
  intro lexeme hl
  obtain ⟨c, rest, hsuffix, rfl⟩ := Token.exists_lexemeAt hl
  rcases Bool.or_eq_true_iff.1 (h c (hsuffix.subset List.mem_cons_self)) with hword | hcolon
  · rw [isPathPart, isNamePart_lexemeAt hword, Bool.true_or]
  · rw [of_decide_eq_true hcolon]
    rfl

end TextTemplate
