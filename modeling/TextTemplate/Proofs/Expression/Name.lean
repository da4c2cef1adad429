import Mathlib.Data.List.TakeWhile
import TextTemplate.Expression.Parser

set_option autoImplicit false

/-! # Names

A name is a row of letters, digits, underscores and minus signs. As lexemes it may be several, but
each of them can be part of a name, and a lexeme that can be part of a name has such characters
only. So the name that is read at the start of a body can be written down again, and all of it is
read as that name (`identifier_identifier`, `afterIdentifier_identifier`). -/

namespace TextTemplate

/-- Every lexeme of a text is the one at the start of some end of the text. -/
theorem Token.exists_lexemeAt {lexeme : Lexeme} {text : List Char}
    (h : lexeme ∈ Token.lexemesFrom 0 text) :
    ∃ c rest, c :: rest <:+ text ∧ lexeme = Token.lexemeAt c rest := by
  match text with
  | [] => exact absurd h List.not_mem_nil
  | c :: rest =>
      rw [Token.lexemesFrom_cons] at h
      rcases List.mem_cons.1 h with rfl | h
      · exact ⟨c, rest, List.suffix_rfl, rfl⟩
      · obtain ⟨d, behind, hsuffix, rfl⟩ := exists_lexemeAt h
        refine ⟨d, behind, hsuffix.trans ?_, rfl⟩
        exact (List.drop_suffix _ rest).trans (List.suffix_cons c rest)
termination_by text.length
decreasing_by
  rw [List.length_drop, List.length_cons]
  omega

namespace Parser

/-! ## Characters and lexemes of names -/

/-- A character of a name starts a lexeme that can be part of a name. -/
theorem isNamePart_lexemeAt {c : Char} (hc : Text.isWordChar c = true) (rest : List Char) :
    isNamePart (Token.lexemeAt c rest) = true := by
  unfold Token.lexemeAt
  split
  · rfl
  · rename_i hdigit
    split
    · rfl
    · -- neither a digit nor a letter nor an underscore, so it is the minus sign
      rename_i hletter
      obtain rfl : c = '-' := by
        simp only [Bool.not_eq_true] at hdigit
        simp only [Bool.or_eq_true, decide_eq_true_eq, not_or, Bool.not_eq_true] at hletter
        simpa [Text.isWordChar, hdigit, hletter] using hc
      rfl

/-- A row of such characters is a row of such lexemes. -/
theorem isNamePart_of_mem_lexemesFrom {text : List Char}
    (h : ∀ c ∈ text, Text.isWordChar c = true) :
    ∀ lexeme ∈ Token.lexemesFrom 0 text, isNamePart lexeme = true := by
  intro lexeme hl
  obtain ⟨c, rest, hsuffix, rfl⟩ := Token.exists_lexemeAt hl
  exact isNamePart_lexemeAt (h c (hsuffix.subset List.mem_cons_self)) rest

/-- The minus sign is the only single character that can be part of a name. -/
theorem eq_minus_of_isNamePart {c : Char}
    (h : isNamePart ⟨(Token.ofChar? c).getD .junk, [c]⟩ = true) : c = '-' := by
  unfold Token.ofChar? at h
  split at h
  all_goals first | rfl | cases h

/-- A quoted text cannot be part of a name, be it closed or open. -/
theorem isNamePart_quotedRun (run : Token.QuotedRun) (text : List Char) :
    isNamePart ⟨if run.closed then .quoted run.content else .openQuoted run.content, text⟩
      = false := by
  cases hclosed : run.closed with
  | true => rfl
  | false => rfl

/-- A lexeme that can be part of a name has characters of names only. -/
theorem isWordChar_of_mem_lexemeAt (c : Char) (rest : List Char) :
    isNamePart (Token.lexemeAt c rest) = true →
      ∀ d ∈ (Token.lexemeAt c rest).text, Text.isWordChar d = true := by
  have hdigit : ∀ d, Text.isDigit d = true → Text.isWordChar d = true := fun d hd => by
    simp [Text.isWordChar, hd]
  unfold Token.lexemeAt
  split
  · rename_i hc
    intro _ d hd
    rcases List.mem_cons.1 hd with rfl | hd
    · exact hdigit d hc
    · exact hdigit d (List.mem_takeWhile_imp hd)
  split
  · rename_i hc
    intro _ d hd
    rcases List.mem_cons.1 hd with rfl | hd
    · rcases Bool.or_eq_true_iff.1 hc with hletter | hunder
      · simp [Text.isWordChar, hletter]
      · simp [Text.isWordChar, hunder]
    · exact List.mem_takeWhile_imp hd
  split
  · intro h
    cases h
  split
  · intro h
    cases (isNamePart_quotedRun _ _).symm.trans h
  · intro h d hd
    obtain rfl := eq_minus_of_isNamePart h
    rw [List.mem_singleton.1 hd]
    rfl

/-- What starts with no such character starts with no such lexeme. -/
theorem isNamePart_head_eq_false {text : List Char} (h : ∀ c ∈ text.head?, Text.isWordChar c = false) :
    ∀ lexeme ∈ (Token.lexemesFrom 0 text).head?, isNamePart lexeme = false := by
  intro lexeme hl
  cases text with
  | nil => cases hl
  | cons c rest =>
      rw [Token.lexemesFrom_cons] at hl
      cases hl
      obtain ⟨tail, htext, -⟩ := Token.exists_text_lexemeAt c rest
      rw [Bool.eq_false_iff]
      intro hpart
      have hword := isWordChar_of_mem_lexemeAt c rest hpart c (by rw [htext]; exact List.mem_cons_self)
      exact Bool.false_ne_true ((h c rfl).symm.trans hword)

/-! ## Reading a name again -/

/-- The name at the start of a body has characters of names only. -/
theorem isWordChar_of_mem_identifier {body : String} :
    ∀ c ∈ (identifier (Token.tokenize body)).toList, Text.isWordChar c = true := by
  intro c hc
  rw [identifier, Lexeme.textOf, String.toList_ofList] at hc
  obtain ⟨lexeme, hl, hc⟩ := List.mem_flatMap.1 hc
  have hpart : isNamePart lexeme = true := List.mem_takeWhile_imp hl
  obtain ⟨d, rest, -, rfl⟩ := Token.exists_lexemeAt ((List.takeWhile_prefix _).subset hl)
  exact isWordChar_of_mem_lexemeAt d rest hpart c hc

theorem isNamePart_of_mem_identifier (body : String) :
    ∀ lexeme ∈ Token.tokenize (identifier (Token.tokenize body)), isNamePart lexeme = true :=
  isNamePart_of_mem_lexemesFrom isWordChar_of_mem_identifier

/-- **The name that is read from a body is read again from that name.** -/
theorem identifier_identifier (body : String) :
    identifier (Token.tokenize (identifier (Token.tokenize body)))
      = identifier (Token.tokenize body) := by
  have hall := List.takeWhile_eq_self_iff.2 (isNamePart_of_mem_identifier body)
  rw [identifier, hall, Lexeme.textOf, Token.tokenize_flatMap_text, String.ofList_toList]

/-- And nothing is left behind it. -/
theorem afterIdentifier_identifier (body : String) :
    afterIdentifier (Token.tokenize (identifier (Token.tokenize body))) = [] :=
  List.dropWhile_eq_nil_iff.2 (isNamePart_of_mem_identifier body)

end Parser

end TextTemplate
