import TextTemplate.Proofs.Expression.Lexing
import TextTemplate.Proofs.Text.Guard

set_option autoImplicit false

/-! # Bodies that are one operand

Two kinds of bodies, read from the first character to the last: a quoted text, which is one lexeme
whatever it says (`complete_quoted`), and a dollar sign with a row of names and colons, which may be
several lexemes but is one reference (`complete_path`). Both leave nothing behind and no fault. -/

namespace TextTemplate

/-! ## Complete readings -/

/-- What was parsed is `value`, to the end of the input and **without a fault**. -/
structure Parsed.Complete {α : Type} {input : List Lexeme} (parsed : Parsed α input) (value : α) :
    Prop where
  value_eq : parsed.value = value
  rest_eq : parsed.rest = []
  faults_eq : parsed.faults = []

namespace Parser

theorem complete_operators_nil (space : String) : (operators space []).Complete [] := by
  rw [operators]
  · exact ⟨rfl, rfl, rfl⟩
  · intro text rest h
    cases h

theorem complete_steps_nil (space : String) : (steps space []).Complete [] := by
  rw [steps]
  · exact ⟨rfl, rfl, rfl⟩
  all_goals
    intro text rest h
    cases h

/-! ## Quoted texts -/

/-- A quoted text alone is an operand without operators. -/
theorem complete_expression_quoted (space : String) (content text : List Char) :
    (expression space [⟨.quoted content, text⟩]).Complete
      (.ofOperand (.text (String.ofList content))) := by
  obtain ⟨hv, hr, hf⟩ := complete_operators_nil space
  rw [expression]
  exact ⟨by rw [hv]; rfl, hr, hf⟩

/-- A quote, guarded text and the same quote are a single lexeme. -/
theorem tokenize_quoted (content : List Char) :
    Token.tokenize (String.ofList ('"' :: (Text.guarded ['\\', '"'] content ++ ['"'])))
      = [⟨.quoted content, '"' :: (Text.guarded ['\\', '"'] content ++ ['"'])⟩] := by
  have hat := Token.lexemeAt_closed (by decide : Token.isQuote '"' = true)
    (Token.denotes_guarded (by decide) content) []
  rw [Token.tokenize, String.toList_ofList, Token.lexemesFrom_cons, hat]
  simp [Token.lexemesFrom]

/-- **A quoted text denotes what was guarded**, if nothing else is in the body. -/
theorem complete_quoted (space : String) (content : List Char) :
    (expression space (Token.tokenize
      (String.ofList ('"' :: (Text.guarded ['\\', '"'] content ++ ['"']))))).Complete
      (.ofOperand (.text (String.ofList content))) := by
  rw [tokenize_quoted]
  exact complete_expression_quoted space content _

/-! ## Variables -/

/-- A dollar sign and a row of name lexemes are a reference without steps and operators. -/
theorem complete_expression_dollar {space : String} {text : List Char} {lexemes : List Lexeme}
    (hpath : afterPath lexemes = []) :
    (expression space (⟨.dollar, text⟩ :: lexemes)).Complete
      (.ofOperand (.reference ⟨(path space lexemes).1, (path space lexemes).2, []⟩)) := by
  have hsteps : ∀ input, input = [] → (steps space input).Complete [] := by
    rintro input rfl
    exact complete_steps_nil space
  obtain ⟨hv, hr, hf⟩ := hsteps _ hpath
  rw [expression]
  generalize steps space (afterPath lexemes) = reading at hv hr hf
  obtain ⟨attributes, behind, faults, suffix⟩ := reading
  obtain ⟨rfl, rfl, rfl⟩ : attributes = [] ∧ behind = [] ∧ faults = [] := ⟨hv, hr, hf⟩
  obtain ⟨hv, hr, hf⟩ := complete_operators_nil space
  exact ⟨by simp only [hv]; rfl, hr, by simp only [hf]; rfl⟩

/-- The path that a row of names and colons is read as: the last colon ends the namespace. -/
theorem path_lexemesFrom {target : List Char} (h : ∀ c ∈ target, Token.isPathChar c = true) :
    path "" (Token.lexemesFrom 0 target) =
      ((Text.splitLast? ':' target).map fun cut => String.ofList cut.1,
        String.ofList (((Text.splitLast? ':' target).map Prod.snd).getD target)) := by
  rw [path, List.takeWhile_eq_self_iff.2 (isPathPart_of_mem_lexemesFrom h),
    Token.flatMap_text_lexemesFrom]
  cases Text.splitLast? ':' target with
  | none => rfl
  | some cut => rfl

/-- **A dollar sign and a row of names and colons denote the variable of that path**: however many lexemes it
takes to write it, they are put together again. -/
theorem complete_path {target : List Char} (h : ∀ c ∈ target, Token.isPathChar c = true) :
    (expression "" (Token.tokenize (String.ofList ('$' :: target)))).Complete
      (.ofOperand (.reference ⟨(path "" (Token.lexemesFrom 0 target)).1,
        (path "" (Token.lexemesFrom 0 target)).2, []⟩)) := by
  have hlex : Token.tokenize (String.ofList ('$' :: target))
      = ⟨.dollar, ['$']⟩ :: Token.lexemesFrom 0 target := by
    rw [Token.tokenize, String.toList_ofList, Token.lexemesFrom_cons]
    rfl
  have hafter : afterPath (Token.lexemesFrom 0 target) = [] :=
    List.dropWhile_eq_nil_iff.2 (isPathPart_of_mem_lexemesFrom h)
  rw [hlex]
  exact complete_expression_dollar hafter

end Parser

end TextTemplate
