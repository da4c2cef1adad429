import TextTemplate.Expression.Parser

set_option autoImplicit false

/-! # Faults of a body

The readers of expressions and tags see one body and nothing around it, so there are five things only
that they can find wrong (`ParseFault.isOfBody`). Whatever else is recorded while a tree is built
comes from the nesting of the tags. -/

namespace TextTemplate

/-- Whether the fault is one that is found inside of a body. -/
def ParseFault.isOfBody : ParseFault → Bool
  | unterminatedString | unclosedIndex | parameterTerminator _ _ => true
  | expectedWhitespace _ | invalidParameter _ _ => true
  | _ => false

/-- Only faults of the body were found. -/
def Parsed.FaultsOfBody {α : Type} {input : List Lexeme} (parsed : Parsed α input) : Prop :=
  ∀ fault ∈ parsed.faults, fault.isOfBody = true

namespace Parser

theorem faultsOfBody_closeIndex (lexemes : List Lexeme) : (closeIndex lexemes).FaultsOfBody := by
  unfold closeIndex
  split
  · intro fault h
    cases h
  · intro fault h
    rw [List.mem_singleton.1 h]
    rfl

/-- The readers of expressions find faults of the body only. The cases are those of the readers, one
after the other, and in each the faults are those of the parts and at most one more. -/
theorem faultsOfBody_readers (space : String) :
    (∀ input, (expression space input).FaultsOfBody) ∧
      (∀ operator input, (invocation space operator input).FaultsOfBody) ∧
      (∀ operator input, (arguments space operator input).FaultsOfBody) ∧
      (∀ input, (operators space input).FaultsOfBody) ∧
      (∀ input, (steps space input).FaultsOfBody) ∧
      (∀ input, (step space input).FaultsOfBody) := by
  apply expression.mutual_induct space
  all_goals intros
  case case1 | case2 | case3 | case4 | case5 | case6 =>
    unfold expression
    grind [Parsed.FaultsOfBody, ParseFault.isOfBody]
  case case7 | case8 =>
    unfold invocation
    grind [Parsed.FaultsOfBody]
  case case9 | case10 | case11 | case12 | case13 | case14 | case15 =>
    unfold arguments
    grind [Parsed.FaultsOfBody, ParseFault.isOfBody]
  case case16 | case17 =>
    unfold operators
    grind [Parsed.FaultsOfBody]
  case case18 | case19 | case20 =>
    unfold steps
    grind [Parsed.FaultsOfBody, faultsOfBody_closeIndex]
  case case21 | case22 | case23 =>
    unfold step
    grind [Parsed.FaultsOfBody]

theorem faultsOfBody_expression (space : String) (input : List Lexeme) :
    (expression space input).FaultsOfBody := (faultsOfBody_readers space).1 input

theorem faultsOfBody_parameters (space tag : String) (input : List Lexeme) (before : Arguments) :
    (parameters space tag input before).FaultsOfBody := by
  fun_induction parameters space tag input before with
  | case1 before => intro fault h; cases h
  | case2 before first behind _ =>
      intro fault h
      rw [List.mem_singleton.1 h]
      rfl
  | case3 before first behind _ _ _ => intro fault h; cases h
  | case4 before first behind _ _ next rest _ _ _ =>
      intro fault h
      rw [List.mem_singleton.1 h]
      rfl
  | case5 before first behind _ _ next rest _ _ _ _ _ _ _ ih =>
      intro fault h
      rcases List.mem_append.1 h with h | h
      · exact faultsOfBody_expression space rest fault h
      · exact ih fault h

theorem faultsOfBody_tag (space : String) (input : List Lexeme) :
    (tag space input).FaultsOfBody := faultsOfBody_parameters space _ _ _

end Parser

end TextTemplate
