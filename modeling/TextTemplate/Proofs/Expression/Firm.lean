import TextTemplate.Proofs.Expression.Balance
import TextTemplate.Proofs.Expression.Spelling

set_option autoImplicit false

/-! # Backslashes in front of line feeds

In a quoted text any character may stand behind a backslash, and so may a line feed. Then the lexer
leaves the text open, and there is a lexeme that the parser cannot take.

Main statement: `Spells.firm`. If every lexeme of what spells an expression is recognized, then no
quoted text in it has a backslash in front of a line feed. So `Spells.reads` is about all the texts
that are read without a fault. -/

namespace TextTemplate

/-! ## What is left of the lexemes -/

theorem Passes.suffix {input rest : List Lexeme} (h : Passes input rest) : rest <:+ input := by
  obtain ⟨taken, -, rfl⟩ := h
  exact List.suffix_append taken rest

namespace Parser

variable {space operator : String} {input behind : List Lexeme}

theorem suffix_of_reads_expression {value : Expression}
    (h : (expression space input).Reads value behind) : behind <:+ input := by
  obtain ⟨-, rfl, hfaults⟩ := h
  exact ((passes_readers space).1 input hfaults).suffix

theorem suffix_of_reads_arguments {list : List Expression}
    (h : (arguments space operator input).Reads list behind) : behind <:+ input := by
  obtain ⟨-, rfl, hfaults⟩ := h
  obtain ⟨text, hpasses⟩ := (passes_readers space).2.2.1 operator input hfaults
  exact (List.suffix_cons _ _).trans hpasses.suffix

theorem suffix_of_reads_step {first : Attribute} (h : (step space input).Reads first behind) :
    behind <:+ input := by
  obtain ⟨-, rfl, hfaults⟩ := h
  exact ((passes_readers space).2.2.2.2.2 input hfaults).suffix

end Parser

namespace Written

open TextTemplate.Parser
open TextTemplate.Token (lexemesFrom ofChar? isQuote lexemesFrom_cons lexemesFrom_mark
  lexemesFrom_closed looseBackslash)

variable {text rest : List Char}

/-! ## Recognized texts -/

/-- Every lexeme is a token, and none a text without its closing quote. -/
def Recognized (text : List Char) : Prop :=
  ∀ lexeme ∈ lexemesFrom 0 text, lexeme.token.isRecognized = true

namespace Recognized

theorem behind (h : Recognized text) (hsuffix : lexemesFrom 0 rest <:+ lexemesFrom 0 text) :
    Recognized rest :=
  fun lexeme hlexeme => h lexeme (hsuffix.subset hlexeme)

theorem mark {c : Char} {token : Token} (h : Recognized (c :: rest))
    (hmark : ofChar? c = some token) : Recognized rest := by
  refine h.behind ?_
  rw [lexemesFrom_mark hmark]
  exact List.suffix_cons _ _

theorem name {name : Name} (h : Recognized (name.text ++ rest))
    (hrest : ∀ c ∈ rest.head?, Text.isWordChar c = false) : Recognized rest := by
  refine h.behind ?_
  rw [← (name.identifier_eq_of_head hrest).2]
  exact (passes_afterIdentifier _).suffix

theorem path {path : Path} (h : Recognized (path.text ++ rest))
    (hrest : Text.StartsIn afterName rest) : Recognized rest := by
  refine h.behind ?_
  rw [← (path.path_eq hrest).2]
  exact (passes_afterPath _).suffix

theorem figure {figure : Figure} (h : Recognized (figure.text ++ rest))
    (hrest : Text.StartsIn afterSteps rest) : Recognized rest :=
  h.behind (passes_numeral (figure.numeral?_eq hrest)).suffix

theorem blank {blank : Blank} (h : Recognized (blank.text ++ rest))
    (hrest : ∀ c ∈ rest.head?, Text.isTokenBlank c = false) : Recognized rest := by
  refine h.behind ?_
  rw [← blank.afterBlanks_eq hrest]
  exact (passes_afterBlanks _).suffix

/-- White space and a mark. -/
theorem blank_mark {blank : Blank} {c : Char} {token : Token}
    (h : Recognized (blank.text ++ c :: rest)) (hmark : ofChar? c = some token)
    (hc : Text.isTokenBlank c = false) : Recognized rest :=
  (h.blank (by rintro _ ⟨rfl⟩; exact hc)).mark hmark

/-- A quoted text is recognized only without a loose backslash. -/
theorem looseBackslash_eq {quote : Char} (h : Recognized (quote :: text))
    (hquote : isQuote quote = true) : looseBackslash quote text = false := by
  rw [Bool.eq_false_iff]
  intro hloose
  obtain ⟨written, content, behind, hw, rfl, hbehind⟩ :=
    Token.exists_loose (Token.ne_backslash_of_isQuote hquote) hloose
  have hfirst := h _ (by rw [lexemesFrom_cons]; exact List.mem_cons_self)
  rw [Token.lexemeAt_loose hquote hw hbehind] at hfirst
  cases hfirst

end Recognized

/-! ## Expressions -/

mutual

/-- **An expression all of whose lexemes are recognized has no backslash in front of a line feed.** The
parts are taken from left to right: each is read once it is known to have none, and then what stands
behind it is recognized too. -/
theorem Spells.firm : ∀ {text : List Char} {e : Expression}, Spells (fun _ => True) text e →
    ∀ {rest : List Char}, Text.StartsIn closers rest → Recognized (text ++ rest) →
    Spells (· ≠ '\n') text e
  | _, _, .reference path hsteps, rest, h, hrec => by
      rw [List.cons_append, List.append_assoc] at hrec
      exact .reference path (hsteps.firm h ((hrec.mark (by rfl)).path (hsteps.startsIn h)))
  | _, _, .quoted hquote hcontent hchain, rest, h, hrec => by
      rw [List.cons_append, List.append_assoc, List.cons_append] at hrec
      have hloose := hrec.looseBackslash_eq hquote
      have hfirm := (hcontent.firm (Token.ne_backslash_of_isQuote hquote) hloose).1
      refine .quoted hquote hfirm (hchain.firm h (hrec.behind ?_))
      rw [lexemesFrom_closed hquote hfirm]
      exact List.suffix_cons _ _
  | _, _, .number figure hchain, rest, h, hrec => by
      rw [List.append_assoc] at hrec
      exact .number figure (hchain.firm h (hrec.figure (hchain.startsIn h)))
  | _, _, .word word hchain, rest, h, hrec => by
      rw [List.append_assoc] at hrec
      have hbehind := (hchain.startsIn h).mono afterSteps_subset
      exact .word word (hchain.firm h (hrec.name (isWordChar_head_of_startsIn hbehind)))
  | _, _, .call name hslots hchain, rest, h, hrec => by
      rw [List.append_assoc, List.cons_append, List.append_assoc] at hrec
      have hlist := (hrec.name (by rintro _ ⟨rfl⟩; rfl)).mark (by rfl)
      have hfirm := hslots.firm hlist
      exact .call name hfirm (hchain.firm h (hlist.behind
        (suffix_of_reads_arguments (hfirm.reads name.string _))))

theorem SpellsSteps.firm : ∀ {text : List Char} {attributes : List Attribute}
    {chain : List Operator}, SpellsSteps (fun _ => True) text attributes chain →
    ∀ {rest : List Char}, Text.StartsIn closers rest → Recognized (text ++ rest) →
    SpellsSteps (· ≠ '\n') text attributes chain
  | _, _, _, .chain hchain, rest, h, hrec => .chain (hchain.firm h hrec)
  | _, _, _, .point hstep hsteps, rest, h, hrec => by
      rw [List.cons_append, List.append_assoc] at hrec
      have hmore := (hrec.mark (by rfl)).behind
        (suffix_of_reads_step (hstep.reads (hsteps.startsIn h)))
      exact .point hstep (hsteps.firm h hmore)
  | _, _, _, @SpellsSteps.brackets _ _ text _ _ _ hstep hsteps, rest, h, hrec => by
      rw [List.cons_append, List.append_assoc, List.cons_append] at hrec
      have hclose : Text.StartsIn afterName (']' :: (text ++ rest)) :=
        Text.startsIn_cons (by decide) _
      have hmore := (hrec.mark (by rfl)).behind (suffix_of_reads_step (hstep.reads hclose))
      exact .brackets hstep (hsteps.firm h (hmore.mark (by rfl)))
  | _, _, _, @SpellsSteps.computed _ _ text _ _ _ hkey hsteps, rest, h, hrec => by
      rw [List.cons_append, List.cons_append, List.append_assoc, List.cons_append] at hrec
      have hclose : Text.StartsIn closers (']' :: (text ++ rest)) :=
        Text.startsIn_cons (by decide) _
      have hinner := hrec.mark (by rfl)
      have hfirm := hkey.firm hclose hinner
      have hmore := hinner.behind (suffix_of_reads_expression (hfirm.reads hclose))
      exact .computed hfirm (hsteps.firm h (hmore.mark (by rfl)))
  | _, _, _, .computedLast hkey, rest, h, hrec => .computedLast (hkey.firm h (hrec.mark (by rfl)))

theorem SpellsChain.firm : ∀ {text : List Char} {chain : List Operator},
    SpellsChain (fun _ => True) text chain → ∀ {rest : List Char}, Text.StartsIn closers rest →
    Recognized (text ++ rest) → SpellsChain (· ≠ '\n') text chain
  | _, _, .nil, rest, _, _ => .nil
  | _, _, .operator name hmore, rest, h, hrec => by
      rw [List.cons_append, List.append_assoc] at hrec
      have hbehind := (hmore.startsIn h).mono afterSteps_subset
      exact .operator name (hmore.firm h
        ((hrec.mark (by rfl)).name (isWordChar_head_of_startsIn hbehind)))
  | _, _, .call name hslots hmore, rest, h, hrec => by
      rw [List.cons_append, List.append_assoc, List.cons_append, List.append_assoc] at hrec
      have hlist := ((hrec.mark (by rfl)).name (by rintro _ ⟨rfl⟩; rfl)).mark (by rfl)
      have hfirm := hslots.firm hlist
      exact .call name hfirm (hmore.firm h (hlist.behind
        (suffix_of_reads_arguments (hfirm.reads name.string _))))

theorem SpellsSlots.firm : ∀ {text : List Char} {list : List Expression},
    SpellsSlots (fun _ => True) text list → ∀ {rest : List Char}, Recognized (text ++ rest) →
    SpellsSlots (· ≠ '\n') text list
  | _, _, .close blank, rest, _ => .close blank
  | _, _, .null blank hmore, rest, hrec => by
      rw [List.append_assoc, List.cons_append] at hrec
      exact .null blank (hmore.firm (hrec.blank_mark (by rfl) (by rfl)))
  | _, _, @SpellsSlots.argument _ before after _ text _ _ hvalue hmore, rest, hrec => by
      rw [List.append_assoc, List.append_assoc, List.append_assoc, List.cons_append] at hrec
      have hcomma := after.startsIn (Text.startsIn_cons (by decide : ',' ∈ closers) (text ++ rest))
      have hfirst := hrec.blank (hvalue.isTokenBlank_head _)
      have hfirm := hvalue.firm hcomma hfirst
      have hmore' := hfirst.behind (suffix_of_reads_expression (hfirm.reads hcomma))
      exact .argument before after hfirm (hmore.firm (hmore'.blank_mark (by rfl) (by rfl)))
  | _, _, .last before after hvalue, rest, hrec => by
      rw [List.append_assoc, List.append_assoc, List.append_assoc, List.cons_append] at hrec
      have hclose := after.startsIn (Text.startsIn_cons (by decide : ')' ∈ closers) ([] ++ rest))
      exact .last before after (hvalue.firm hclose (hrec.blank (hvalue.isTokenBlank_head _)))

end

end Written

end TextTemplate
