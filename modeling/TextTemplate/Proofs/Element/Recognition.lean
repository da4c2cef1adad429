import TextTemplate.Proofs.Element.Placement
import TextTemplate.Proofs.Expression.Numeral
import TextTemplate.Proofs.Expression.Part

set_option autoImplicit false

/-! # What the scanner takes for an expression

The scanner does not read expressions. It looks at the first characters of a block, and if they are a cue, then
the block is an inline expression (`isExpression_iff`). The parser works on lexemes and has rules of its own, but
it comes to the same: a cue settles which operand it reads, and it does read something (`opens_of_mark`). So a
block that was taken for an expression is never parsed as a bare word, or as nothing.

The layout takes at most a line break off the end of an expression, and no cue reaches that far.

Main statement: `Element.recognized`. -/

namespace TextTemplate

/-! ## Cues -/

/-- What the scanner takes an expression by. -/
inductive Cue
  /-- A dollar sign. -/
  | dollar
  /-- A quote. -/
  | quote (c : Char) (isQuote : Token.isQuote c = true)
  /-- A digit. -/
  | digit (c : Char) (isDigit : Text.isDigit c = true)
  /-- A minus sign and a digit. -/
  | negative (c : Char) (isDigit : Text.isDigit c = true)
  /-- A name and the parenthesis behind it; the name starts with a letter or an underscore. -/
  | call (name : Written.Key) (not_minus : name.text.head? ≠ some '-')

namespace Cue

/-- The characters that the scanner looks at. -/
def mark : Cue → List Char
  | dollar => ['$']
  | quote c _ | digit c _ => [c]
  | negative c _ => ['-', c]
  | call name _ => name.text ++ ['(']

/-- **Whether an expression is what the cue promises**: a variable, a text, a number, or the call of the operator
with that name. -/
def Fits : Cue → Expression → Prop
  | dollar, expression => ∃ target, expression.operand = .reference target
  | quote _ _, expression => ∃ value, expression.operand = .text value
  | digit _ _, expression | negative _ _, expression => ∃ number, expression.operand = .number number
  | call name _, expression =>
    expression.operand = .call ∧ expression.operators.head?.map Operator.name = some name.string

/-- No cue promises a bare word. -/
theorem Fits.ne_word {cue : Cue} {expression : Expression} (h : cue.Fits expression) (text : String) :
    expression.operand ≠ .word text := by
  cases cue with
  | dollar | quote | digit | negative =>
      obtain ⟨_, hoperand⟩ := h
      rw [hoperand]
      exact nofun
  | call =>
      rw [h.1]
      exact nofun

/-! ## The scanner and its cues -/

/-- What the scanner does with anything but a minus sign. -/
theorem isExpression_cons {c : Char} (hc : c ≠ '-') (rest : List Char) :
    Piece.isExpression (c :: rest) = true ↔
      c = '$' ∨ Token.isQuote c = true ∨ Text.isDigit c = true ∨
        Text.isWordChar c = true ∧ ((c :: rest).dropWhile Text.isWordChar).head? = some '(' := by
  unfold Piece.isExpression
  split
  · next heq => cases heq
  · next heq => exact absurd (List.cons.inj heq).1 hc
  · next heq =>
    obtain ⟨rfl, -⟩ := List.cons.inj heq
    simp only [Token.isQuote, Bool.or_eq_true, Bool.and_eq_true, decide_eq_true_eq]
    tauto

/-- A name in front of a parenthesis is measured exactly. -/
theorem measure_name (name : Written.Name) (rest : List Char) :
    (name.text ++ '(' :: rest).dropWhile Text.isWordChar = '(' :: rest := by
  have hparen : ∀ c ∈ ('(' :: rest).head?, Text.isWordChar c = false := by
    rintro _ ⟨rfl⟩
    rfl
  exact dropWhile_row name.isWordChar hparen

theorem isExpression_of_mark {cue : Cue} {body : List Char} (h : cue.mark <+: body) :
    Piece.isExpression body = true := by
  obtain ⟨rest, rfl⟩ := h
  cases cue with
  | dollar => rfl
  | quote c hquote =>
      have hc : c ≠ '-' := by
        rintro rfl
        cases hquote
      exact (isExpression_cons hc rest).2 (.inr (.inl hquote))
  | digit c hdigit =>
      have hc : c ≠ '-' := by
        rintro rfl
        exact absurd hdigit (by decide)
      exact (isExpression_cons hc rest).2 (.inr (.inr (.inl hdigit)))
  | negative c hdigit => exact hdigit
  | call name hminus =>
      -- the scanner measures the name up to the parenthesis, and there it looks for one
      obtain ⟨c, tail, htext, hword⟩ := name.exists_cons
      have hc : c ≠ '-' := by
        rintro rfl
        exact hminus (by rw [htext]; rfl)
      have hbehind := measure_name name.toName rest
      rw [mark, List.append_assoc, List.cons_append, List.nil_append, htext, List.cons_append]
      rw [htext, List.cons_append] at hbehind
      refine (isExpression_cons hc _).2 (.inr (.inr (.inr ⟨hword, ?_⟩)))
      rw [hbehind]
      rfl

/-- A row of name characters in front of a parenthesis is a cue, unless it starts like a number. -/
theorem exists_call {c : Char} {rest : List Char} (hc : c ≠ '-') (hdigit : Text.isDigit c = false)
    (hword : Text.isWordChar c = true)
    (hparen : ((c :: rest).dropWhile Text.isWordChar).head? = some '(') :
    ∃ cue : Cue, cue.mark <+: c :: rest := by
  obtain ⟨behind, hbehind⟩ := List.head?_eq_some_iff.1 hparen
  let name : Written.Key :=
    { text := c :: rest.takeWhile Text.isWordChar
      ne_nil := List.cons_ne_nil _ _
      isWordChar := by
        intro d hd
        rcases List.mem_cons.1 hd with rfl | hd
        · exact hword
        · exact List.mem_takeWhile_imp hd
      not_digit := by
        rintro d ⟨rfl⟩
        exact hdigit }
  have hminus : name.text.head? ≠ some '-' := fun h => hc (Option.some.inj h)
  have htext : name.text = (c :: rest).takeWhile Text.isWordChar := by
    rw [List.takeWhile_cons_of_pos hword]
  refine ⟨call name hminus, behind, ?_⟩
  rw [mark, htext, List.append_assoc, List.cons_append, List.nil_append, ← hbehind,
    List.takeWhile_append_dropWhile]

/-- **The scanner takes a block for an expression if and only if it starts with a cue.** -/
theorem isExpression_iff {body : List Char} :
    Piece.isExpression body = true ↔ ∃ cue : Cue, cue.mark <+: body := by
  constructor
  · intro h
    cases body with
    | nil => cases h
    | cons c rest =>
        by_cases hc : c = '-'
        · subst hc
          have hdigit : rest.head?.any Text.isDigit = true := h
          cases rest with
          | nil => cases hdigit
          | cons d rest => exact ⟨negative d hdigit, rest, rfl⟩
        · rcases (isExpression_cons hc rest).1 h with rfl | hquote | hdigit | ⟨hword, hparen⟩
          · exact ⟨dollar, rest, rfl⟩
          · exact ⟨quote c hquote, rest, rfl⟩
          · exact ⟨digit c hdigit, rest, rfl⟩
          · -- digits are name characters too, and in front they make a number of it
            by_cases hdigit : Text.isDigit c = true
            · exact ⟨digit c hdigit, rest, rfl⟩
            · exact exists_call hc (Bool.eq_false_iff.2 hdigit) hword hparen
  · rintro ⟨cue, h⟩
    exact isExpression_of_mark h

/-! ## The parser and the cues -/

open TextTemplate.Parser
open TextTemplate.Token (lexemesFrom lexemesFrom_cons lexemesFrom_mark lexemeAt_quote lexemeAt ofChar?)

/-- An expression that a cue opens: it is what the cue promises, and reading it takes something. -/
structure Opens {input : List Lexeme} (cue : Cue) (parsed : Parsed Expression input) : Prop where
  fits : cue.Fits parsed.value
  consumes : parsed.rest.length < input.length

variable {space : String} {input rest : List Lexeme}

theorem opens_dollar (text : List Char) : dollar.Opens (expression space (⟨.dollar, text⟩ :: rest)) := by
  rw [expression]
  -- the steps and then the operators take their parts off the front, and the dollar sign is gone before
  generalize steps space (afterPath rest) = reading
  obtain ⟨attributes, behind, faults, suffix⟩ := reading
  have hbehind : (operators space behind).rest <:+ rest :=
    (operators space behind).suffix.trans (suffix.trans (afterPath_suffix rest))
  exact ⟨⟨_, rfl⟩, Nat.lt_succ_of_le hbehind.length_le⟩

/-- A quoted text, be it closed or open. -/
theorem opens_quote {c : Char} (hquote : Token.isQuote c = true) (text : List Char) :
    (quote c hquote).Opens (expression space (lexemesFrom 0 (c :: text))) := by
  rw [lexemesFrom_cons, lexemeAt_quote hquote]
  generalize lexemesFrom 0 _ = rest
  have hbehind := (operators space rest).suffix.length_le
  cases (Token.quotedRun c text).closed with
  | false =>
      rw [if_neg (by decide), expression]
      exact ⟨⟨_, rfl⟩, Nat.lt_succ_of_le hbehind⟩
  | true =>
      rw [if_pos rfl, expression]
      exact ⟨⟨_, rfl⟩, Nat.lt_succ_of_le hbehind⟩

/-- A numeral is not empty. -/
theorem length_of_numeral? {taken : List Char} (h : numeral? input = some (taken, rest)) :
    rest.length < input.length := by
  unfold numeral? at h
  split at h
  · cases h
    exact Nat.lt_succ_of_le (fraction_suffix _).length_le
  · cases h
    exact Nat.lt_succ_of_lt (Nat.lt_succ_of_le (fraction_suffix _).length_le)
  · cases h

theorem opens_numeral {cue : Cue} {taken : List Char} (hnumeral : numeral? input = some (taken, rest))
    (hcue : ∀ e : Expression, (∃ number, e.operand = .number number) → cue.Fits e) :
    cue.Opens (expression space input) := by
  obtain ⟨hvalue, hrest, -⟩ := expression_of_numeral? hnumeral
  refine ⟨hcue _ ⟨_, by rw [hvalue]⟩, ?_⟩
  rw [hrest]
  exact Nat.lt_of_le_of_lt (operators space rest).suffix.length_le (length_of_numeral? hnumeral)

/-- A name takes up lexemes, unless it is empty. -/
theorem length_afterIdentifier (h : identifier input ≠ "") :
    (afterIdentifier input).length < input.length := by
  cases input with
  | nil => exact absurd rfl h
  | cons first tail =>
      have hfirst : isNamePart first = true := by
        by_contra hno
        exact h (by rw [identifier, List.takeWhile_cons_of_neg hno]; rfl)
      rw [afterIdentifier, List.dropWhile_cons_of_pos hfirst]
      exact Nat.lt_succ_of_le (List.dropWhile_suffix _).length_le

theorem opens_call (name : Written.Key) (hminus : name.text.head? ≠ some '-') (text : List Char) :
    (call name hminus).Opens (expression space (lexemesFrom 0 (name.text ++ '(' :: text))) := by
  have hparen : Text.StartsIn Written.afterName ('(' :: text) := Text.startsIn_cons (by decide) text
  -- a name without a minus sign in front cannot be taken for a numeral
  let word : Written.Word := ⟨name, fun h => absurd h hminus⟩
  obtain ⟨hname, htail⟩ := name.identifier_eq hparen
  have hne : identifier (lexemesFrom 0 (name.text ++ '(' :: text)) ≠ "" := by
    rw [hname]
    exact name.string_ne
  have hcall : isCall (afterIdentifier (lexemesFrom 0 (name.text ++ '(' :: text))) = true := by
    rw [htail, lexemesFrom_mark (by rfl : ofChar? '(' = some .leftParen)]
    rfl
  obtain ⟨hvalue, hrest, -⟩ := expression_of_call (word.startsWord hparen) hne hcall
  refine ⟨⟨?_, ?_⟩, ?_⟩
  · rw [hvalue]
  · rw [hvalue, hname]
    rfl
  · rw [hrest]
    refine Nat.lt_of_le_of_lt (List.IsSuffix.length_le ?_) (length_afterIdentifier hne)
    exact (operators space _).suffix.trans (invocation space _ _).suffix

/-- **A cue settles what the parser reads.** -/
theorem opens_of_mark {cue : Cue} {body : List Char} (h : cue.mark <+: body) :
    cue.Opens (expression space (lexemesFrom 0 body)) := by
  obtain ⟨rest, rfl⟩ := h
  cases cue with
  | dollar =>
      rw [mark, List.cons_append, lexemesFrom_mark (by rfl : ofChar? '$' = some .dollar)]
      exact opens_dollar _
  | quote c hquote => exact opens_quote hquote rest
  | digit c hdigit =>
      rw [mark, List.cons_append, lexemesFrom_cons, lexemeAt, if_pos hdigit]
      exact opens_numeral rfl fun _ h => h
  | negative c hdigit =>
      rw [mark, List.cons_append, lexemesFrom_mark (by rfl : ofChar? '-' = some .minus), List.cons_append,
        lexemesFrom_cons, lexemeAt, if_pos hdigit]
      exact opens_numeral rfl fun _ h => h
  | call name hminus =>
      rw [mark, List.append_assoc]
      exact opens_call name hminus rest

end Cue

/-! ## Expressions of a scan -/

namespace Element

/-- What the scanner made an expression starts with a cue. -/
theorem exists_cue_of_mem_scan {delimiters : Delimiters} {source : String} {element : Element}
    (h : element ∈ (scan (some delimiters) source).elements) (hkind : element.kind = .expression) :
    ∃ cue : Cue, cue.mark <+: element.text.toList := by
  obtain ⟨⟨line, piece⟩, -, rfl⟩ := List.mem_map.1 h
  cases piece with
  | text | comment | openComment | openBlock => cases hkind
  | block raw =>
      dsimp only [Piece.element] at hkind ⊢
      unfold Piece.elementOfBlock at hkind ⊢
      split at hkind
      · cases hkind
      · next hraw =>
        -- the scanner looks at the very text that it hands on, without escapes and slashes
        rw [if_neg hraw]
        dsimp only at hkind ⊢
        rw [String.toList_ofList]
        refine Cue.isExpression_iff.1 ?_
        by_contra hno
        rw [if_neg hno] at hkind
        cases hkind

/-! ## Expressions behind the layout -/

/-- What is left of an expression, and of nothing else, is an expression. -/
theorem of_mem_left {isLiteral : String → Bool} {afterTag beforeTag : Bool} {element whole : Element}
    (h : element ∈ Place.left isLiteral afterTag beforeTag whole) (hkind : element.kind = .expression) :
    whole.kind = .expression ∧ whole.line = element.line ∧
      element.text = trimmed afterTag beforeTag whole.text := by
  have hunless : ∀ {other : Element}, element ∈ Place.unlessEmpty other → element = other := by
    intro other hmem
    unfold Place.unlessEmpty at hmem
    split at hmem
    · cases hmem
    · exact List.mem_singleton.1 hmem
  unfold Place.left at h
  split at h
  · cases h
  · next htext =>
    obtain rfl := hunless h
    cases htext.symm.trans hkind
  · obtain rfl := hunless h
    exact ⟨hkind, rfl, rfl⟩
  · next htag =>
    split at h
    · cases h
    · obtain rfl := List.mem_singleton.1 h
      cases htag.symm.trans hkind

theorem mem_of_mem_placesFrom {place : Place} {elements : List Element} :
    ∀ {before : List Element}, place ∈ Place.placesFrom before elements → place.element ∈ elements := by
  induction elements with
  | nil => exact nofun
  | cons element rest ih =>
      intro before h
      rcases List.mem_cons.1 h with rfl | h
      · exact List.mem_cons_self
      · exact List.mem_cons_of_mem _ (ih h)

/-- **An expression that the layout leaves was one before**; its text may have lost line breaks. -/
theorem exists_of_mem_layout {delimiters : Delimiters} {isLiteral : String → Bool}
    {elements : List Element} {element : Element}
    (h : element ∈ (layout delimiters isLiteral elements).elements) (hkind : element.kind = .expression) :
    ∃ whole ∈ elements, whole.kind = .expression ∧ whole.line = element.line ∧
      ∃ afterTag beforeTag, element.text = trimmed afterTag beforeTag whole.text := by
  have hplaces : (layout delimiters isLiteral elements).elements =
      (Place.placesFrom [] elements).flatMap (Place.shown delimiters isLiteral) :=
    congrArg Scanned.elements (Place.layoutFrom_eq_places delimiters isLiteral elements [] rfl)
  rw [hplaces] at h
  obtain ⟨place, hplace, hshown⟩ := List.mem_flatMap.1 h
  have hmem := mem_of_mem_placesFrom hplace
  unfold Place.shown at hshown
  split at hshown
  · cases hshown
  · -- a literal block leaves a text
    unfold Place.unlessEmpty at hshown
    split at hshown
    · cases hshown
    · obtain rfl := List.mem_singleton.1 hshown
      cases hkind
  · obtain ⟨hwhole, hline, htext⟩ := of_mem_left hshown hkind
    exact ⟨place.element, hmem, hwhole, hline, _, _, htext⟩

end Element

/-! ## Line breaks and cues -/

theorem Cue.mark_ne_nil (cue : Cue) : cue.mark ≠ [] := by
  cases cue with
  | call name => exact List.append_ne_nil_of_left_ne_nil name.ne_nil _
  | dollar | quote | digit | negative => exact List.cons_ne_nil _ _

theorem Cue.lineBreak_not_mem (cue : Cue) : '\n' ∉ cue.mark := by
  cases cue with
  | dollar => decide
  | quote c hquote =>
      intro h
      obtain rfl := List.mem_singleton.1 h
      exact absurd hquote (by decide)
  | digit c hdigit =>
      intro h
      obtain rfl := List.mem_singleton.1 h
      exact absurd hdigit (by decide)
  | negative c hdigit =>
      intro h
      rcases List.mem_cons.1 h with h | h
      · cases h
      · obtain rfl := List.mem_singleton.1 h
        exact absurd hdigit (by decide)
  | call name hminus =>
      intro h
      rcases List.mem_append.1 h with h | h
      · exact absurd (name.isWordChar _ h) (by decide)
      · cases List.mem_singleton.1 h

/-- **No cue is trimmed**: of a text that starts with one, at most the line break at the end is lost. -/
theorem Cue.prefix_trimmed {cue : Cue} {text : String} (afterTag beforeTag : Bool)
    (h : cue.mark <+: text.toList) :
    cue.mark <+: (Element.trimmed afterTag beforeTag text).toList ∧
      (text.toList = (Element.trimmed afterTag beforeTag text).toList ∨
        text.toList = (Element.trimmed afterTag beforeTag text).toList ++ ['\n']) := by
  obtain ⟨behind, hfront, hbehind⟩ := Place.losesLineBreaks_trimmed afterTag beforeTag text
  generalize Element.trimmed afterTag beforeTag text = left at *
  -- the text starts with the mark, and so with no line break
  have hhead : text.toList.head? ≠ some '\n' := by
    obtain ⟨c, mark, hmark⟩ := List.exists_cons_of_ne_nil cue.mark_ne_nil
    obtain ⟨rest, hrest⟩ := h
    rw [← hrest, hmark]
    rintro ⟨rfl⟩
    exact cue.lineBreak_not_mem (by rw [hmark]; exact List.mem_cons_self)
  rw [Place.lineBreak, if_neg (fun h' => hhead h'.2), List.nil_append] at hfront
  -- a line break that is lost at the end is no part of the mark, even if the mark is all there is
  rw [hfront, hbehind] at h ⊢
  rw [Place.lineBreak] at h ⊢
  split at h
  · next hbreak =>
    rw [if_pos hbreak]
    rcases List.prefix_concat_iff.1 h with hall | hpart
    · exact absurd (by rw [hall]; simp) cue.lineBreak_not_mem
    · exact ⟨hpart, .inr rfl⟩
  · next hbreak =>
    rw [if_neg hbreak]
    rw [List.append_nil] at h ⊢
    exact ⟨h, .inl rfl⟩

/-- **Scanner and parser agree on what an expression is.** Every expression of a scan starts with a cue, and
whatever cue that is, the parser reads something, and what it reads is what the cue promises. The same holds of
every expression that the layout leaves: it was an expression of the scan, it has lost the line break at its end
or nothing, and the parser reads what the scanner had promised. No cue promises a bare word. -/
theorem Element.recognized (delimiters : Delimiters) (isLiteral : String → Bool) (space source : String) :
    (∀ element ∈ (scan (some delimiters) source).elements, element.kind = .expression →
      (∃ cue : Cue, cue.mark <+: element.text.toList) ∧
        ∀ cue : Cue, cue.mark <+: element.text.toList →
          cue.Opens (Parser.expression space (Token.tokenize element.text))) ∧
      (∀ element ∈ (read (some delimiters) isLiteral source).elements, element.kind = .expression →
        ∃ whole ∈ (scan (some delimiters) source).elements,
          whole.kind = .expression ∧ whole.line = element.line ∧
          (whole.text.toList = element.text.toList ∨
            whole.text.toList = element.text.toList ++ ['\n']) ∧
          ∀ cue : Cue, cue.mark <+: whole.text.toList →
            cue.mark <+: element.text.toList ∧
              cue.Opens (Parser.expression space (Token.tokenize element.text))) ∧
      ∀ (cue : Cue) (expression : Expression), cue.Fits expression →
        ∀ text, expression.operand ≠ .word text := by
  refine ⟨fun element hmem hkind => ?_, fun element hmem hkind => ?_, fun cue expression h => h.ne_word⟩
  · exact ⟨exists_cue_of_mem_scan hmem hkind, fun cue hcue => Cue.opens_of_mark hcue⟩
  · obtain ⟨whole, hwhole, hkind', hline, afterTag, beforeTag, htext⟩ := exists_of_mem_layout hmem hkind
    obtain ⟨cue, hcue⟩ := exists_cue_of_mem_scan hwhole hkind'
    refine ⟨whole, hwhole, hkind', hline, ?_, fun cue hcue => ?_⟩
    · rw [htext]
      exact (Cue.prefix_trimmed afterTag beforeTag hcue).2
    · rw [htext]
      have hkept := (Cue.prefix_trimmed afterTag beforeTag hcue).1
      exact ⟨hkept, Cue.opens_of_mark hkept⟩

/-- A call that is never closed, with a line break and a tag behind it. -/
theorem Element.recognized_open_call :
    let element : Element := ⟨.expression, "count(", 1⟩
    let scanned := (scan (some .standard) "\x7bcount(\n\x7d\x7bif\x7d").elements
    element ∈ (read (some .standard) (fun _ => false) "\x7bcount(\n\x7d\x7bif\x7d").elements ∧
      element.kind = .expression ∧
      ∃ whole ∈ scanned, whole.kind = .expression ∧ whole.line = 1 ∧
        (whole.text.toList = "count(".toList ∨ whole.text.toList = "count(".toList ++ ['\n']) ∧
        ∀ cue : Cue, cue.mark <+: whole.text.toList →
          cue.mark <+: "count(".toList ∧
            cue.Opens (Parser.expression "" (Token.tokenize "count(")) := by
  intro element scanned
  have hread : (read (some .standard) (fun _ => false) "\x7bcount(\n\x7d\x7bif\x7d").elements =
      [element, ⟨.tag .normal "if", "if", 2⟩] := by
    decide +kernel
  have hmem : element ∈
      (read (some .standard) (fun _ => false) "\x7bcount(\n\x7d\x7bif\x7d").elements := by
    rw [hread]
    exact List.mem_cons_self
  exact ⟨hmem, rfl, (recognized .standard (fun _ => false) "" _).2.1 element hmem rfl⟩

end TextTemplate
