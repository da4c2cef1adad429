import TextTemplate.Proofs.Expression.Part

set_option autoImplicit false

/-! # What spells an expression

The documented grammar of expressions as a judgment: a text `Spells` an expression. It has every way
to write one: quoted texts with either quote and with any `escapable` character behind a backslash,
numerals with a point, keys and indices behind points and in brackets, computed keys in brackets and at
the end, and arguments with a comma behind each or between them.

Main statement: `Spells.reads`. Whatever spells an expression without a backslash in front of a line
feed is read as that expression, up to what stands behind it. -/

namespace TextTemplate.Written

open TextTemplate.Parser
open TextTemplate.Token (lexemesFrom lexemeAt ofChar? isQuote Denotes lexemesFrom_cons
  lexemesFrom_mark lexemesFrom_closed head_token_ne_of_startsIn)

/-! ## The grammar -/

section Grammar

variable (escapable : Char → Prop)

/-- A step into a value that is written out: a key or an index. -/
inductive SpellsStep : List Char → Attribute → Prop
  | key (key : Key) : SpellsStep key.text (.key key.string)
  | index (digits : Digits) : SpellsStep digits.text (.index (String.ofList digits.text))

mutual

/-- The text is one way to write the expression. In its quoted texts a backslash stands in front of
`escapable` characters only. -/
inductive Spells : List Char → Expression → Prop
  /-- `$path`, steps and operators. -/
  | reference (path : Path) {text : List Char} {attributes : List Attribute}
      {operators : List Operator} : SpellsSteps text attributes operators →
      Spells ('$' :: (path.text ++ text))
        ⟨.reference ⟨path.namespaceName, path.name.string, attributes⟩, operators⟩
  /-- A text between single or double quotes. -/
  | quoted {quote : Char} {written content text : List Char} {operators : List Operator} :
      isQuote quote = true → Denotes quote escapable written content →
      SpellsChain text operators →
      Spells (quote :: (written ++ quote :: text)) ⟨.text (String.ofList content), operators⟩
  | number (figure : Figure) {text : List Char} {operators : List Operator} :
      SpellsChain text operators → Spells (figure.text ++ text) ⟨.number figure.number, operators⟩
  | word (word : Word) {text : List Char} {operators : List Operator} :
      SpellsChain text operators → Spells (word.text ++ text) ⟨.word word.string, operators⟩
  /-- `name(slots)` and operators. -/
  | call (name : Word) {slots text : List Char} {arguments : List Expression}
      {operators : List Operator} : SpellsSlots slots arguments → SpellsChain text operators →
      Spells (name.text ++ '(' :: (slots ++ text)) ⟨.call, ⟨name.string, arguments⟩ :: operators⟩

/-- The text is one way to write the steps behind a variable and the operators behind them. -/
inductive SpellsSteps : List Char → List Attribute → List Operator → Prop
  | chain {text : List Char} {operators : List Operator} : SpellsChain text operators →
      SpellsSteps text [] operators
  /-- `.step` -/
  | point {written text : List Char} {first : Attribute} {attributes : List Attribute}
      {operators : List Operator} : SpellsStep written first →
      SpellsSteps text attributes operators →
      SpellsSteps ('.' :: (written ++ text)) (first :: attributes) operators
  /-- `[step]` -/
  | brackets {written text : List Char} {first : Attribute} {attributes : List Attribute}
      {operators : List Operator} : SpellsStep written first →
      SpellsSteps text attributes operators →
      SpellsSteps ('[' :: (written ++ ']' :: text)) (first :: attributes) operators
  /-- `[$path…]`, with steps and operators of its own. -/
  | computed {key text : List Char} {expression : Expression} {attributes : List Attribute}
      {operators : List Operator} : Spells ('$' :: key) expression →
      SpellsSteps text attributes operators →
      SpellsSteps ('[' :: '$' :: (key ++ ']' :: text)) (.computed expression :: attributes) operators
  /-- `.$path…`, to which everything that follows belongs. -/
  | computedLast {key : List Char} {expression : Expression} : Spells ('$' :: key) expression →
      SpellsSteps ('.' :: '$' :: key) [.computed expression] []

/-- The text is one way to write the chain of operators. -/
inductive SpellsChain : List Char → List Operator → Prop
  | nil : SpellsChain [] []
  /-- `|name` -/
  | operator (name : Name) {text : List Char} {operators : List Operator} :
      SpellsChain text operators →
      SpellsChain ('|' :: (name.text ++ text)) (⟨name.string, []⟩ :: operators)
  /-- `|name(slots)` -/
  | call (name : Name) {slots text : List Char} {arguments : List Expression}
      {operators : List Operator} : SpellsSlots slots arguments → SpellsChain text operators →
      SpellsChain ('|' :: (name.text ++ '(' :: (slots ++ text)))
        (⟨name.string, arguments⟩ :: operators)

/-- The text is one way to write the arguments, with the closing parenthesis behind them. -/
inductive SpellsSlots : List Char → List Expression → Prop
  | close (blank : Blank) : SpellsSlots (blank.text ++ [')']) []
  /-- A slot without an argument. -/
  | null (blank : Blank) {text : List Char} {arguments : List Expression} :
      SpellsSlots text arguments → SpellsSlots (blank.text ++ ',' :: text) (.null :: arguments)
  | argument (before after : Blank) {argument text : List Char} {expression : Expression}
      {arguments : List Expression} : Spells argument expression → SpellsSlots text arguments →
      SpellsSlots (before.text ++ (argument ++ (after.text ++ ',' :: text)))
        (expression :: arguments)
  /-- The last argument needs no comma. -/
  | last (before after : Blank) {argument : List Char} {expression : Expression} :
      Spells argument expression →
      SpellsSlots (before.text ++ (argument ++ (after.text ++ [')']))) [expression]

end

end Grammar

/-! ## Where the parts start -/

variable {escapable : Char → Prop} {text rest : List Char} {e : Expression} {first : Attribute}
  {attributes : List Attribute} {chain : List Operator} {list : List Expression}

theorem SpellsChain.startsIn (h : SpellsChain escapable text chain) (hrest : Text.StartsIn closers rest) :
    Text.StartsIn afterSteps (text ++ rest) := by
  cases h with
  | nil => exact hrest.mono (List.subset_cons_self _ _)
  | operator name _ => exact Text.startsIn_cons List.mem_cons_self _
  | call name _ _ => exact Text.startsIn_cons List.mem_cons_self _

theorem SpellsSteps.startsIn (h : SpellsSteps escapable text attributes chain)
    (hrest : Text.StartsIn closers rest) : Text.StartsIn afterName (text ++ rest) := by
  cases h with
  | chain hchain => exact (hchain.startsIn hrest).mono afterSteps_subset
  | point _ _ => exact Text.startsIn_cons (by decide) _
  | brackets _ _ => exact Text.startsIn_cons (by decide) _
  | computed _ _ => exact Text.startsIn_cons (by decide) _
  | computedLast _ => exact Text.startsIn_cons (by decide) _

theorem not_mem_closers_of_isWordChar {c : Char} (h : Text.isWordChar c = true) : c ∉ closers := by
  intro hc
  have hall : closers.all (fun c => !Text.isWordChar c) = true := rfl
  have hnot := List.all_eq_true.1 hall c hc
  rw [h] at hnot
  cases hnot

/-- A numeral starts with the minus sign or with a digit. -/
theorem Figure.exists_cons (figure : Figure) :
    ∃ c tail, figure.text = c :: tail ∧ Text.isWordChar c = true := by
  unfold Figure.text Figure.sign
  cases figure.negative with
  | true => exact ⟨'-', _, rfl, rfl⟩
  | false =>
      obtain ⟨c, tail, hdigits⟩ := List.exists_cons_of_ne_nil figure.digits.ne_nil
      have hdigit := figure.digits.isDigit c (by rw [hdigits]; exact List.mem_cons_self)
      rw [hdigits]
      exact ⟨c, tail ++ figure.point, rfl, by simp [Text.isWordChar, hdigit]⟩

/-- No expression starts with what could stand behind one. -/
theorem Spells.exists_cons (h : Spells escapable text e) :
    ∃ c tail, text = c :: tail ∧ c ∉ closers := by
  have hrow : ∀ {row : List Char}, (∃ c tail, row = c :: tail ∧ Text.isWordChar c = true) →
      ∀ behind, ∃ c tail, row ++ behind = c :: tail ∧ c ∉ closers := by
    rintro row ⟨c, tail, rfl, hword⟩ behind
    exact ⟨c, tail ++ behind, rfl, not_mem_closers_of_isWordChar hword⟩
  cases h with
  | reference path _ => exact ⟨_, _, rfl, by decide⟩
  | @quoted quote _ _ _ _ hquote _ _ =>
      have hcases : quote = '"' ∨ quote = '\'' := by simpa [isQuote] using hquote
      refine ⟨_, _, rfl, ?_⟩
      rcases hcases with rfl | rfl
      all_goals decide
  | number figure _ => exact hrow figure.exists_cons _
  | word word _ => exact hrow word.exists_cons _
  | call name _ _ => exact hrow name.exists_cons _

theorem isTokenBlank_of_not_mem_closers {c : Char} (h : c ∉ closers) :
    Text.isTokenBlank c = false := by
  rw [Bool.eq_false_iff]
  intro hblank
  simp only [Text.isTokenBlank, Bool.or_eq_true, decide_eq_true_eq] at hblank
  rcases hblank with ((rfl | rfl) | rfl) | rfl
  all_goals exact h (by decide)

/-- The lexeme at the start of an expression does not end a slot. -/
theorem token_of_not_mem_closers {c : Char} (h : c ∉ closers) (rest : List Char) :
    (lexemeAt c rest).token ≠ .rightParen ∧ (lexemeAt c rest).token ≠ .comma := by
  unfold lexemeAt
  split
  · exact ⟨nofun, nofun⟩
  split
  · exact ⟨nofun, nofun⟩
  split
  · exact ⟨nofun, nofun⟩
  split
  · dsimp only
    split
    · exact ⟨nofun, nofun⟩
    · exact ⟨nofun, nofun⟩
  · unfold ofChar?
    split
    case h_8 | h_9 => exact absurd (by decide) h
    all_goals exact ⟨nofun, nofun⟩

/-- No expression starts with white space. -/
theorem Spells.isTokenBlank_head (h : Spells escapable text e) (rest : List Char) :
    ∀ c ∈ (text ++ rest).head?, Text.isTokenBlank c = false := by
  obtain ⟨c, row, rfl, hc⟩ := h.exists_cons
  rintro _ ⟨rfl⟩
  exact isTokenBlank_of_not_mem_closers hc

/-- White space and the start of an expression. -/
theorem Spells.afterBlanks_eq (h : Spells escapable text e) (blank : Blank) (rest : List Char) :
    ∃ first tail, lexemesFrom 0 (text ++ rest) = first :: tail ∧
      afterBlanks (lexemesFrom 0 (blank.text ++ (text ++ rest))) = first :: tail ∧
        first.token ≠ .rightParen ∧ first.token ≠ .comma := by
  have hblank := blank.afterBlanks_eq (h.isTokenBlank_head rest)
  obtain ⟨c, row, rfl, hc⟩ := h.exists_cons
  have hlexemes := lexemesFrom_cons c (row ++ rest)
  exact ⟨_, _, hlexemes, hblank.trans hlexemes, token_of_not_mem_closers hc (row ++ rest)⟩

/-! ## Readings -/

theorem SpellsStep.reads (h : SpellsStep text first) (hrest : Text.StartsIn afterName rest) :
    (step "" (lexemesFrom 0 (text ++ rest))).Reads first (lexemesFrom 0 rest) := by
  cases h with
  | key key =>
      obtain ⟨hname, htail⟩ := key.identifier_eq hrest
      exact reads_step_key (key.token_ne_dollar _) (key.token_ne_digits _) hname htail
  | index digits =>
      rw [digits.lexemesFrom_eq hrest]
      exact reads_step_index

mutual

/-- **Whatever spells an expression is read as that expression**, up to what stands behind it. -/
theorem Spells.reads : ∀ {text : List Char} {e : Expression}, Spells (· ≠ '\n') text e →
    ∀ {rest : List Char}, Text.StartsIn closers rest →
    (expression "" (lexemesFrom 0 (text ++ rest))).Reads e (lexemesFrom 0 rest)
  | _, _, .reference path hsteps, rest, h => by
      obtain ⟨between, hattributes, hchain⟩ := hsteps.reads h
      rw [List.cons_append, List.append_assoc]
      exact path.reads_reference (hsteps.startsIn h) hattributes hchain
  | _, _, @Spells.quoted _ _ _ _ text _ hquote hcontent hchain, rest, h => by
      have hlexemes := lexemesFrom_closed hquote hcontent (text ++ rest)
      rw [List.cons_append, List.append_assoc, List.cons_append, hlexemes]
      exact reads_expression_quoted rfl (hchain.reads h)
  | _, _, .number figure hchain, rest, h => by
      have hread := reads_expression_number (figure.numeral?_eq (hchain.startsIn h)) (hchain.reads h)
      rw [List.append_assoc, ← figure.numberOf_eq]
      exact hread
  | _, _, @Spells.word _ word text _ hchain, rest, h => by
      have hbehind := hchain.startsIn h
      have hname := hbehind.mono afterSteps_subset
      obtain ⟨hword, htail⟩ := word.identifier_eq hname
      have hparen : isCall (lexemesFrom 0 (text ++ rest)) = false :=
        isCall_eq_false (head_token_ne_of_startsIn hbehind rfl)
      rw [List.append_assoc]
      exact reads_expression_word (word.startsWord hname) hword htail hparen (hchain.reads h)
  | _, _, @Spells.call _ name slots text _ _ hslots hchain, rest, h => by
      -- the slots end with their parenthesis, so it does not matter what stands behind them
      have hname : Text.StartsIn afterName ('(' :: (slots ++ (text ++ rest))) :=
        Text.startsIn_cons (by decide) _
      obtain ⟨hword, htail⟩ := name.identifier_eq hname
      rw [lexemesFrom_mark (by rfl : ofChar? '(' = some .leftParen)] at htail
      have hlist := hslots.reads name.string (text ++ rest)
      have hread := reads_expression_call (name.startsWord hname) hword name.string_ne htail rfl
        (reads_invocation_paren hlist) (hchain.reads h)
      rw [List.append_assoc, List.cons_append, List.append_assoc]
      exact hread

theorem SpellsSteps.reads : ∀ {text : List Char} {attributes : List Attribute}
    {chain : List Operator}, SpellsSteps (· ≠ '\n') text attributes chain →
    ∀ {rest : List Char}, Text.StartsIn closers rest →
    ∃ between, (steps "" (lexemesFrom 0 (text ++ rest))).Reads attributes between ∧
      (operators "" between).Reads chain (lexemesFrom 0 rest)
  | _, _, _, .chain hchain, rest, h => by
      have hbehind := hchain.startsIn h
      exact ⟨_, reads_steps_nil (head_token_ne_of_startsIn hbehind rfl)
        (head_token_ne_of_startsIn hbehind rfl), hchain.reads h⟩
  | _, _, _, .point hstep hsteps, rest, h => by
      obtain ⟨between, hattributes, hchain⟩ := hsteps.reads h
      refine ⟨between, ?_, hchain⟩
      rw [List.cons_append, List.append_assoc, lexemesFrom_mark (by rfl : ofChar? '.' = some .dot)]
      exact reads_steps_dot (hstep.reads (hsteps.startsIn h)) hattributes
  | _, _, _, @SpellsSteps.brackets _ _ text _ _ _ hstep hsteps, rest, h => by
      obtain ⟨between, hattributes, hchain⟩ := hsteps.reads h
      have hclose : Text.StartsIn afterName (']' :: (text ++ rest)) :=
        Text.startsIn_cons (by decide) _
      have hfirst := hstep.reads hclose
      rw [lexemesFrom_mark (by rfl : ofChar? ']' = some .rightBracket)] at hfirst
      refine ⟨between, ?_, hchain⟩
      rw [List.cons_append, List.append_assoc, List.cons_append,
        lexemesFrom_mark (by rfl : ofChar? '[' = some .leftBracket)]
      exact reads_steps_bracket hfirst hattributes
  | _, _, _, @SpellsSteps.computed _ _ text _ _ _ hkey hsteps, rest, h => by
      obtain ⟨between, hattributes, hchain⟩ := hsteps.reads h
      -- the bracket ends the expression in it, which is read by induction
      have hclose : Text.StartsIn closers (']' :: (text ++ rest)) :=
        Text.startsIn_cons (by decide) _
      have hfirst := hkey.reads hclose
      rw [List.cons_append, lexemesFrom_mark (by rfl : ofChar? '$' = some .dollar),
        lexemesFrom_mark (by rfl : ofChar? ']' = some .rightBracket)] at hfirst
      refine ⟨between, ?_, hchain⟩
      rw [List.cons_append, List.cons_append, List.append_assoc, List.cons_append,
        lexemesFrom_mark (by rfl : ofChar? '[' = some .leftBracket),
        lexemesFrom_mark (by rfl : ofChar? '$' = some .dollar)]
      exact reads_steps_bracket (reads_step_computed hfirst) hattributes
  | _, _, _, .computedLast hkey, rest, h => by
      have hfirst := hkey.reads h
      rw [List.cons_append, lexemesFrom_mark (by rfl : ofChar? '$' = some .dollar)] at hfirst
      refine ⟨_, ?_, reads_operators_nil (head_token_ne_of_startsIn h rfl)⟩
      rw [List.cons_append, List.cons_append, lexemesFrom_mark (by rfl : ofChar? '.' = some .dot),
        lexemesFrom_mark (by rfl : ofChar? '$' = some .dollar)]
      exact reads_steps_dot (reads_step_computed hfirst)
        (reads_steps_nil (head_token_ne_of_startsIn h rfl) (head_token_ne_of_startsIn h rfl))

theorem SpellsChain.reads : ∀ {text : List Char} {chain : List Operator},
    SpellsChain (· ≠ '\n') text chain → ∀ {rest : List Char}, Text.StartsIn closers rest →
    (operators "" (lexemesFrom 0 (text ++ rest))).Reads chain (lexemesFrom 0 rest)
  | _, _, .nil, rest, h => reads_operators_nil (head_token_ne_of_startsIn h rfl)
  | _, _, @SpellsChain.operator _ name text _ hmore, rest, h => by
      have hbehind := hmore.startsIn h
      obtain ⟨hname, htail⟩ := name.identifier_eq (hbehind.mono afterSteps_subset)
      have hparen : ∀ lexeme ∈ (lexemesFrom 0 (text ++ rest)).head?, lexeme.token ≠ .leftParen :=
        head_token_ne_of_startsIn hbehind rfl
      rw [List.cons_append, List.append_assoc, lexemesFrom_mark (by rfl : ofChar? '|' = some .pipe)]
      exact reads_operators_cons hname htail (reads_invocation_nil hparen) (hmore.reads h)
  | _, _, @SpellsChain.call _ name slots text _ _ hslots hmore, rest, h => by
      have hparen : Text.StartsIn afterName ('(' :: (slots ++ (text ++ rest))) :=
        Text.startsIn_cons (by decide) _
      obtain ⟨hname, htail⟩ := name.identifier_eq hparen
      rw [lexemesFrom_mark (by rfl : ofChar? '(' = some .leftParen)] at htail
      have hlist := hslots.reads name.string (text ++ rest)
      rw [List.cons_append, List.append_assoc, List.cons_append, List.append_assoc,
        lexemesFrom_mark (by rfl : ofChar? '|' = some .pipe)]
      exact reads_operators_cons hname htail (reads_invocation_paren hlist) (hmore.reads h)

theorem SpellsSlots.reads : ∀ {text : List Char} {list : List Expression},
    SpellsSlots (· ≠ '\n') text list → ∀ (operator : String) (rest : List Char),
    (arguments "" operator (lexemesFrom 0 (text ++ rest))).Reads list (lexemesFrom 0 rest)
  | _, _, .close blank, operator, rest => by
      have hparen := blank.afterBlanks_mark (by rfl : ofChar? ')' = some .rightParen) rfl rest
      rw [List.append_assoc]
      exact reads_arguments_nil hparen
  | _, _, @SpellsSlots.null _ blank text _ hmore, operator, rest => by
      have hcomma := blank.afterBlanks_mark (by rfl : ofChar? ',' = some .comma) rfl (text ++ rest)
      rw [List.append_assoc, List.cons_append]
      exact reads_arguments_null hcomma (hmore.reads operator rest)
  | _, _, @SpellsSlots.argument _ before after _ text _ _ hvalue hmore, operator, rest => by
      have hcomma := after.afterBlanks_mark (by rfl : ofChar? ',' = some .comma) rfl (text ++ rest)
      have hread := hvalue.reads (after.startsIn
        (Text.startsIn_cons (by decide : ',' ∈ closers) (text ++ rest)))
      -- the first lexeme of the argument is neither white space nor the end of a slot
      obtain ⟨first, tail, hfirst, hbefore, hparen, hcomma'⟩ :=
        hvalue.afterBlanks_eq before (after.text ++ ',' :: (text ++ rest))
      rw [hfirst] at hread
      rw [List.append_assoc, List.append_assoc, List.append_assoc, List.cons_append]
      exact reads_arguments_cons hbefore hparen hcomma' hread hcomma (hmore.reads operator rest)
  | _, _, .last before after hvalue, operator, rest => by
      have hclose := after.afterBlanks_mark (by rfl : ofChar? ')' = some .rightParen) rfl rest
      have hread := hvalue.reads (after.startsIn
        (Text.startsIn_cons (by decide : ')' ∈ closers) rest))
      obtain ⟨first, tail, hfirst, hbefore, hparen, hcomma⟩ :=
        hvalue.afterBlanks_eq before (after.text ++ ')' :: rest)
      rw [hfirst] at hread
      rw [List.append_assoc, List.append_assoc, List.append_assoc, List.cons_append, List.nil_append]
      exact reads_arguments_last hbefore hparen hcomma hread hclose

end

end TextTemplate.Written
