import TextTemplate.Proofs.Expression.Loop
import TextTemplate.Proofs.Expression.Operand

set_option autoImplicit false

/-! # Readings of expressions

What the parser makes of lexemes, by the parts it reads one after the other: if each part is read as
something up to some lexeme and without a fault, then so is the whole (`Parsed.Reads`). There is one
rule for each branch of the parser that notes no fault of its own. -/

namespace TextTemplate

/-- What was parsed is `value`, up to `rest` and **without a fault**. -/
structure Parsed.Reads {α : Type} {input : List Lexeme} (parsed : Parsed α input) (value : α)
    (rest : List Lexeme) : Prop where
  value_eq : parsed.value = value
  rest_eq : parsed.rest = rest
  faults_eq : parsed.faults = []

/-- What was parsed from two inputs is the same, and so is what is left and what is wrong. -/
structure Parsed.SameAs {α : Type} {input input' : List Lexeme} (parsed : Parsed α input)
    (parsed' : Parsed α input') : Prop where
  value_eq : parsed.value = parsed'.value
  rest_eq : parsed.rest = parsed'.rest
  faults_eq : parsed.faults = parsed'.faults

theorem Parsed.SameAs.trans {α : Type} {input input' input'' : List Lexeme} {parsed : Parsed α input}
    {parsed' : Parsed α input'} {parsed'' : Parsed α input''} (h : parsed.SameAs parsed')
    (h' : parsed'.SameAs parsed'') : parsed.SameAs parsed'' :=
  ⟨h.value_eq.trans h'.value_eq, h.rest_eq.trans h'.rest_eq, h.faults_eq.trans h'.faults_eq⟩

theorem Parsed.Reads.of_sameAs {α : Type} {input input' : List Lexeme} {parsed : Parsed α input}
    {parsed' : Parsed α input'} {value : α} {rest : List Lexeme} (h : parsed'.Reads value rest)
    (hsame : parsed.SameAs parsed') : parsed.Reads value rest :=
  ⟨hsame.value_eq.trans h.value_eq, hsame.rest_eq.trans h.rest_eq,
    hsame.faults_eq.trans h.faults_eq⟩

theorem Parsed.Reads.complete {α : Type} {input : List Lexeme} {parsed : Parsed α input} {value : α}
    (h : parsed.Reads value []) : parsed.Complete value :=
  ⟨h.value_eq, h.rest_eq, h.faults_eq⟩

namespace Parser

variable {space operator name : String} {input rest tail behind last : List Lexeme}
  {text : List Char}

/-! ## The lexeme at the start -/

theorem isBlank_eq_false {lexeme : Lexeme} (h : lexeme.token ≠ .blank) : isBlank lexeme = false := by
  obtain ⟨token, text⟩ := lexeme
  cases token
  case blank => exact absurd rfl h
  all_goals rfl

theorem isCall_eq_false {lexemes : List Lexeme}
    (h : ∀ lexeme ∈ lexemes.head?, lexeme.token ≠ .leftParen) : isCall lexemes = false := by
  unfold isCall
  split
  · exact absurd rfl (h _ rfl)
  · rfl

/-- No point, no fraction. -/
theorem fraction_of_head {lexemes : List Lexeme} (h : ∀ lexeme ∈ lexemes.head?, lexeme.token ≠ .dot) :
    fraction lexemes = ([], lexemes) := by
  unfold fraction
  split
  · exact absurd rfl (h _ rfl)
  · exact absurd rfl (h _ rfl)
  · rfl

/-- A minus sign without digits is no numeral. -/
theorem numeral?_minus {lexemes : List Lexeme} (sign : List Char)
    (h : ∀ lexeme ∈ lexemes.head?, lexeme.token ≠ .digits) :
    numeral? (⟨.minus, sign⟩ :: lexemes) = none := by
  unfold numeral?
  split
  · next heq => cases heq
  · next heq =>
      cases heq
      exact absurd rfl (h _ rfl)
  · rfl

/-! ## Operators -/

theorem reads_operators_nil (h : ∀ lexeme ∈ input.head?, lexeme.token ≠ .pipe) :
    (operators space input).Reads [] input := by
  rw [operators]
  · exact ⟨rfl, rfl, rfl⟩
  · rintro text rest rfl
    exact h _ rfl rfl

theorem reads_operators_cons {list : List Expression} {chain : List Operator}
    (hname : identifier rest = name) (htail : afterIdentifier rest = tail)
    (hlist : (invocation space name tail).Reads list behind)
    (hchain : (operators space behind).Reads chain last) :
    (operators space (⟨.pipe, text⟩ :: rest)).Reads (⟨name, list⟩ :: chain) last := by
  subst hname htail
  rw [operators]
  generalize invocation space (identifier rest) (afterIdentifier rest) = reading at hlist
  obtain ⟨list', behind', faults, suffix⟩ := reading
  obtain ⟨rfl, rfl, rfl⟩ : list' = list ∧ behind' = behind ∧ faults = [] :=
    ⟨hlist.value_eq, hlist.rest_eq, hlist.faults_eq⟩
  obtain ⟨hv, hr, hf⟩ := hchain
  exact ⟨by simp only [hv], hr, by simp only [hf, List.append_nil]⟩

theorem reads_invocation_nil (h : ∀ lexeme ∈ input.head?, lexeme.token ≠ .leftParen) :
    (invocation space operator input).Reads [] input := by
  rw [invocation]
  · exact ⟨rfl, rfl, rfl⟩
  · rintro text rest rfl
    exact h _ rfl rfl

theorem reads_invocation_paren {list : List Expression}
    (hlist : (arguments space operator rest).Reads list last) :
    (invocation space operator (⟨.leftParen, text⟩ :: rest)).Reads list last := by
  rw [invocation]
  exact ⟨hlist.value_eq, hlist.rest_eq, hlist.faults_eq⟩

/-! ## Arguments -/

/-- Arguments that are read can have others in front of them. -/
theorem argumentsFrom_of_reads {list : List Expression}
    (h : (arguments space operator input).Reads list last) (before : List Expression) :
    argumentsFrom space operator before input = ⟨before ++ list, last, []⟩ := by
  rw [argumentsFrom, h.value_eq, h.rest_eq, h.faults_eq]

theorem reads_of_argumentsFrom {list : List Expression}
    (h : argumentsFrom space operator [] input = ⟨list, last, []⟩) :
    (arguments space operator input).Reads list last := by
  obtain ⟨hv, hr, hf⟩ := Outcome.mk.inj h
  exact ⟨hv, hr, hf⟩

theorem startsArgument_of_head {first : Lexeme} (h : afterBlanks input = first :: tail)
    (hparen : first.token ≠ .rightParen) (hcomma : first.token ≠ .comma) : StartsArgument input := by
  refine ⟨?_, ?_, ?_⟩
  · rw [h]
    exact List.cons_ne_nil _ _
  · rintro text rest h'
    cases h.symm.trans h'
    exact hparen rfl
  · rintro text rest h'
    cases h.symm.trans h'
    exact hcomma rfl

theorem reads_arguments_nil (h : afterBlanks input = ⟨.rightParen, text⟩ :: rest) :
    (arguments space operator input).Reads [] rest :=
  reads_of_argumentsFrom (argumentsFrom_paren [] h)

theorem reads_arguments_null {list : List Expression}
    (h : afterBlanks input = ⟨.comma, text⟩ :: rest)
    (hlist : (arguments space operator rest).Reads list last) :
    (arguments space operator input).Reads (.null :: list) last := by
  refine reads_of_argumentsFrom ?_
  rw [argumentsFrom_comma [] h, argumentsFrom_of_reads hlist]
  rfl

/-- An argument, white space and a comma. -/
theorem reads_arguments_cons {first : Lexeme} {value : Expression}
    {list : List Expression} (h : afterBlanks input = first :: tail)
    (hparen : first.token ≠ .rightParen) (hcomma : first.token ≠ .comma)
    (hvalue : (expression space (first :: tail)).Reads value behind)
    (hbehind : afterBlanks behind = ⟨.comma, text⟩ :: rest)
    (hlist : (arguments space operator rest).Reads list last) :
    (arguments space operator input).Reads (value :: list) last := by
  rw [← h] at hvalue
  obtain ⟨rfl, rfl, hf⟩ := hvalue
  refine reads_of_argumentsFrom ?_
  rw [argumentsFrom_start [] (startsArgument_of_head h hparen hcomma),
    behindArgument_comma [] hbehind, argumentsFrom_of_reads hlist, hf]
  rfl

/-- An argument, white space and the closing parenthesis. -/
theorem reads_arguments_last {first : Lexeme} {value : Expression}
    (h : afterBlanks input = first :: tail) (hparen : first.token ≠ .rightParen)
    (hcomma : first.token ≠ .comma) (hvalue : (expression space (first :: tail)).Reads value behind)
    (hbehind : afterBlanks behind = ⟨.rightParen, text⟩ :: rest) :
    (arguments space operator input).Reads [value] rest := by
  rw [← h] at hvalue
  obtain ⟨rfl, rfl, hf⟩ := hvalue
  refine reads_of_argumentsFrom ?_
  rw [argumentsFrom_start [] (startsArgument_of_head h hparen hcomma),
    behindArgument_paren [] hbehind, argumentsFrom_paren _ (rfl : afterBlanks (_ :: _) = _), hf]
  rfl

/-! ## Steps -/

theorem reads_steps_nil (hdot : ∀ lexeme ∈ input.head?, lexeme.token ≠ .dot)
    (hbracket : ∀ lexeme ∈ input.head?, lexeme.token ≠ .leftBracket) :
    (steps space input).Reads [] input := by
  rw [steps]
  · exact ⟨rfl, rfl, rfl⟩
  · rintro text rest rfl
    exact hdot _ rfl rfl
  · rintro text rest rfl
    exact hbracket _ rfl rfl

theorem reads_steps_dot {first : Attribute} {more : List Attribute}
    (hfirst : (step space rest).Reads first behind) (hmore : (steps space behind).Reads more last) :
    (steps space (⟨.dot, text⟩ :: rest)).Reads (first :: more) last := by
  rw [steps]
  generalize step space rest = reading at hfirst
  obtain ⟨first', behind', faults, suffix⟩ := reading
  obtain ⟨rfl, rfl, rfl⟩ : first' = first ∧ behind' = behind ∧ faults = [] :=
    ⟨hfirst.value_eq, hfirst.rest_eq, hfirst.faults_eq⟩
  obtain ⟨hv, hr, hf⟩ := hmore
  exact ⟨by simp only [hv], hr, by simp only [hf, List.append_nil]⟩

theorem reads_steps_bracket {first : Attribute} {more : List Attribute} {text' : List Char}
    (hfirst : (step space rest).Reads first (⟨.rightBracket, text'⟩ :: behind))
    (hmore : (steps space behind).Reads more last) :
    (steps space (⟨.leftBracket, text⟩ :: rest)).Reads (first :: more) last := by
  rw [steps]
  generalize step space rest = reading at hfirst
  obtain ⟨first', behind', faults, suffix⟩ := reading
  obtain ⟨rfl, rfl, rfl⟩ : first' = first ∧ behind' = ⟨.rightBracket, text'⟩ :: behind ∧
    faults = [] := ⟨hfirst.value_eq, hfirst.rest_eq, hfirst.faults_eq⟩
  obtain ⟨hv, hr, hf⟩ := hmore
  exact ⟨congrArg (first' :: ·) hv, hr, hf⟩

theorem reads_step_computed {key : Expression}
    (hkey : (expression space (⟨.dollar, text⟩ :: rest)).Reads key last) :
    (step space (⟨.dollar, text⟩ :: rest)).Reads (.computed key) last := by
  rw [step]
  exact ⟨congrArg Attribute.computed hkey.value_eq, hkey.rest_eq, hkey.faults_eq⟩

theorem reads_step_index : (step space (⟨.digits, text⟩ :: rest)).Reads
    (.index (String.ofList text)) rest := by
  rw [step]
  exact ⟨rfl, rfl, rfl⟩

theorem reads_step_key (hdollar : ∀ lexeme ∈ input.head?, lexeme.token ≠ .dollar)
    (hdigits : ∀ lexeme ∈ input.head?, lexeme.token ≠ .digits) (hname : identifier input = name)
    (htail : afterIdentifier input = tail) : (step space input).Reads (.key name) tail := by
  subst hname htail
  rw [step]
  · exact ⟨rfl, rfl, rfl⟩
  · rintro text rest rfl
    exact hdollar _ rfl rfl
  · rintro text rest rfl
    exact hdigits _ rfl rfl

/-! ## Operands -/

theorem reads_expression_dollar {namespaceName : Option String} {attributes : List Attribute}
    {chain : List Operator} (hpath : path space rest = (namespaceName, name))
    (htail : afterPath rest = tail) (hsteps : (steps space tail).Reads attributes behind)
    (hchain : (operators space behind).Reads chain last) :
    (expression space (⟨.dollar, text⟩ :: rest)).Reads
      ⟨.reference ⟨namespaceName, name, attributes⟩, chain⟩ last := by
  subst htail
  rw [expression]
  generalize steps space (afterPath rest) = reading at hsteps
  obtain ⟨attributes', behind', faults, suffix⟩ := reading
  obtain ⟨rfl, rfl, rfl⟩ : attributes' = attributes ∧ behind' = behind ∧ faults = [] :=
    ⟨hsteps.value_eq, hsteps.rest_eq, hsteps.faults_eq⟩
  obtain ⟨hv, hr, hf⟩ := hchain
  exact ⟨by simp only [hv, hpath], hr, by simp only [hf, List.append_nil]⟩

theorem reads_expression_quoted {content : List Char} {value : String} {chain : List Operator}
    (hvalue : String.ofList content = value) (hchain : (operators space rest).Reads chain last) :
    (expression space (⟨.quoted content, text⟩ :: rest)).Reads ⟨.text value, chain⟩ last := by
  subst hvalue
  rw [expression]
  obtain ⟨hv, hr, hf⟩ := hchain
  exact ⟨by simp only [hv], hr, hf⟩

/-- A numeral and the operators behind it. -/
theorem expression_of_numeral? {numeral : List Char} (h : numeral? input = some (numeral, rest)) :
    (expression space input).value = ⟨.number (numberOf numeral), (operators space rest).value⟩ ∧
      (expression space input).rest = (operators space rest).rest ∧
      (expression space input).faults = (operators space rest).faults := by
  unfold expression
  split
  · cases h
  · cases h
  · cases h
  · split
    · next h' =>
        cases h.symm.trans h'
        exact ⟨rfl, rfl, rfl⟩
    · next h' => cases h.symm.trans h'

theorem reads_expression_number {numeral : List Char} {chain : List Operator}
    (hnumeral : numeral? input = some (numeral, rest))
    (hchain : (operators space rest).Reads chain last) :
    (expression space input).Reads ⟨.number (numberOf numeral), chain⟩ last := by
  obtain ⟨hv, hr, hf⟩ := hchain
  obtain ⟨hvalue, hrest, hfaults⟩ := expression_of_numeral? hnumeral
  exact ⟨by rw [hvalue, hv], hrest.trans hr, hfaults.trans hf⟩

/-- The start of a word that is not a numeral. -/
structure StartsWord (input : List Lexeme) : Prop where
  isNamePart_head : ∀ lexeme ∈ input.head?, isNamePart lexeme = true
  numeral?_eq : numeral? input = none

theorem reads_expression_word {chain : List Operator} (h : StartsWord input)
    (hname : identifier input = name) (htail : afterIdentifier input = tail)
    (hparen : isCall tail = false) (hchain : (operators space tail).Reads chain last) :
    (expression space input).Reads ⟨.word name, chain⟩ last := by
  subst hname htail
  obtain ⟨hhead, hnumeral⟩ := h
  obtain ⟨hv, hr, hf⟩ := hchain
  unfold expression
  split
  · cases hhead _ rfl
  · cases hhead _ rfl
  · cases hhead _ rfl
  · split
    · next h' => cases hnumeral.symm.trans h'
    · rw [if_neg (by simp [hparen])]
      exact ⟨by simp only [hv], hr, hf⟩

/-- A call and the operators behind it. -/
theorem expression_of_call (h : StartsWord input) (hne : identifier input ≠ "")
    (hparen : isCall (afterIdentifier input) = true) :
    let list := invocation space (identifier input) (afterIdentifier input)
    (expression space input).value =
        ⟨.call, ⟨identifier input, list.value⟩ :: (operators space list.rest).value⟩ ∧
      (expression space input).rest = (operators space list.rest).rest ∧
      (expression space input).faults = list.faults ++ (operators space list.rest).faults := by
  intro list
  obtain ⟨hhead, hnumeral⟩ := h
  unfold expression
  split
  · cases hhead _ rfl
  · cases hhead _ rfl
  · cases hhead _ rfl
  · split
    · next h' => cases hnumeral.symm.trans h'
    · rw [if_pos ⟨hne, hparen⟩]
      exact ⟨rfl, rfl, rfl⟩

theorem reads_expression_call {list : List Expression} {chain : List Operator} (h : StartsWord input)
    (hname : identifier input = name) (hne : name ≠ "") (htail : afterIdentifier input = tail)
    (hparen : isCall tail = true) (hlist : (invocation space name tail).Reads list behind)
    (hchain : (operators space behind).Reads chain last) :
    (expression space input).Reads ⟨.call, ⟨name, list⟩ :: chain⟩ last := by
  subst hname htail
  obtain ⟨hvalue, hrest, hfaults⟩ := expression_of_call h hne hparen
  obtain ⟨rfl, rfl, hf⟩ := hlist
  obtain ⟨rfl, rfl, hf'⟩ := hchain
  exact ⟨hvalue, hrest, by rw [hfaults, hf, hf', List.append_nil]⟩

/-! ## Tags -/

variable {tag : String} {before list : Arguments}

theorem reads_of_parametersFrom (h : parametersFrom space tag before input = ⟨list, last, []⟩) :
    (parameters space tag input before).Reads list last := by
  obtain ⟨hv, hr, hf⟩ := Outcome.mk.inj h
  exact ⟨hv, hr, hf⟩

theorem reads_parameters_nil : (parameters space tag [] before).Reads before [] :=
  reads_of_parametersFrom (parametersFrom_nil before)

/-- White space, and a name or none, at the very end. -/
theorem reads_parameters_end {first : Lexeme} (hblank : isBlank first = true)
    (hend : afterIdentifier (afterBlanks (first :: tail)) = []) :
    (parameters space tag (first :: tail) before).Reads before [] :=
  reads_of_parametersFrom (parametersFrom_end before hblank hend)

/-- White space, a name, and something else than an equals sign. -/
theorem parameters_invalid (space tag : String) (before : Arguments) {first next : Lexeme}
    (hblank : isBlank first = true)
    (hnext : afterIdentifier (afterBlanks (first :: tail)) = next :: rest)
    (hequals : next.token ≠ .equals) :
    (parameters space tag (first :: tail) before).value = before ∧
      (parameters space tag (first :: tail) before).faults =
        [.invalidParameter tag (Lexeme.textOf (next :: rest))] := by
  obtain ⟨hv, -, hf⟩ := Outcome.mk.inj (parametersFrom_invalid before hblank hnext (.inr hequals))
  exact ⟨hv, hf⟩

/-- White space, a name, an equals sign and an expression: the parameters that follow are read as if
the one that they make had been there before. -/
theorem sameAs_parameters_cons {first : Lexeme} {value : Expression}
    (hblank : isBlank first = true) (hname : identifier (afterBlanks (first :: tail)) = name)
    (hne : name ≠ "")
    (hequals : afterIdentifier (afterBlanks (first :: tail)) = ⟨.equals, text⟩ :: rest)
    (hvalue : (expression space rest).Reads value behind) :
    (parameters space tag (first :: tail) before).SameAs
      (parameters space tag behind (before.set name value)) := by
  subst hname
  obtain ⟨rfl, rfl, hf⟩ := hvalue
  have hvalid : ¬ (identifier (afterBlanks (first :: tail)) = "" ∨ Token.equals ≠ .equals) := by
    simp [hne]
  have hread : parametersFrom space tag before (first :: tail) = _ :=
    parametersFrom_value before hblank hequals hvalid
  rw [hf] at hread
  obtain ⟨hv, hr, hf'⟩ := Outcome.mk.inj hread
  exact ⟨hv, hr, hf'⟩

theorem reads_parameters_cons {first : Lexeme} {value : Expression}
    (hblank : isBlank first = true) (hname : identifier (afterBlanks (first :: tail)) = name)
    (hne : name ≠ "")
    (hequals : afterIdentifier (afterBlanks (first :: tail)) = ⟨.equals, text⟩ :: rest)
    (hvalue : (expression space rest).Reads value behind)
    (hlist : (parameters space tag behind (before.set name value)).Reads list last) :
    (parameters space tag (first :: tail) before).Reads list last :=
  hlist.of_sameAs (sameAs_parameters_cons hblank hname hne hequals hvalue)

theorem reads_tag (hname : identifier input = name) (htail : afterIdentifier input = tail)
    (hlist : (parameters space name tail ∅).Reads list last) :
    (Parser.tag space input).Reads (name, list) last := by
  subst hname htail
  obtain ⟨hv, hr, hf⟩ := hlist
  exact ⟨by simp only [Parser.tag, hv], hr, hf⟩

end Parser

end TextTemplate
