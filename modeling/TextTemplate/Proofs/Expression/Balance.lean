import TextTemplate.Proofs.Expression.Fault

set_option autoImplicit false

/-! # Balanced brackets

The parser goes on after every mistake, so a broken body is read as something too. What it promises
is that it says so: if no fault was noted, then in what has been read every bracket has its partner,
and all of it are lexemes that mean something (`WellFormed`).

The readers leave the end of what they are given, so the statement about each of them is about the
lexemes up to what it leaves (`Passes`), and these are put together along the calls
(`passes_readers`). Main statement: `wellFormed_of_faultless`. -/

namespace TextTemplate

/-! ## What is well formed -/

/-- Whether a token is an opening or a closing bracket. -/
def Token.isBracket : Token → Bool
  | leftParen | rightParen | leftBracket | rightBracket => true
  | _ => false

/-- Whether the lexer knew what to make of it: neither junk nor a text without its closing quote. -/
def Token.isRecognized : Token → Bool
  | junk | openQuoted _ => false
  | _ => true

/-- Every bracket is closed by its own partner, and brackets in between are closed in between. -/
inductive Balanced : List Lexeme → Prop
  | nil : Balanced []
  | other {lexeme : Lexeme} {rest : List Lexeme} : lexeme.token.isBracket = false → Balanced rest →
      Balanced (lexeme :: rest)
  | parens {text text' : List Char} {inner rest : List Lexeme} : Balanced inner → Balanced rest →
      Balanced (⟨.leftParen, text⟩ :: (inner ++ ⟨.rightParen, text'⟩ :: rest))
  | brackets {text text' : List Char} {inner rest : List Lexeme} : Balanced inner → Balanced rest →
      Balanced (⟨.leftBracket, text⟩ :: (inner ++ ⟨.rightBracket, text'⟩ :: rest))

/-- The brackets are balanced, and **every lexeme is a token**. -/
structure WellFormed (lexemes : List Lexeme) : Prop where
  balanced : Balanced lexemes
  recognized : ∀ lexeme ∈ lexemes, lexeme.token.isRecognized = true

theorem Balanced.append {left right : List Lexeme} (hleft : Balanced left) (hright : Balanced right) :
    Balanced (left ++ right) := by
  induction hleft with
  | nil => exact hright
  | other hother _ ih => exact .other hother ih
  | parens hinner _ _ ih =>
      rw [List.cons_append, List.append_assoc, List.cons_append]
      exact .parens hinner ih
  | brackets hinner _ _ ih =>
      rw [List.cons_append, List.append_assoc, List.cons_append]
      exact .brackets hinner ih

/-! ## From one place to another -/

/-- What lies between the start of `input` and `rest` is well formed. -/
def Passes (input rest : List Lexeme) : Prop := ∃ taken, WellFormed taken ∧ input = taken ++ rest

variable {input middle rest : List Lexeme} {text text' : List Char}

theorem passes_self (input : List Lexeme) : Passes input input := ⟨[], ⟨.nil, nofun⟩, rfl⟩

theorem Passes.trans (h : Passes input middle) (h' : Passes middle rest) : Passes input rest := by
  obtain ⟨taken, ⟨hbalanced, hrecognized⟩, rfl⟩ := h
  obtain ⟨taken', ⟨hbalanced', hrecognized'⟩, rfl⟩ := h'
  refine ⟨taken ++ taken', ⟨hbalanced.append hbalanced', fun lexeme hl => ?_⟩, ?_⟩
  · exact (List.mem_append.1 hl).elim (hrecognized lexeme) (hrecognized' lexeme)
  · rw [List.append_assoc]

theorem passes_cons {lexeme : Lexeme} (hbracket : lexeme.token.isBracket = false)
    (hrecognized : lexeme.token.isRecognized = true) (rest : List Lexeme) :
    Passes (lexeme :: rest) rest :=
  ⟨[lexeme], ⟨.other hbracket .nil, by simpa using hrecognized⟩, rfl⟩

theorem Passes.parens (h : Passes input (⟨.rightParen, text'⟩ :: rest)) :
    Passes (⟨.leftParen, text⟩ :: input) rest := by
  obtain ⟨taken, ⟨hbalanced, hrecognized⟩, rfl⟩ := h
  refine ⟨⟨.leftParen, text⟩ :: (taken ++ [⟨.rightParen, text'⟩]), ⟨.parens hbalanced .nil, ?_⟩, ?_⟩
  · simpa [Token.isRecognized, or_imp, forall_and] using hrecognized
  · simp

theorem Passes.brackets (h : Passes input (⟨.rightBracket, text'⟩ :: rest)) :
    Passes (⟨.leftBracket, text⟩ :: input) rest := by
  obtain ⟨taken, ⟨hbalanced, hrecognized⟩, rfl⟩ := h
  refine ⟨⟨.leftBracket, text⟩ :: (taken ++ [⟨.rightBracket, text'⟩]),
    ⟨.brackets hbalanced .nil, ?_⟩, ?_⟩
  · simpa [Token.isRecognized, or_imp, forall_and] using hrecognized
  · simp

/-- A row of lexemes that are no brackets. -/
theorem passes_dropWhile {p : Lexeme → Bool}
    (hp : ∀ lexeme, p lexeme = true →
      lexeme.token.isBracket = false ∧ lexeme.token.isRecognized = true) (input : List Lexeme) :
    Passes input (input.dropWhile p) := by
  induction input with
  | nil => exact passes_self []
  | cons lexeme input ih =>
      rw [List.dropWhile_cons]
      split
      · next h => exact (passes_cons (hp lexeme h).1 (hp lexeme h).2 input).trans ih
      · exact passes_self _

namespace Parser

/-- Names are not made of brackets. -/
theorem no_bracket_of_isNamePart {lexeme : Lexeme} (h : isNamePart lexeme = true) :
    lexeme.token.isBracket = false ∧ lexeme.token.isRecognized = true := by
  unfold isNamePart at h
  split at h
  case h_4 => cases h
  all_goals
    next htoken =>
    rw [htoken]
    exact ⟨rfl, rfl⟩

theorem passes_afterIdentifier (input : List Lexeme) : Passes input (afterIdentifier input) :=
  passes_dropWhile (fun _ => no_bracket_of_isNamePart) input

theorem passes_afterPath (input : List Lexeme) : Passes input (afterPath input) := by
  refine passes_dropWhile (fun lexeme h => ?_) input
  rcases Bool.or_eq_true_iff.1 h with hname | hcolon
  · exact no_bracket_of_isNamePart hname
  · obtain ⟨token, text⟩ := lexeme
    cases token
    case colon => exact ⟨rfl, rfl⟩
    all_goals cases hcolon

theorem passes_afterBlanks (input : List Lexeme) : Passes input (afterBlanks input) := by
  refine passes_dropWhile (fun lexeme h => ?_) input
  obtain ⟨token, text⟩ := lexeme
  cases token
  case blank => exact ⟨rfl, rfl⟩
  all_goals cases h

theorem passes_fraction (input : List Lexeme) : Passes input (fraction input).2 := by
  unfold fraction
  split
  · exact (passes_cons rfl rfl _).trans (passes_cons rfl rfl _)
  · exact passes_cons rfl rfl _
  · exact passes_self _

theorem passes_numeral {numeral : List Char} (h : numeral? input = some (numeral, rest)) :
    Passes input rest := by
  unfold numeral? at h
  split at h
  · cases h
    exact (passes_cons rfl rfl _).trans (passes_fraction _)
  · cases h
    exact (passes_cons rfl rfl _).trans ((passes_cons rfl rfl _).trans (passes_fraction _))
  · cases h

/-- Without a fault there is a bracket. -/
theorem closeIndex_faultless (h : (closeIndex input).faults = []) :
    ∃ text, input = ⟨.rightBracket, text⟩ :: (closeIndex input).rest := by
  unfold closeIndex at h ⊢
  split
  · exact ⟨_, rfl⟩
  · next hne =>
    split at h
    · exact absurd rfl (hne _ _)
    · cases h

theorem passes_readers (space : String) :
    (∀ input, (expression space input).faults = [] → Passes input (expression space input).rest) ∧
      (∀ operator input, (invocation space operator input).faults = [] →
        Passes input (invocation space operator input).rest) ∧
      (∀ operator input, (arguments space operator input).faults = [] →
        ∃ text, Passes input (⟨.rightParen, text⟩ :: (arguments space operator input).rest)) ∧
      (∀ input, (operators space input).faults = [] → Passes input (operators space input).rest) ∧
      (∀ input, (steps space input).faults = [] → Passes input (steps space input).rest) ∧
      (∀ input, (step space input).faults = [] → Passes input (step space input).rest) := by
  apply expression.mutual_induct space
  -- a variable, a quoted text, a numeral, a call and a word, each with operators behind it
  case case1 =>
    intro text rest _ attributes behind faults suffix hsteps _ _ ihsteps ihchain
    rw [hsteps] at ihsteps
    have hall : faults = [] → (operators space behind).faults = [] →
        Passes (⟨.dollar, text⟩ :: rest) (operators space behind).rest := fun hf hf' =>
      (passes_cons rfl rfl rest).trans
        ((passes_afterPath rest).trans ((ihsteps hf).trans (ihchain hf')))
    unfold expression
    grind [List.append_eq_nil_iff]
  case case2 =>
    intro content text rest ihchain hfaults
    rw [expression] at hfaults ⊢
    exact (passes_cons rfl rfl rest).trans (ihchain hfaults)
  case case3 =>
    intro content text rest ihchain hfaults
    rw [expression] at hfaults
    cases hfaults
  case case4 =>
    intro input _ _ _ numeral rest hnumeral _ ihchain
    have hall : (operators space rest).faults = [] → Passes input (operators space rest).rest :=
      fun hf => (passes_numeral hnumeral).trans (ihchain hf)
    unfold expression
    grind [List.append_eq_nil_iff]
  case case5 =>
    intro input _ _ _ hnumeral _ _ hcall list behind faults suffix hlist _ ihlist ihchain
    rw [hlist] at ihlist
    have hall : faults = [] → (operators space behind).faults = [] →
        Passes input (operators space behind).rest := fun hf hf' =>
      (passes_afterIdentifier input).trans ((ihlist hf).trans (ihchain hf'))
    unfold expression
    grind [List.append_eq_nil_iff]
  case case6 =>
    intro input _ _ _ hnumeral _ _ hcall ihchain
    have hall : (operators space (afterIdentifier input)).faults = [] →
        Passes input (operators space (afterIdentifier input)).rest := fun hf =>
      (passes_afterIdentifier input).trans (ihchain hf)
    unfold expression
    grind [List.append_eq_nil_iff]
  -- what stands behind the name of an operator
  case case7 =>
    intro operator text rest ihlist hfaults
    rw [invocation] at hfaults ⊢
    obtain ⟨text', hlist⟩ := ihlist hfaults
    exact hlist.parens
  case case8 =>
    intro operator input hparen _
    rw [invocation]
    · exact passes_self input
    · exact hparen
  -- arguments: where one of them is not followed by what it should be, there is a fault
  case case9 =>
    intro operator input hend
    unfold arguments
    grind [List.append_eq_nil_iff]
  case case10 =>
    intro operator input text rest hclose
    have hall : Passes input (⟨.rightParen, text⟩ :: rest) := hclose ▸ passes_afterBlanks input
    unfold arguments
    grind [List.append_eq_nil_iff]
  case case11 =>
    intro operator input text rest hcomma _ _ ihmore
    have hall : (arguments space operator rest).faults = [] →
        ∃ text, Passes input (⟨.rightParen, text⟩ :: (arguments space operator rest).rest) := by
      intro hf
      obtain ⟨text', hmore⟩ := ihmore hf
      have hblanks := passes_afterBlanks input
      rw [hcomma] at hblanks
      exact ⟨text', hblanks.trans ((passes_cons rfl rfl rest).trans hmore)⟩
    unfold arguments
    grind [List.append_eq_nil_iff]
  case case12 =>
    intro operator input _ _ _ _ _ first hend ihfirst
    unfold arguments
    grind [List.append_eq_nil_iff]
  case case13 =>
    intro operator input text rest _ _ _ _ _ first hclose _ ihfirst
    have hall : first.faults = [] → Passes input (⟨.rightParen, text⟩ :: rest) := by
      intro hf
      have hblanks := passes_afterBlanks first.rest
      rw [hclose] at hblanks
      exact (passes_afterBlanks input).trans ((ihfirst hf).trans hblanks)
    unfold arguments
    grind [List.append_eq_nil_iff]
  case case14 =>
    intro operator input text rest _ _ _ _ _ first hcomma _ _ ihfirst ihmore
    have hall : first.faults = [] → (arguments space operator rest).faults = [] →
        ∃ text, Passes input (⟨.rightParen, text⟩ :: (arguments space operator rest).rest) := by
      intro hf hf'
      obtain ⟨text', hmore⟩ := ihmore hf'
      have hblanks := passes_afterBlanks first.rest
      rw [hcomma] at hblanks
      exact ⟨text', (passes_afterBlanks input).trans ((ihfirst hf).trans
        (hblanks.trans ((passes_cons rfl rfl rest).trans hmore)))⟩
    unfold arguments
    grind [List.append_eq_nil_iff]
  case case15 =>
    intro operator input token text rest _ _ _ _ _ _ _ first hother _ _ ihfirst ihmore
    unfold arguments
    grind [List.append_eq_nil_iff]
  -- operators one after the other
  case case16 =>
    intro text rest _ list behind faults suffix hlist _ _ ihlist ihmore
    rw [hlist] at ihlist
    have hall : faults = [] → (operators space behind).faults = [] →
        Passes (⟨.pipe, text⟩ :: rest) (operators space behind).rest := fun hf hf' =>
      (passes_cons rfl rfl rest).trans
        ((passes_afterIdentifier rest).trans ((ihlist hf).trans (ihmore hf')))
    unfold operators
    grind [List.append_eq_nil_iff]
  case case17 =>
    intro input hpipe _
    rw [operators]
    · exact passes_self input
    · exact hpipe
  -- steps one after the other
  case case18 =>
    intro text rest first behind faults suffix hstep _ ihstep ihmore
    rw [hstep] at ihstep
    have hall : faults = [] → (steps space behind).faults = [] →
        Passes (⟨.dot, text⟩ :: rest) (steps space behind).rest := fun hf hf' =>
      (passes_cons rfl rfl rest).trans ((ihstep hf).trans (ihmore hf'))
    unfold steps
    grind [List.append_eq_nil_iff]
  case case19 =>
    intro text rest first behind faults suffix hstep _ _ _ ihstep ihmore
    rw [hstep] at ihstep
    have hall : faults = [] → (closeIndex behind).faults = [] →
        (steps space (closeIndex behind).rest).faults = [] →
          Passes (⟨.leftBracket, text⟩ :: rest) (steps space (closeIndex behind).rest).rest := by
      intro hf hf' hf''
      obtain ⟨text', hclose⟩ := closeIndex_faultless hf'
      have hindex : Passes rest behind := ihstep hf
      rw [hclose] at hindex
      exact hindex.brackets.trans (ihmore hf'')
    unfold steps
    grind [List.append_eq_nil_iff]
  case case20 =>
    intro input hdot hbracket _
    rw [steps]
    · exact passes_self input
    · exact hdot
    · exact hbracket
  -- one step: a variable, an index or a key
  case case21 =>
    intro text rest ihkey hfaults
    rw [step] at hfaults ⊢
    exact ihkey hfaults
  case case22 =>
    intro digits rest _
    rw [step]
    exact passes_cons rfl rfl rest
  case case23 =>
    intro input hdollar hdigits _
    rw [step]
    · exact passes_afterIdentifier input
    · exact hdollar
    · exact hdigits

/-- The parameters of a tag are read to the end, or else there is a fault. -/
theorem passes_parameters (space tag : String) (input : List Lexeme) (before : Arguments)
    (h : (parameters space tag input before).faults = []) :
    (parameters space tag input before).rest = [] ∧ Passes input [] := by
  fun_induction parameters space tag input before with
  | case1 before => exact ⟨rfl, passes_self []⟩
  | case2 before first behind _ => cases h
  | case3 before first behind _ _ hend =>
      have hname := passes_afterIdentifier (afterBlanks (first :: behind))
      rw [hend] at hname
      exact ⟨rfl, (passes_afterBlanks _).trans hname⟩
  | case4 before first behind _ _ next rest _ _ _ => cases h
  | case5 before first behind _ _ next rest hnext name hequals value _ _ more ih =>
      obtain ⟨hvalue, hmore⟩ := List.append_eq_nil_iff.1 h
      have hname := passes_afterIdentifier (afterBlanks (first :: behind))
      rw [hnext] at hname
      have htoken : next.token = .equals := Decidable.not_not.1 (not_or.1 hequals).2
      have hnext : Passes (next :: rest) rest :=
        passes_cons (by rw [htoken]; rfl) (by rw [htoken]; rfl) rest
      have hpasses := (passes_readers space).1 rest hvalue
      exact ⟨(ih hmore).1, (passes_afterBlanks _).trans (hname.trans (hnext.trans
        (hpasses.trans (ih hmore).2)))⟩

theorem wellFormed_passedLexemes {cursor : Cursor} (h : Passes cursor.whole cursor.rest) :
    WellFormed cursor.passedLexemes := by
  obtain ⟨taken, htaken, heq⟩ := h
  have happend := cursor.passedLexemes_append_rest
  rw [heq] at happend
  rwa [List.append_cancel_right happend]

/-- **Silence implies balance.** Whatever the body and the default namespace: if no fault was noted
while an expression was read, then in the lexemes that it was read from every bracket is closed by its
partner, one inside of the other, and each of them is a token, and none a text without its closing
quote. If no fault was noted while a tag was read, then so it is with all the body. -/
theorem wellFormed_of_faultless (space body : String) :
    ((expression space (Cursor.ofBody body).rest).faults = [] →
        WellFormed ((Cursor.ofBody body).moveTo
          (expression space (Cursor.ofBody body).rest)).passedLexemes) ∧
      ((tag space (Cursor.ofBody body).rest).faults = [] →
        ((Cursor.ofBody body).moveTo (tag space (Cursor.ofBody body).rest)).isAtEnd = true ∧
          WellFormed ((Cursor.ofBody body).moveTo
            (tag space (Cursor.ofBody body).rest)).passedLexemes) := by
  constructor
  · intro h
    exact wellFormed_passedLexemes ((passes_readers space).1 _ h)
  · intro h
    obtain ⟨hrest, hpasses⟩ := passes_parameters space _ _ ∅ h
    have hend : (tag space (Cursor.ofBody body).rest).rest = [] := hrest
    refine ⟨List.isEmpty_iff.2 hend, wellFormed_passedLexemes ?_⟩
    have hall : Passes (Cursor.ofBody body).whole [] := (passes_afterIdentifier _).trans hpasses
    rwa [← hend] at hall

/-- An expression and a tag in which brackets stand in brackets, and some in a quoted text. -/
theorem wellFormed_of_faultless_nested :
    ((expression "" (Cursor.ofBody "$a[$b[0]|f(1, g())]|h(')') ]").rest).faults = [] ∧
      WellFormed ((Cursor.ofBody "$a[$b[0]|f(1, g())]|h(')') ]").moveTo
        (expression "" (Cursor.ofBody "$a[$b[0]|f(1, g())]|h(')') ]").rest)).passedLexemes) ∧
    ((tag "n" (Cursor.ofBody "f a=$x[0] b=g(h(1), ) c").rest).faults = [] ∧
      ((Cursor.ofBody "f a=$x[0] b=g(h(1), ) c").moveTo
        (tag "n" (Cursor.ofBody "f a=$x[0] b=g(h(1), ) c").rest)).isAtEnd = true ∧
      WellFormed ((Cursor.ofBody "f a=$x[0] b=g(h(1), ) c").moveTo
        (tag "n" (Cursor.ofBody "f a=$x[0] b=g(h(1), ) c").rest)).passedLexemes) := by
  have hexpression :
      (expression "" (Cursor.ofBody "$a[$b[0]|f(1, g())]|h(')') ]").rest).faults = [] := by
    decide +kernel
  have htag : (tag "n" (Cursor.ofBody "f a=$x[0] b=g(h(1), ) c").rest).faults = [] := by
    decide +kernel
  exact ⟨⟨hexpression, (wellFormed_of_faultless _ _).1 hexpression⟩, htag,
    (wellFormed_of_faultless _ _).2 htag⟩

end Parser

end TextTemplate
