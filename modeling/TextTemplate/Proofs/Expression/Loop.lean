import Mathlib.Data.Nat.Init
import TextTemplate.Expression.Parser

set_option autoImplicit false

/-! # The loops of the parser

Arguments, steps, operators and parameters are read in loops, and a loop that takes nothing would not end. What the
bodies call may well take nothing: on junk, an expression is an empty word. This file writes the bodies down, one
round at a time, and shows of each that it ends the loop or takes a lexeme (`Progresses`). So every loop comes to
an end, after at most one round for each lexeme and one more, and what it leaves is what the recursive readers of
the parser say (`Runs`).

In a round of the arguments the progress is made by the recovery: junk behind an expression is passed, and what
is not passed there cannot have been the start of the round. -/

namespace TextTemplate.Parser

/-! ## Rounds -/

/-- What one round leaves, and whether another one follows. -/
structure Round (σ : Type) where
  state : σ
  rest : List Lexeme
  faults : List ParseFault
  goesOn : Bool

/-- What a loop leaves. -/
structure Outcome (σ : Type) where
  state : σ
  rest : List Lexeme
  faults : List ParseFault

section Loops

variable {σ : Type}

/-- The outcome of a loop whose last round this is. -/
def Round.outcome (round : Round σ) : Outcome σ := ⟨round.state, round.rest, round.faults⟩

/-- An outcome with faults from before. -/
def Outcome.behind (outcome : Outcome σ) (faults : List ParseFault) : Outcome σ :=
  { outcome with faults := faults ++ outcome.faults }

/-- **A loop**: `Loops body n state input outcome` says that after `n` rounds it is over and leaves `outcome`. -/
inductive Loops (body : σ → List Lexeme → Round σ) :
    Nat → σ → List Lexeme → Outcome σ → Prop
  | stop {state : σ} {input : List Lexeme} (h : (body state input).goesOn = false) :
    Loops body 1 state input (body state input).outcome
  | again {n : Nat} {state : σ} {input : List Lexeme} {outcome : Outcome σ}
    (h : (body state input).goesOn = true)
    (more : Loops body n (body state input).state (body state input).rest outcome) :
    Loops body (n + 1) state input (outcome.behind (body state input).faults)

variable {body : σ → List Lexeme → Round σ} {result : σ → List Lexeme → Outcome σ}

/-- **A round ends the loop or takes a lexeme.** -/
def Progresses (body : σ → List Lexeme → Round σ) : Prop :=
  ∀ state input, (body state input).rest <:+ input ∧
    ((body state input).goesOn = true → (body state input).rest.length < input.length)

/-- The result is the one of a single round, or of a round and the loop behind it. -/
def Unrolls (body : σ → List Lexeme → Round σ) (result : σ → List Lexeme → Outcome σ) : Prop :=
  ∀ state input, result state input =
    if (body state input).goesOn = true then
      (result (body state input).state (body state input).rest).behind (body state input).faults
    else (body state input).outcome

/-- A loop leaves one outcome only. -/
theorem Loops.unique {n m : Nat} {state : σ} {input : List Lexeme} {outcome outcome' : Outcome σ}
    (h : Loops body n state input outcome) (h' : Loops body m state input outcome') :
    n = m ∧ outcome = outcome' := by
  induction h generalizing m outcome' with
  | stop hstop =>
      cases h' with
      | stop => exact ⟨rfl, rfl⟩
      | again hagain => exact absurd (hstop.symm.trans hagain) Bool.false_ne_true
  | again hagain _ ih =>
      cases h' with
      | stop hstop => exact absurd (hstop.symm.trans hagain) Bool.false_ne_true
      | again _ more =>
          obtain ⟨rfl, rfl⟩ := ih more
          exact ⟨rfl, rfl⟩

/-- A loop that progresses comes to an end, after at most one round for each lexeme and one more. -/
theorem exists_loops (hprogress : Progresses body) (hunroll : Unrolls body result) (state : σ)
    (input : List Lexeme) :
    ∃ n ≤ input.length + 1, Loops body n state input (result state input) := by
  -- the induction is on the number of lexemes, which every round but the last one makes smaller
  induction hlength : input.length using Nat.strong_induction_on generalizing state input with
  | _ length ih =>
    rw [hunroll state input]
    by_cases h : (body state input).goesOn = true
    · have hshorter : (body state input).rest.length < length := hlength ▸ (hprogress state input).2 h
      obtain ⟨n, hn, hloops⟩ := ih _ hshorter (body state input).state (body state input).rest rfl
      rw [if_pos h]
      exact ⟨n + 1, by omega, .again h hloops⟩
    · rw [if_neg h]
      exact ⟨1, by omega, .stop (Bool.eq_false_iff.2 h)⟩

/-- **The loop comes to an end wherever it starts, and what it leaves is the result.** -/
structure Runs (body : σ → List Lexeme → Round σ) (result : σ → List Lexeme → Outcome σ) : Prop where
  progresses : Progresses body
  ends : ∀ state input, ∃ n ≤ input.length + 1, Loops body n state input (result state input)
  outcome_eq : ∀ {n state input outcome}, Loops body n state input outcome →
    n ≤ input.length + 1 ∧ outcome = result state input

theorem runs_of_unrolls (hprogress : Progresses body) (hunroll : Unrolls body result) :
    Runs body result := by
  refine ⟨hprogress, exists_loops hprogress hunroll, ?_⟩
  intro n state input outcome h
  obtain ⟨m, hm, h'⟩ := exists_loops hprogress hunroll state input
  obtain ⟨rfl, rfl⟩ := h.unique h'
  exact ⟨hm, rfl⟩

end Loops

/-! ## The bodies -/

variable (space operator tag : String)

/-- What is done behind an argument: a comma is passed, the end and a closing parenthesis are left for the next
round, and anything else is a fault and passed. -/
def behindArgument (before : List Expression) {start : List Lexeme} (first : Parsed Expression start) :
    Round (List Expression) :=
  match afterBlanks first.rest with
  | [] => ⟨before ++ [first.value], [], first.faults, true⟩
  | ⟨.rightParen, text⟩ :: rest =>
    ⟨before ++ [first.value], ⟨.rightParen, text⟩ :: rest, first.faults, true⟩
  | ⟨.comma, _⟩ :: rest => ⟨before ++ [first.value], rest, first.faults, true⟩
  | ⟨_, text⟩ :: rest =>
    ⟨before ++ [first.value], rest,
      first.faults ++ [.parameterTerminator operator (String.ofList (text.take 1))], true⟩

/-- A round of the arguments. -/
def argumentRound (before : List Expression) (input : List Lexeme) : Round (List Expression) :=
  match afterBlanks input with
  | [] => ⟨before, [], [.parameterTerminator operator ""], false⟩
  | ⟨.rightParen, _⟩ :: rest => ⟨before, rest, [], false⟩
  | ⟨.comma, _⟩ :: rest => ⟨before ++ [.null], rest, [], true⟩
  | start => behindArgument operator before (expression space start)

/-- A round of the steps. -/
def stepRound (before : List Attribute) (input : List Lexeme) : Round (List Attribute) :=
  match input with
  | ⟨.dot, _⟩ :: rest =>
    ⟨before ++ [(step space rest).value], (step space rest).rest, (step space rest).faults, true⟩
  | ⟨.leftBracket, _⟩ :: rest =>
    let close := closeIndex (step space rest).rest
    ⟨before ++ [(step space rest).value], close.rest, (step space rest).faults ++ close.faults, true⟩
  | input => ⟨before, input, [], false⟩

/-- A round of the operators. -/
def operatorRound (before : List Operator) (input : List Lexeme) : Round (List Operator) :=
  match input with
  | ⟨.pipe, _⟩ :: rest =>
    let list := invocation space (identifier rest) (afterIdentifier rest)
    ⟨before ++ [⟨identifier rest, list.value⟩], list.rest, list.faults, true⟩
  | input => ⟨before, input, [], false⟩

/-- A round of the parameters. -/
def parameterRound (before : Arguments) (input : List Lexeme) : Round Arguments :=
  match input with
  | [] => ⟨before, [], [], false⟩
  | first :: behind =>
    if !isBlank first then
      ⟨before, first :: behind, [.expectedWhitespace (Lexeme.textOf (first :: behind))], false⟩
    else
      match afterIdentifier (afterBlanks (first :: behind)) with
      | [] => ⟨before, [], [], false⟩
      | next :: rest =>
        let name := identifier (afterBlanks (first :: behind))
        if name = "" ∨ next.token ≠ .equals then
          ⟨before, next :: rest, [.invalidParameter tag (Lexeme.textOf (next :: rest))], false⟩
        else
          let value := expression space rest
          ⟨before.set name value.value, value.rest, value.faults, true⟩

/-! ## Arguments -/

section

variable {operator : String} (before : List Expression) {start rest : List Lexeme}
  {first : Parsed Expression start} {text : List Char}

theorem behindArgument_end (h : afterBlanks first.rest = []) :
    behindArgument operator before first = ⟨before ++ [first.value], [], first.faults, true⟩ := by
  simp only [behindArgument, h]

theorem behindArgument_paren (h : afterBlanks first.rest = ⟨.rightParen, text⟩ :: rest) :
    behindArgument operator before first =
      ⟨before ++ [first.value], ⟨.rightParen, text⟩ :: rest, first.faults, true⟩ := by
  simp only [behindArgument, h]

theorem behindArgument_comma (h : afterBlanks first.rest = ⟨.comma, text⟩ :: rest) :
    behindArgument operator before first =
      ⟨before ++ [first.value], rest, first.faults, true⟩ := by
  simp only [behindArgument, h]

theorem behindArgument_junk {token : Token} (h : afterBlanks first.rest = ⟨token, text⟩ :: rest)
    (hparen : token ≠ .rightParen) (hcomma : token ≠ .comma) :
    behindArgument operator before first = ⟨before ++ [first.value], rest,
      first.faults ++ [.parameterTerminator operator (String.ofList (text.take 1))], true⟩ := by
  unfold behindArgument
  split
  · next h' => cases h.symm.trans h'
  · next h' =>
    cases h.symm.trans h'
    exact absurd rfl hparen
  · next h' =>
    cases h.symm.trans h'
    exact absurd rfl hcomma
  · next h' =>
    cases h.symm.trans h'
    rfl

end

/-- Behind an argument the loop always goes on. -/
theorem behindArgument_goesOn (before : List Expression) {start : List Lexeme}
    (first : Parsed Expression start) :
    (behindArgument operator before first).goesOn = true := by
  unfold behindArgument
  split
  all_goals rfl

/-- **An argument takes a lexeme, even if the expression is empty.** What is left for the next round is the end or a
closing parenthesis, and the round started with neither. -/
theorem behindArgument_progress (before : List Expression) {start : List Lexeme}
    (first : Parsed Expression start) (hend : start ≠ [])
    (hparen : ∀ text rest, start ≠ ⟨.rightParen, text⟩ :: rest) :
    (behindArgument operator before first).rest <:+ start ∧
      (behindArgument operator before first).rest.length < start.length := by
  have hbehind : afterBlanks first.rest <:+ start := (afterBlanks_suffix _).trans first.suffix
  unfold behindArgument
  split
  · exact ⟨List.nil_suffix, List.length_pos_iff.2 hend⟩
  · next text rest h =>
    rw [h] at hbehind
    -- nothing is passed behind the expression, so the expression itself must have taken something
    refine ⟨hbehind, Nat.lt_of_le_of_ne hbehind.length_le fun hlength => ?_⟩
    exact hparen text rest (hbehind.eq_of_length hlength).symm
  · next h =>
    rw [h] at hbehind
    exact ⟨(List.suffix_cons _ _).trans hbehind, hbehind.length_le⟩
  · next h =>
    rw [h] at hbehind
    exact ⟨(List.suffix_cons _ _).trans hbehind, hbehind.length_le⟩

/-- The arguments with others in front of them. -/
def argumentsFrom (before : List Expression) (input : List Lexeme) : Outcome (List Expression) :=
  ⟨before ++ (arguments space operator input).value, (arguments space operator input).rest,
    (arguments space operator input).faults⟩

section

variable {space operator : String} (before : List Expression) {input rest : List Lexeme}
  {text : List Char}

theorem argumentsFrom_end (h : afterBlanks input = []) :
    argumentsFrom space operator before input = ⟨before, [], [.parameterTerminator operator ""]⟩ := by
  rw [argumentsFrom, arguments]
  split
  · simp
  · next h' => cases h.symm.trans h'
  · next h' => cases h.symm.trans h'
  · next hne _ _ => exact absurd h hne

theorem argumentsFrom_paren (h : afterBlanks input = ⟨.rightParen, text⟩ :: rest) :
    argumentsFrom space operator before input = ⟨before, rest, []⟩ := by
  rw [argumentsFrom, arguments]
  split
  · next h' => cases h.symm.trans h'
  · next h' =>
    cases h.symm.trans h'
    simp
  · next h' => cases h.symm.trans h'
  · next hne _ => exact absurd h (hne _ _)

theorem argumentsFrom_comma (h : afterBlanks input = ⟨.comma, text⟩ :: rest) :
    argumentsFrom space operator before input = argumentsFrom space operator (before ++ [.null]) rest := by
  rw [argumentsFrom, arguments]
  split
  · next h' => cases h.symm.trans h'
  · next h' => cases h.symm.trans h'
  · next h' =>
    cases h.symm.trans h'
    simp [argumentsFrom]
  · next hne => exact absurd h (hne _ _)

/-- Lexemes that start an argument, behind white space. -/
structure StartsArgument (input : List Lexeme) : Prop where
  not_end : afterBlanks input ≠ []
  not_paren : ∀ text rest, afterBlanks input ≠ ⟨.rightParen, text⟩ :: rest
  not_comma : ∀ text rest, afterBlanks input ≠ ⟨.comma, text⟩ :: rest

theorem argumentsFrom_start (h : StartsArgument input) :
    let round := behindArgument operator before (expression space (afterBlanks input))
    argumentsFrom space operator before input =
      (argumentsFrom space operator round.state round.rest).behind round.faults := by
  intro round
  rw [argumentsFrom, arguments]
  split
  · next h' => exact absurd h' h.not_end
  · next h' => exact absurd h' (h.not_paren _ _)
  · next h' => exact absurd h' (h.not_comma _ _)
  · dsimp only
    split
    · -- the reader is done at once; the loop has one more round, which finds the end
      next h' =>
      have hround : round = _ := behindArgument_end before h'
      rw [hround, argumentsFrom_end _ rfl]
      rfl
    · -- and here the parenthesis
      next text rest h' =>
      have hround : round = _ := behindArgument_paren before h'
      rw [hround, argumentsFrom_paren _ (rfl : afterBlanks (⟨.rightParen, text⟩ :: rest) = _)]
      simp [Outcome.behind]
    · next h' =>
      have hround : round = _ := behindArgument_comma before h'
      rw [hround, argumentsFrom]
      simp [Outcome.behind]
    · next hparen hcomma h' =>
      have hround : round = _ := behindArgument_junk before h' hparen hcomma
      rw [hround, argumentsFrom]
      simp [Outcome.behind]

end

theorem unrolls_arguments : Unrolls (argumentRound space operator) (argumentsFrom space operator) := by
  intro before input
  unfold argumentRound
  split
  · next h => exact argumentsFrom_end before h
  · next h => exact argumentsFrom_paren before h
  · next h =>
    rw [if_pos rfl, argumentsFrom_comma before h]
    rfl
  · next hend hparen hcomma =>
    have hstart : StartsArgument input := ⟨hend, hparen, hcomma⟩
    rw [if_pos (behindArgument_goesOn operator before _)]
    exact argumentsFrom_start before hstart

theorem progresses_arguments : Progresses (argumentRound space operator) := by
  intro before input
  have hblanks := afterBlanks_suffix input
  unfold argumentRound
  split
  · exact ⟨List.nil_suffix, fun h => absurd h Bool.false_ne_true⟩
  · next h =>
    rw [h] at hblanks
    exact ⟨(List.suffix_cons _ _).trans hblanks, fun h => absurd h Bool.false_ne_true⟩
  · next h =>
    rw [h] at hblanks
    exact ⟨(List.suffix_cons _ _).trans hblanks, fun _ => hblanks.length_le⟩
  · next hend hparen _ =>
    obtain ⟨hsuffix, hlength⟩ := behindArgument_progress operator before
      (expression space (afterBlanks input)) hend hparen
    exact ⟨hsuffix.trans hblanks, fun _ => Nat.lt_of_lt_of_le hlength hblanks.length_le⟩

/-! ## Steps and operators -/

/-- The steps with others in front of them. -/
def stepsFrom (before : List Attribute) (input : List Lexeme) : Outcome (List Attribute) :=
  ⟨before ++ (steps space input).value, (steps space input).rest, (steps space input).faults⟩

/-- The operators with others in front of them. -/
def operatorsFrom (before : List Operator) (input : List Lexeme) : Outcome (List Operator) :=
  ⟨before ++ (operators space input).value, (operators space input).rest, (operators space input).faults⟩

theorem unrolls_steps : Unrolls (stepRound space) (stepsFrom space) := by
  intro before input
  unfold stepRound
  split
  · rw [if_pos rfl, stepsFrom, steps]
    simp [stepsFrom, Outcome.behind]
  · rw [if_pos rfl, stepsFrom, steps]
    simp [stepsFrom, Outcome.behind]
  · next hdot hbracket =>
    rw [if_neg Bool.false_ne_true, stepsFrom, steps]
    · simp [Round.outcome]
    · exact hdot
    · exact hbracket

theorem progresses_steps : Progresses (stepRound space) := by
  intro before input
  unfold stepRound
  split
  · next rest =>
    have hrest := (step space rest).suffix
    exact ⟨hrest.trans (List.suffix_cons _ _), fun _ => Nat.lt_succ_of_le hrest.length_le⟩
  · next rest =>
    have hrest := (closeIndex (step space rest).rest).suffix.trans (step space rest).suffix
    exact ⟨hrest.trans (List.suffix_cons _ _), fun _ => Nat.lt_succ_of_le hrest.length_le⟩
  · exact ⟨List.suffix_rfl, fun h => absurd h Bool.false_ne_true⟩

theorem unrolls_operators : Unrolls (operatorRound space) (operatorsFrom space) := by
  intro before input
  unfold operatorRound
  split
  · rw [if_pos rfl, operatorsFrom, operators]
    simp [operatorsFrom, Outcome.behind]
  · next hpipe =>
    rw [if_neg Bool.false_ne_true, operatorsFrom, operators]
    · simp [Round.outcome]
    · exact hpipe

theorem progresses_operators : Progresses (operatorRound space) := by
  intro before input
  unfold operatorRound
  split
  · next rest =>
    have hrest := (invocation space (identifier rest) (afterIdentifier rest)).suffix.trans
      (afterIdentifier_suffix rest)
    exact ⟨hrest.trans (List.suffix_cons _ _), fun _ => Nat.lt_succ_of_le hrest.length_le⟩
  · exact ⟨List.suffix_rfl, fun h => absurd h Bool.false_ne_true⟩

/-! ## Parameters -/

/-- The parameters, added to those read before. -/
def parametersFrom (before : Arguments) (input : List Lexeme) : Outcome Arguments :=
  ⟨(parameters space tag input before).value, (parameters space tag input before).rest,
    (parameters space tag input before).faults⟩

section

variable {space tag : String} (before : Arguments) {first next : Lexeme} {behind rest : List Lexeme}

theorem parametersFrom_nil : parametersFrom space tag before [] = ⟨before, [], []⟩ := by
  rw [parametersFrom, parameters]

theorem parametersFrom_unspaced (hblank : isBlank first = false) :
    parametersFrom space tag before (first :: behind) =
      ⟨before, first :: behind, [.expectedWhitespace (Lexeme.textOf (first :: behind))]⟩ := by
  rw [parametersFrom, parameters, if_pos (by simp [hblank])]

/-- White space, and a name or none, at the very end. -/
theorem parametersFrom_end (hblank : isBlank first = true)
    (hend : afterIdentifier (afterBlanks (first :: behind)) = []) :
    parametersFrom space tag before (first :: behind) = ⟨before, [], []⟩ := by
  rw [parametersFrom, parameters, if_neg (by simp [hblank])]
  dsimp only
  split
  · rfl
  · next h => cases hend.symm.trans h

/-- White space without a name behind it, or with a name and no equals sign. -/
theorem parametersFrom_invalid (hblank : isBlank first = true)
    (hnext : afterIdentifier (afterBlanks (first :: behind)) = next :: rest)
    (hinvalid : identifier (afterBlanks (first :: behind)) = "" ∨ next.token ≠ .equals) :
    parametersFrom space tag before (first :: behind) =
      ⟨before, next :: rest, [.invalidParameter tag (Lexeme.textOf (next :: rest))]⟩ := by
  rw [parametersFrom, parameters, if_neg (by simp [hblank])]
  dsimp only
  split
  · next h => cases hnext.symm.trans h
  · next h =>
    cases hnext.symm.trans h
    rw [if_pos hinvalid]

/-- White space, a name, an equals sign and an expression: the parameters that follow are read as if the one that
they make had been there before. -/
theorem parametersFrom_value (hblank : isBlank first = true)
    (hnext : afterIdentifier (afterBlanks (first :: behind)) = next :: rest)
    (hvalid : ¬ (identifier (afterBlanks (first :: behind)) = "" ∨ next.token ≠ .equals)) :
    parametersFrom space tag before (first :: behind) =
      (parametersFrom space tag
        (before.set (identifier (afterBlanks (first :: behind))) (expression space rest).value)
        (expression space rest).rest).behind (expression space rest).faults := by
  rw [parametersFrom, parameters, if_neg (by simp [hblank])]
  dsimp only
  split
  · next h => cases hnext.symm.trans h
  · next h =>
    cases hnext.symm.trans h
    rw [if_neg hvalid]
    rfl

end

theorem unrolls_parameters : Unrolls (parameterRound space tag) (parametersFrom space tag) := by
  intro before input
  unfold parameterRound
  split
  · exact parametersFrom_nil before
  split
  · next hblank => exact parametersFrom_unspaced before (by simpa using hblank)
  · next hblank =>
    rw [Bool.not_eq_true, Bool.not_eq_false'] at hblank
    split
    · next hend => exact parametersFrom_end before hblank hend
    · next hnext =>
      dsimp only
      split
      · next hinvalid => exact parametersFrom_invalid before hblank hnext hinvalid
      · next hvalid => exact parametersFrom_value before hblank hnext hvalid

theorem progresses_parameters : Progresses (parameterRound space tag) := by
  intro before input
  unfold parameterRound
  split
  · exact ⟨List.suffix_rfl, fun h => absurd h Bool.false_ne_true⟩
  split
  · exact ⟨List.suffix_rfl, fun h => absurd h Bool.false_ne_true⟩
  split
  · exact ⟨List.nil_suffix, fun h => absurd h Bool.false_ne_true⟩
  · next first behind _ _ next rest h =>
    have hrest : next :: rest <:+ first :: behind :=
      h ▸ (afterIdentifier_suffix _).trans (afterBlanks_suffix _)
    dsimp only
    split
    · exact ⟨hrest, fun h => absurd h Bool.false_ne_true⟩
    · have hvalue := (expression space rest).suffix
      refine ⟨hvalue.trans ((List.suffix_cons _ _).trans hrest), fun _ => ?_⟩
      exact Nat.lt_of_le_of_lt hvalue.length_le hrest.length_le

/-! ## All loops come to an end -/

theorem runs_arguments : Runs (argumentRound space operator) (argumentsFrom space operator) :=
  runs_of_unrolls (progresses_arguments space operator) (unrolls_arguments space operator)

theorem runs_steps : Runs (stepRound space) (stepsFrom space) :=
  runs_of_unrolls (progresses_steps space) (unrolls_steps space)

theorem runs_operators : Runs (operatorRound space) (operatorsFrom space) :=
  runs_of_unrolls (progresses_operators space) (unrolls_operators space)

theorem runs_parameters : Runs (parameterRound space tag) (parametersFrom space tag) :=
  runs_of_unrolls (progresses_parameters space tag) (unrolls_parameters space tag)

end TextTemplate.Parser
