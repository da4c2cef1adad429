import TextTemplate.Evaluate
import TextTemplate.Proofs.Expression.Fault

set_option autoImplicit false

/-! # Default namespaces

A template may be parsed with a default namespace, below which all its references are put. The
parser does that while it reads; here the same is done to an expression that has been read already
(`Expression.inSpace`).

Main statement: `Parser.expression_eq_inSpace`. An expression that is parsed with a default namespace
is the one that is parsed without, moved. Nothing else depends on the default namespace: neither
what is left to be read nor the faults. -/

namespace TextTemplate

/-! ## Namespaces put together -/

/-- The namespace `inner` below the namespace `outer`. The global namespace adds nothing. -/
def joinSpaces (outer inner : String) : String :=
  if outer = "" then inner else if inner = "" then outer else s!"{outer}:{inner}"

/-- What a reference says about its namespace, below a default namespace. -/
def inDefault (space : String) (explicit : Option String) : Option String :=
  if space = "" then explicit else some (resolveSpace space explicit)

@[simp] theorem joinSpaces_empty (outer : String) : joinSpaces outer "" = outer := by
  unfold joinSpaces
  split
  · next h => rw [h]
  · rfl

@[simp] theorem inDefault_empty (explicit : Option String) : inDefault "" explicit = explicit := rfl

/-- **Two ways to the same namespace.** A reference below the default namespace `inner` leads from
`outer` where it leads by itself from `inner` below `outer`. -/
theorem resolveSpace_inDefault (outer inner : String) (explicit : Option String) :
    resolveSpace outer (inDefault inner explicit) = resolveSpace (joinSpaces outer inner) explicit := by
  by_cases hinner : inner = ""
  · rw [hinner, inDefault_empty, joinSpaces_empty]
  · rw [inDefault, if_neg hinner]
    by_cases houter : outer = ""
    · simp only [joinSpaces, if_pos houter, resolveSpace]
    · -- both are there, so the colon between them is there on either way
      have hjoin : joinSpaces outer inner ≠ "" := by
        simp [joinSpaces, houter, hinner, toString]
      cases explicit with
      | none => simp [joinSpaces, resolveSpace, houter, hinner]
      | some explicit =>
          rw [resolveSpace, if_neg houter, resolveSpace, if_neg hinner, resolveSpace, if_neg hjoin,
            joinSpaces, if_neg houter, if_neg hinner]
          simp [toString, String.append_assoc]

/-! ## Moving expressions -/

mutual

/-- The expression with all its references below a default namespace. -/
def Expression.inSpace (space : String) : Expression → Expression
  | ⟨operand, operators⟩ => ⟨operand.inSpace space, Operator.allInSpace space operators⟩

/-- A chain of operators with all references below a default namespace. -/
def Operator.allInSpace (space : String) : List Operator → List Operator
  | [] => []
  | ⟨name, arguments⟩ :: rest =>
    ⟨name, Expression.allInSpace space arguments⟩ :: Operator.allInSpace space rest

/-- Expressions with all references below a default namespace. -/
def Expression.allInSpace (space : String) : List Expression → List Expression
  | [] => []
  | expression :: rest => expression.inSpace space :: Expression.allInSpace space rest

/-- The operand with all its references below a default namespace. -/
def Operand.inSpace (space : String) : Operand → Operand
  | .reference ⟨explicit, name, attributes⟩ =>
    .reference ⟨inDefault space explicit, name, Attribute.allInSpace space attributes⟩
  | operand => operand

/-- The step with all its references below a default namespace. -/
def Attribute.inSpace (space : String) : Attribute → Attribute
  | .key name => .key name
  | .index digits => .index digits
  | .computed expression => .computed (expression.inSpace space)

/-- Steps with all references below a default namespace. -/
def Attribute.allInSpace (space : String) : List Attribute → List Attribute
  | [] => []
  | step :: rest => step.inSpace space :: Attribute.allInSpace space rest

end

mutual

/-- The empty default namespace changes nothing. -/
theorem Expression.inSpace_empty :
    ∀ expression : Expression, Expression.inSpace "" expression = expression
  | ⟨operand, operators⟩ => by
      rw [Expression.inSpace, Operand.inSpace_empty operand, Operator.allInSpace_empty operators]

theorem Operator.allInSpace_empty :
    ∀ operators : List Operator, Operator.allInSpace "" operators = operators
  | [] => by rw [Operator.allInSpace]
  | ⟨name, arguments⟩ :: rest => by
      rw [Operator.allInSpace, Expression.allInSpace_empty arguments,
        Operator.allInSpace_empty rest]

theorem Expression.allInSpace_empty :
    ∀ expressions : List Expression, Expression.allInSpace "" expressions = expressions
  | [] => by rw [Expression.allInSpace]
  | expression :: rest => by
      rw [Expression.allInSpace, Expression.inSpace_empty expression,
        Expression.allInSpace_empty rest]

theorem Operand.inSpace_empty : ∀ operand : Operand, Operand.inSpace "" operand = operand
  | .reference ⟨explicit, name, attributes⟩ => by
      rw [Operand.inSpace, inDefault_empty, Attribute.allInSpace_empty attributes]
  | .text _ | .number _ | .null | .word _ | .call => by simp only [Operand.inSpace]

theorem Attribute.inSpace_empty : ∀ step : Attribute, Attribute.inSpace "" step = step
  | .computed expression => by rw [Attribute.inSpace, Expression.inSpace_empty expression]
  | .key _ | .index _ => by simp only [Attribute.inSpace]

theorem Attribute.allInSpace_empty :
    ∀ steps : List Attribute, Attribute.allInSpace "" steps = steps
  | [] => by rw [Attribute.allInSpace]
  | step :: rest => by
      rw [Attribute.allInSpace, Attribute.inSpace_empty step, Attribute.allInSpace_empty rest]

end

/-! ## Parsing with a default namespace -/

/-- The same reading of a value that is changed by `f`. -/
def Parsed.map {α β : Type} {input : List Lexeme} (f : α → β) (parsed : Parsed α input) :
    Parsed β input :=
  ⟨f parsed.value, parsed.rest, parsed.faults, parsed.suffix⟩

namespace Parser

/-- Only the namespace of a variable depends on the default namespace. -/
theorem path_eq_inDefault (space : String) (lexemes : List Lexeme) :
    path space lexemes = (inDefault space (path "" lexemes).1, (path "" lexemes).2) := by
  simp only [path, inDefault, if_pos]
  split
  · rfl
  · next hspace =>
      split
      · next h => rw [h, resolveSpace, if_neg hspace]
      · next h => rw [h, resolveSpace]

/-- The readers of expressions put every reference that they read below the default namespace, and do
nothing else about it. The cases are those of the readers, one after the other. -/
theorem readers_eq_inSpace (space : String) :
    (∀ input, expression space input = (expression "" input).map (Expression.inSpace space)) ∧
      (∀ operator input, invocation space operator input =
        (invocation "" operator input).map (Expression.allInSpace space)) ∧
      (∀ operator input, arguments space operator input =
        (arguments "" operator input).map (Expression.allInSpace space)) ∧
      (∀ input, operators space input = (operators "" input).map (Operator.allInSpace space)) ∧
      (∀ input, steps space input = (steps "" input).map (Attribute.allInSpace space)) ∧
      (∀ input, step space input = (step "" input).map (Attribute.inSpace space)) := by
  apply expression.mutual_induct ""
  all_goals intros
  case case1 | case2 | case3 | case4 | case5 | case6 =>
    unfold expression
    grind [Parsed.map, Expression.inSpace, Operand.inSpace, path_eq_inDefault, Operator.allInSpace]
  case case7 | case8 =>
    unfold invocation
    grind [Parsed.map, Expression.allInSpace]
  case case9 | case10 | case11 | case12 | case13 | case14 | case15 =>
    -- an empty slot holds no reference
    have hnull : Expression.null.inSpace space = .null := by
      simp only [Expression.null, Expression.ofOperand, Expression.inSpace, Operand.inSpace,
        Operator.allInSpace]
    unfold arguments
    grind [Parsed.map, Expression.allInSpace]
  case case16 | case17 =>
    unfold operators
    grind [Parsed.map, Operator.allInSpace]
  case case18 | case19 | case20 =>
    unfold steps
    grind [Parsed.map, Attribute.allInSpace]
  case case21 | case22 | case23 =>
    unfold step
    grind [Parsed.map, Attribute.inSpace]

/-- **An expression that is parsed with a default namespace is the one that is parsed without**, with
all its references below that namespace. -/
theorem expression_eq_inSpace (space : String) (input : List Lexeme) :
    expression space input = (expression "" input).map (Expression.inSpace space) :=
  (readers_eq_inSpace space).1 input

end Parser

end TextTemplate
