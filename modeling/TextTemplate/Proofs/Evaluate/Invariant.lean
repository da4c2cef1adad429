import TextTemplate.Proofs.Render.Relation

set_option autoImplicit false

/-! # What evaluation keeps

Evaluating an expression does three things to an engine: it records problems, it looks operators up,
which may load their handlers, and an operator of the host may set a variable. A property that these
keep is kept by the whole evaluation, whatever the expression and the handlers are
(`EvaluationInvariant.keeps_evaluate`).

The first use of it is for the handlers. If no operator waits for its handler to be loaded, a look-up
loads none, and so evaluation leaves the registry as it is
(`Registry.StandardOperators.registry_evaluate`). This is what lets an operator be looked up before
its operands are evaluated, or after. -/

namespace TextTemplate

variable {α β : Type} {property : Engine → Prop}

/-! ## Invariants -/

/-- The action keeps a property of engines. -/
def Keeps (property : Engine → Prop) (action : Render α) : Prop :=
  ∀ ⦃engine : Engine⦄, property engine → property (action.run engine).2

theorem keeps_pure (value : α) : Keeps property (pure value) := fun _ h => h

theorem Keeps.bind {action : Render α} {next : α → Render β} (h : Keeps property action)
    (hnext : ∀ value, Keeps property (next value)) : Keeps property (action >>= next) := by
  intro engine hengine
  rw [run_bind]
  exact hnext _ (h hengine)

/-- What keeps a property of engines during an evaluation. -/
structure EvaluationInvariant (property : Engine → Prop) : Prop where
  note : ∀ {engine}, property engine → ∀ diagnostic, property (engine.note diagnostic)
  setVariable : ∀ {engine}, property engine → ∀ space name value,
    property (engine.setVariable space name value)
  operator : ∀ {engine}, property engine → ∀ name,
    property { engine with registry := (engine.registry.operator name).2 }

namespace EvaluationInvariant

variable (invariant : EvaluationInvariant property)
include invariant

theorem keeps_record (diagnostic : Diagnostic) : Keeps property (record diagnostic) :=
  fun _ h => invariant.note h diagnostic

theorem keeps_operatorHandler? (name : String) : Keeps property (operatorHandler? name) := by
  intro engine h
  have hlookup := invariant.operator h name
  unfold operatorHandler?
  simp only [StateT.run_bind, StateT.run_get, pure_bind]
  cases hresult : engine.registry.operator name with
  | mk result registry =>
      rw [hresult] at hlookup
      cases result with
      | ok handler => exact hlookup
      | error problem => exact invariant.note hlookup _

omit invariant in
theorem keeps_evaluateAll {arguments : List (Render Value)}
    (h : ∀ argument ∈ arguments, Keeps property argument) :
    Keeps property (evaluateAll arguments) := by
  induction arguments with
  | nil => exact keeps_pure []
  | cons argument rest ih =>
      have hrest := ih fun other ho => h other (List.mem_cons_of_mem _ ho)
      refine (h argument List.mem_cons_self).bind fun value => ?_
      exact hrest.bind fun values => keeps_pure (value :: values)

theorem keeps_applySettled (builtin : Builtin) (value : Value) {arguments : List (Render Value)}
    (h : ∀ argument ∈ arguments, Keeps property argument) :
    Keeps property (applySettled builtin value arguments) := by
  unfold applySettled
  split
  · exact (keeps_evaluateAll h).bind fun values => keeps_pure _
  · exact (invariant.keeps_record _).bind fun _ => keeps_pure value

theorem keeps_applyBuiltin (builtin : Builtin) (value : Value) {arguments : List (Render Value)}
    (h : ∀ argument ∈ arguments, Keeps property argument) :
    Keeps property (applyBuiltin builtin value arguments) := by
  have hall := invariant.keeps_applySettled builtin value h
  rw [applyBuiltin_eq]
  split
  · next argument _ =>
      split
      · refine (h argument List.mem_cons_self).bind fun value => ?_
        exact invariant.keeps_applySettled builtin value fun _ hnone => absurd hnone List.not_mem_nil
      · exact hall
  · exact hall

/-- The only handlers that do more than evaluate their arguments are those that bind a variable. -/
theorem keeps_applyAction (space name : String) (action : OperatorAction) (value : Value)
    {arguments : List (Render Value)} (h : ∀ argument ∈ arguments, Keeps property argument) :
    Keeps property (applyAction space name action value arguments) := by
  cases action with
  | builtin =>
      simp only [applyAction]
      cases Builtin.ofName? name with
      | none => exact (invariant.keeps_record _).bind fun _ => keeps_pure value
      | some builtin => exact invariant.keeps_applyBuiltin builtin value h
  | describe => exact (keeps_evaluateAll h).bind fun values => keeps_pure _
  | collect => exact (keeps_evaluateAll h).bind fun values => keeps_pure _
  | bind =>
      have hfirst : Keeps property (arguments.headD (pure .null)) := by
        cases arguments with
        | nil => exact keeps_pure Value.null
        | cons argument rest => exact h argument List.mem_cons_self
      refine hfirst.bind fun target => ?_
      have hset : Keeps property
          (modify fun engine => engine.setVariable space target.display value) :=
        fun _ hengine => invariant.setVariable hengine space target.display value
      exact hset.bind fun _ => keeps_pure Value.null
  | suffix _ | shout | arity | json | discard | keep => exact keeps_pure _

theorem keeps_applyOperator (space name : String) (value : Value) {arguments : List (Render Value)}
    (h : ∀ argument ∈ arguments, Keeps property argument) :
    Keeps property (applyOperator space name value arguments) := by
  refine (invariant.keeps_operatorHandler? name).bind fun handler => ?_
  cases handler with
  | none => exact keeps_pure value
  | some handler => exact invariant.keeps_applyAction space name handler.action value h

theorem keeps_stepInto (value key : Value) {next : Value → Render Value}
    (h : ∀ value, Keeps property (next value)) : Keeps property (stepInto value key next) := by
  unfold stepInto
  cases value.step key with
  | ok value => exact h value
  | error problem => exact (invariant.keeps_record _).bind fun _ => keeps_pure Value.null

omit invariant

mutual

/-- **An invariant is kept by evaluating** any expression. -/
theorem keeps_evaluate (invariant : EvaluationInvariant property) (space : String) :
    ∀ expression : Expression, Keeps property (evaluate space expression)
  | ⟨operand, operators⟩ => by
      rw [evaluate]
      refine (invariant.keeps_evaluateOperand space operand).bind fun value => ?_
      exact invariant.keeps_applyChain space operators value

theorem keeps_applyChain (invariant : EvaluationInvariant property) (space : String) :
    ∀ (operators : List Operator) (value : Value), Keeps property (applyChain space operators value)
  | [], value => by
      rw [applyChain]
      exact keeps_pure value
  | ⟨name, arguments⟩ :: rest, value => by
      rw [applyChain]
      have harguments := invariant.keeps_of_mem_suspend space arguments
      refine (invariant.keeps_applyOperator space name value harguments).bind fun value => ?_
      exact invariant.keeps_applyChain space rest value

theorem keeps_of_mem_suspend (invariant : EvaluationInvariant property) (space : String) :
    ∀ (arguments : List Expression), ∀ argument ∈ suspend space arguments, Keeps property argument
  | [] => by
      rw [suspend]
      exact fun _ hnone => absurd hnone List.not_mem_nil
  | expression :: rest => by
      rw [suspend]
      intro argument hargument
      rcases List.mem_cons.1 hargument with rfl | hargument
      · exact invariant.keeps_evaluate space expression
      · exact invariant.keeps_of_mem_suspend space rest argument hargument

theorem keeps_evaluateOperand (invariant : EvaluationInvariant property) (space : String) :
    ∀ operand : Operand, Keeps property (evaluateOperand space operand)
  | .text _ | .number _ | .word _ | .null | .call => by
      rw [evaluateOperand]
      exact keeps_pure _
  | .reference ⟨explicit, name, attributes⟩ => by
      rw [evaluateOperand]
      have hget : Keeps property (get : Render Engine) := fun _ h => h
      refine hget.bind fun engine => ?_
      split
      · exact invariant.keeps_follow space attributes _
      · exact (invariant.keeps_record _).bind fun _ => keeps_pure Value.null

theorem keeps_follow (invariant : EvaluationInvariant property) (space : String) :
    ∀ (attributes : List Attribute) (value : Value), Keeps property (follow space attributes value)
  | [], value => by
      rw [follow]
      exact keeps_pure value
  | .key name :: rest, value => by
      rw [follow]
      exact invariant.keeps_stepInto value _ fun next => invariant.keeps_follow space rest next
  | .index digits :: rest, value => by
      rw [follow]
      exact invariant.keeps_stepInto value _ fun next => invariant.keeps_follow space rest next
  | .computed expression :: rest, value => by
      rw [follow]
      refine (invariant.keeps_evaluate space expression).bind fun key => ?_
      split
      · exact keeps_pure Value.null
      · exact invariant.keeps_stepInto value key fun next => invariant.keeps_follow space rest next

end

end EvaluationInvariant

/-! ## The handlers -/

namespace Registry

/-- **The operators are those of a standard engine**, and maybe others that are ready for use. -/
structure StandardOperators (registry : Registry) : Prop where
  /-- A built-in operator is bound to its own handler. -/
  builtin : ∀ builtin : Builtin, ∃ id,
    registry.operators.get? builtin.name = some (.live ⟨id, .builtins⟩)
  /-- No operator waits for its handler to be loaded. -/
  live : ∀ name slot, registry.operators.get? name = some slot → ∃ handler, slot = .live handler

variable {registry : Registry}

theorem standardOperators_of_standard (h : registry.Standard) : registry.StandardOperators where
  builtin builtin := by
    have hname : builtin.name ∈ Builtin.all.map Builtin.name := by
      cases builtin <;> decide
    exact ⟨0, by rw [get?_operators_of_standard h, if_pos hname]⟩
  live name slot hslot := by
    rw [get?_operators_of_standard h] at hslot
    split at hslot
    · cases hslot
      exact ⟨_, rfl⟩
    · cases hslot

/-- A look-up that loads nothing changes nothing. -/
theorem StandardOperators.operator_snd (h : registry.StandardOperators) (name : String) :
    (registry.operator name).2 = registry := by
  unfold operator
  cases hslot : registry.operators.get? name with
  | none => rfl
  | some slot =>
      obtain ⟨handler, rfl⟩ := h.live name slot hslot
      rfl

/-- **Evaluation leaves the registry as it is** if no operator waits for its handler. -/
theorem StandardOperators.registry_evaluate {engine : Engine} (h : engine.registry.StandardOperators)
    (space : String) (expression : Expression) :
    ((evaluate space expression).run engine).2.registry = engine.registry := by
  have hinvariant : EvaluationInvariant fun behind => behind.registry = engine.registry :=
    { note := fun hbehind _ => hbehind
      setVariable := fun hbehind _ _ _ => hbehind
      operator := by
        intro behind hbehind name
        show (behind.registry.operator name).2 = engine.registry
        rw [hbehind, h.operator_snd] }
  exact hinvariant.keeps_evaluate space expression rfl

end Registry

end TextTemplate
