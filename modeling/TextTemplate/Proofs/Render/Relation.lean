import Mathlib.Data.List.Forall2
import TextTemplate.Proofs.Engine.Standard
import TextTemplate.Proofs.Expression.DefaultSpace
import TextTemplate.Render

set_option autoImplicit false

/-! # Engines side by side

Two engines render the same nodes. If they are related in some way before, are they related in that
way behind, and is the output the same? Rendering looks at few things of an engine and changes few of
them, so it is enough to ask that of those (`Congruence`).

Main statement: `Congruence.agree_renderNodes`. A relation is kept by rendering on standard engines
if it is kept by recording and by setting variables, and if related engines have the same delimiters
and the same variables. That may be asked of some namespaces only, provided that a reference does not
lead out of them. Including a template is the one thing that is left to the relation at hand, and it
need not be done in the same way on both sides. -/

namespace TextTemplate

variable {α α' β β' : Type} {related : Engine → Engine → Prop}

/-! ## Related actions -/

/-- Started on related engines, the actions have related results and leave related engines. -/
def Relates (related : Engine → Engine → Prop) (results : α → α' → Prop) (action : Render α)
    (action' : Render α') : Prop :=
  ∀ ⦃engine engine' : Engine⦄, related engine engine' →
    results (action.run engine).1 (action'.run engine').1 ∧
      related (action.run engine).2 (action'.run engine').2

/-- Started on related engines, the actions have the same result and leave related engines. -/
abbrev Agree (related : Engine → Engine → Prop) (action action' : Render α) : Prop :=
  Relates related Eq action action'

theorem agree_pure (value : α) : Agree related (pure value) (pure value) :=
  fun _ _ h => ⟨rfl, h⟩

theorem Relates.bind {results : α → α' → Prop} {results' : β → β' → Prop} {action : Render α}
    {action' : Render α'} {next : α → Render β} {next' : α' → Render β'}
    (h : Relates related results action action')
    (hnext : ∀ value value', results value value' →
      Relates related results' (next value) (next' value')) :
    Relates related results' (action >>= next) (action' >>= next') := by
  intro engine engine' hrelated
  obtain ⟨hvalue, hbehind⟩ := h hrelated
  rw [run_bind, run_bind]
  exact hnext _ _ hvalue hbehind

/-- What is done next may be compared value by value if the results are the same. -/
theorem Relates.then {results : β → β' → Prop} {action action' : Render α} {next : α → Render β}
    {next' : α → Render β'} (h : Agree related action action')
    (hnext : ∀ value, Relates related results (next value) (next' value)) :
    Relates related results (action >>= next) (action' >>= next') := by
  refine h.bind ?_
  rintro value _ rfl
  exact hnext value

/-- A change that keeps the relation. -/
theorem agree_modify {change change' : Engine → Engine}
    (h : ∀ engine engine', related engine engine' → related (change engine) (change' engine')) :
    Agree related (modify change) (modify change') :=
  fun engine engine' hrelated => ⟨rfl, h engine engine' hrelated⟩

/-- An action that reads something in which related engines agree. -/
theorem agree_get (view : Engine → α) (next next' : α → Render β)
    (h : ∀ engine engine', related engine engine' → view engine = view engine')
    (hnext : ∀ value, Agree related (next value) (next' value)) :
    Agree related (get >>= fun engine => next (view engine))
      (get >>= fun engine => next' (view engine)) := by
  intro engine engine' hrelated
  have hview := h engine engine' hrelated
  show ((next (view engine)).run engine).1 = ((next' (view engine')).run engine').1 ∧
    related ((next (view engine)).run engine).2 ((next' (view engine')).run engine').2
  rw [← hview]
  exact hnext (view engine) hrelated

theorem run_loadTree (uri : String) (engine : Engine) :
    (loadTree uri).run engine = engine.load uri := rfl

/-! ## Operators -/

/-- What makes a relation between engines one that built-in operators keep: a look-up finds the same
built-in handler in both, or none, and changes neither registry. -/
structure BuiltinsAgree (related : Engine → Engine → Prop) : Prop where
  operator : ∀ {engine engine'}, related engine engine' → ∀ name, ∃ result,
    engine.registry.operator name = (result, engine.registry) ∧
      engine'.registry.operator name = (result, engine'.registry) ∧
      (result = .error (.unregisteredOperator name) ∨
        ∃ handler, result = .ok handler ∧ handler.handler = .builtins)
  note : ∀ {engine engine'}, related engine engine' → ∀ diagnostic,
    related (engine.note diagnostic) (engine'.note diagnostic)

/-- Actions that agree one by one. -/
abbrev AllAgree (related : Engine → Engine → Prop) (actions actions' : List (Render α)) : Prop :=
  List.Forall₂ (Agree related) actions actions'

theorem agree_evaluateAll {arguments arguments' : List (Render Value)}
    (h : AllAgree related arguments arguments') :
    Agree related (evaluateAll arguments) (evaluateAll arguments') := by
  induction h with
  | nil => exact agree_pure []
  | cons hfirst _ ih =>
      refine hfirst.then fun value => ?_
      exact ih.then fun values => agree_pure (value :: values)

/-- What a built-in operator does once it is settled which of the arguments is its value. -/
def applySettled (builtin : Builtin) (value : Value) (arguments : List (Render Value)) :
    Render Value :=
  if builtin.arity.allows arguments.length then do
    let arguments ← evaluateAll arguments
    pure (builtin.apply value arguments)
  else do
    record (.warning builtin.name
      (.argumentCountMismatch builtin.name builtin.arity.text arguments.length))
    pure value

/-- A unary operator that receives nothing takes a single argument as its value. -/
theorem applyBuiltin_eq (builtin : Builtin) (value : Value) (arguments : List (Render Value)) :
    applyBuiltin builtin value arguments =
      match builtin.arity, arguments with
      | .unary, [argument] =>
        if value.isNull then argument >>= fun value => applySettled builtin value []
        else applySettled builtin value arguments
      | _, _ => applySettled builtin value arguments := by
  unfold applyBuiltin applySettled
  cases builtin.arity with
  | atLeast least => rfl
  | unary =>
      match arguments with
      | [] | _ :: _ :: _ => rfl
      | [argument] =>
          dsimp only
          split
          · simp only [pure_bind]
          · rfl

namespace BuiltinsAgree

variable (builtins : BuiltinsAgree related)
include builtins

theorem agree_record (diagnostic : Diagnostic) :
    Agree related (record diagnostic) (record diagnostic) :=
  agree_modify fun _ _ h => builtins.note h diagnostic

/-- The operators are the built-in ones. -/
theorem relates_operatorHandler? (name : String) :
    Relates related (fun handler handler' => handler = handler' ∧
      (handler = none ∨ handler = some .builtins)) (operatorHandler? name)
      (operatorHandler? name) := by
  intro engine engine' hrelated
  obtain ⟨result, hresult, hresult', hcases⟩ := builtins.operator hrelated name
  unfold operatorHandler?
  simp only [StateT.run_bind, StateT.run_get, pure_bind, hresult, hresult']
  rcases hcases with rfl | ⟨handler, rfl, hhandler⟩
  · exact ⟨⟨rfl, .inl rfl⟩, builtins.note hrelated _⟩
  · exact ⟨⟨rfl, .inr (congrArg some hhandler)⟩, hrelated⟩

theorem agree_applySettled (builtin : Builtin) (value : Value)
    {arguments arguments' : List (Render Value)} (h : AllAgree related arguments arguments') :
    Agree related (applySettled builtin value arguments)
      (applySettled builtin value arguments') := by
  unfold applySettled
  rw [h.length_eq]
  split
  · exact (agree_evaluateAll h).then fun values => agree_pure _
  · exact (builtins.agree_record _).then fun _ => agree_pure value

theorem agree_applyBuiltin (builtin : Builtin) (value : Value)
    {arguments arguments' : List (Render Value)} (h : AllAgree related arguments arguments') :
    Agree related (applyBuiltin builtin value arguments)
      (applyBuiltin builtin value arguments') := by
  have hall := builtins.agree_applySettled builtin value h
  rw [applyBuiltin_eq, applyBuiltin_eq]
  cases builtin.arity with
  | atLeast least => exact hall
  | unary =>
      cases h with
      | nil => exact hall
      | cons hfirst hrest =>
          cases hrest with
          | cons _ _ => exact hall
          | nil =>
              dsimp only
              split
              · refine hfirst.then fun value => ?_
                exact builtins.agree_applySettled builtin value .nil
              · exact hall

/-- A built-in operator takes no notice of the namespace. -/
theorem agree_applyOperator (space space' name : String) (value : Value)
    {arguments arguments' : List (Render Value)} (h : AllAgree related arguments arguments') :
    Agree related (applyOperator space name value arguments)
      (applyOperator space' name value arguments') := by
  refine (builtins.relates_operatorHandler? name).bind ?_
  rintro handler _ ⟨rfl, rfl | rfl⟩
  · exact agree_pure value
  · simp only [applyAction]
    cases Builtin.ofName? name with
    | none => exact (builtins.agree_record _).then fun _ => agree_pure value
    | some builtin => exact builtins.agree_applyBuiltin builtin value h

/-! ## Expressions -/

theorem agree_stepInto (value key : Value) {next next' : Value → Render Value}
    (h : ∀ value, Agree related (next value) (next' value)) :
    Agree related (stepInto value key next) (stepInto value key next') := by
  unfold stepInto
  cases value.step key with
  | ok value => exact h value
  | error problem => exact (builtins.agree_record _).then fun _ => agree_pure Value.null

omit builtins

variable {outer inner : String}

/-- Related engines have the same variables wherever a reference leads from `inner` below `outer`. -/
def SameVariables (related : Engine → Engine → Prop) (outer inner : String) : Prop :=
  ∀ ⦃engine engine' : Engine⦄, related engine engine' → ∀ explicit name,
    engine.store.get? (resolveSpace (joinSpaces outer inner) explicit) name =
      engine'.store.get? (resolveSpace (joinSpaces outer inner) explicit) name

mutual

/-- **A default namespace may as well be part of the current one.** An expression with its references
below `inner`, evaluated in `outer`, agrees with the expression evaluated in `inner` below `outer`. -/
theorem agree_evaluate (builtins : BuiltinsAgree related) (h : SameVariables related outer inner) :
    ∀ expression : Expression, Agree related (evaluate outer (expression.inSpace inner))
      (evaluate (joinSpaces outer inner) expression)
  | ⟨operand, operators⟩ => by
      rw [Expression.inSpace, evaluate, evaluate]
      refine (builtins.agree_evaluateOperand h operand).then fun value => ?_
      exact builtins.agree_applyChain h operators value

theorem agree_applyChain (builtins : BuiltinsAgree related) (h : SameVariables related outer inner) :
    ∀ (operators : List Operator) (value : Value),
      Agree related (applyChain outer (Operator.allInSpace inner operators) value)
        (applyChain (joinSpaces outer inner) operators value)
  | [], value => by
      rw [Operator.allInSpace, applyChain, applyChain]
      exact agree_pure value
  | ⟨name, arguments⟩ :: rest, value => by
      rw [Operator.allInSpace, applyChain, applyChain]
      have harguments := builtins.allAgree_suspend h arguments
      refine (builtins.agree_applyOperator _ _ name value harguments).then fun value => ?_
      exact builtins.agree_applyChain h rest value

theorem allAgree_suspend (builtins : BuiltinsAgree related) (h : SameVariables related outer inner) :
    ∀ arguments : List Expression,
      AllAgree related (suspend outer (Expression.allInSpace inner arguments))
        (suspend (joinSpaces outer inner) arguments)
  | [] => by
      rw [Expression.allInSpace, suspend, suspend]
      exact .nil
  | expression :: rest => by
      rw [Expression.allInSpace, suspend, suspend]
      exact .cons (builtins.agree_evaluate h expression) (builtins.allAgree_suspend h rest)

theorem agree_evaluateOperand (builtins : BuiltinsAgree related)
    (h : SameVariables related outer inner) :
    ∀ operand : Operand, Agree related (evaluateOperand outer (operand.inSpace inner))
      (evaluateOperand (joinSpaces outer inner) operand)
  | .text value | .number value | .word value => by
      simp only [Operand.inSpace, evaluateOperand]
      exact agree_pure _
  | .null | .call => by
      simp only [Operand.inSpace, evaluateOperand]
      exact agree_pure _
  | .reference ⟨explicit, name, attributes⟩ => by
      rw [Operand.inSpace, evaluateOperand, evaluateOperand]
      simp only [resolveSpace_inDefault]
      -- the only place where an expression looks at the engine
      refine agree_get
        (fun engine => engine.store.get? (resolveSpace (joinSpaces outer inner) explicit) name)
        (fun value? => match value? with
          | some value => follow outer (Attribute.allInSpace inner attributes) value
          | none => do
            record (.ofRuntime
              (.undefinedVariable (resolveSpace (joinSpaces outer inner) explicit) name))
            pure .null)
        (fun value? => match value? with
          | some value => follow (joinSpaces outer inner) attributes value
          | none => do
            record (.ofRuntime
              (.undefinedVariable (resolveSpace (joinSpaces outer inner) explicit) name))
            pure .null)
        (fun engine engine' hrelated => h hrelated explicit name) fun value? => ?_
      cases value? with
      | some value => exact builtins.agree_follow h attributes value
      | none => exact (builtins.agree_record _).then fun _ => agree_pure Value.null

theorem agree_follow (builtins : BuiltinsAgree related) (h : SameVariables related outer inner) :
    ∀ (attributes : List Attribute) (value : Value),
      Agree related (follow outer (Attribute.allInSpace inner attributes) value)
        (follow (joinSpaces outer inner) attributes value)
  | [], value => by
      rw [Attribute.allInSpace, follow, follow]
      exact agree_pure value
  | .key name :: rest, value => by
      rw [Attribute.allInSpace, Attribute.inSpace, follow, follow]
      exact builtins.agree_stepInto value _ fun next => builtins.agree_follow h rest next
  | .index digits :: rest, value => by
      rw [Attribute.allInSpace, Attribute.inSpace, follow, follow]
      exact builtins.agree_stepInto value _ fun next => builtins.agree_follow h rest next
  | .computed expression :: rest, value => by
      rw [Attribute.allInSpace, Attribute.inSpace, follow, follow]
      refine (builtins.agree_evaluate h expression).then fun key => ?_
      split
      · exact agree_pure Value.null
      · exact builtins.agree_stepInto value key fun next => builtins.agree_follow h rest next

end

end BuiltinsAgree

/-! ## Relations that rendering keeps -/

/-- What makes a relation between standard engines one that evaluating and rendering in the allowed
namespaces keeps. -/
structure Congruence (allowed : String → Prop) (related : Engine → Engine → Prop) : Prop where
  /-- A reference from an allowed namespace leads to an allowed one. -/
  resolve : ∀ {space}, allowed space → ∀ explicit, allowed (resolveSpace space explicit)
  standard : ∀ {engine engine'}, related engine engine' →
    engine.registry.Standard ∧ engine'.registry.Standard
  delimiters_eq : ∀ {engine engine'}, related engine engine' →
    engine.delimiters = engine'.delimiters
  get?_eq : ∀ {engine engine' space}, related engine engine' → allowed space → ∀ name,
    engine.store.get? space name = engine'.store.get? space name
  note : ∀ {engine engine'}, related engine engine' → ∀ diagnostic,
    related (engine.note diagnostic) (engine'.note diagnostic)
  setVariable : ∀ {engine engine' space}, related engine engine' → allowed space → ∀ name value,
    related (engine.setVariable space name value) (engine'.setVariable space name value)

/-- Two contexts with one namespace, which is allowed. Including a template in an allowed namespace
keeps the relation and gives the same output, however each of the contexts does it. -/
structure ContextsAgree (allowed : String → Prop) (related : Engine → Engine → Prop)
    (context context' : Context) : Prop where
  space_eq : context.space = context'.space
  allowed_space : allowed context.space
  templateAt : ∀ uri space, allowed space →
    Agree related (context.templateAt uri space) (context'.templateAt uri space)

namespace Congruence

variable {allowed : String → Prop} {space : String} (cong : Congruence allowed related)
include cong

theorem builtinsAgree : BuiltinsAgree related where
  operator := by
    intro engine engine' hrelated name
    obtain ⟨hstandard, hstandard'⟩ := cong.standard hrelated
    -- one result for all standard engines
    obtain ⟨result, hresult, hcases⟩ := Registry.exists_operator_of_standard name
    exact ⟨result, hresult _ hstandard, hresult _ hstandard', hcases⟩
  note := cong.note

theorem agree_record (diagnostic : Diagnostic) :
    Agree related (record diagnostic) (record diagnostic) :=
  cong.builtinsAgree.agree_record diagnostic

theorem agree_set (h : allowed space) (name : String) (value : Value) :
    Agree related (modify fun engine => engine.setVariable space name value)
      (modify fun engine => engine.setVariable space name value) :=
  agree_modify fun _ _ hrelated => cong.setVariable hrelated h name value

/-- An expression agrees with itself: there is no default namespace here. -/
theorem agree_evaluate (h : allowed space) (expression : Expression) :
    Agree related (evaluate space expression) (evaluate space expression) := by
  have hvariables : BuiltinsAgree.SameVariables related space "" := by
    intro engine engine' hrelated explicit name
    rw [joinSpaces_empty]
    exact cong.get?_eq hrelated (cong.resolve h explicit) name
  have hagree := cong.builtinsAgree.agree_evaluate hvariables expression
  rwa [Expression.inSpace_empty, joinSpaces_empty] at hagree

omit cong

/-! ## Tags -/

/-- The tags of a standard engine write delimiters or include templates. -/
theorem relates_functionHandler? (cong : Congruence allowed related) (name : String) :
    Relates related (fun handler handler' => handler = handler' ∧
      (handler = none ∨ handler = some .delimiters ∨ handler = some .templates))
      (functionHandler? name) (functionHandler? name) := by
  intro engine engine' hrelated
  obtain ⟨hstandard, hstandard'⟩ := cong.standard hrelated
  obtain ⟨result, hresult, hcases⟩ := Registry.exists_function_of_standard name
  unfold functionHandler?
  simp only [StateT.run_bind, StateT.run_get, pure_bind, hresult _ hstandard,
    hresult _ hstandard']
  rcases hcases with rfl | ⟨handler, rfl, hhandler⟩
  · exact ⟨⟨rfl, .inl rfl⟩, cong.note hrelated _⟩
  · refine ⟨⟨rfl, .inr ?_⟩, hrelated⟩
    exact hhandler.imp (congrArg some) (congrArg some)

variable (cong : Congruence allowed related)
include cong

/-- The parameters of an include are bound one after the other, in a namespace that may be used. -/
theorem agree_bindAll (h : allowed space) {arguments : List (String × Render Value)}
    (hagree : ∀ argument ∈ arguments, Agree related argument.2 argument.2) :
    Agree related (Call.bindAll space arguments) (Call.bindAll space arguments) := by
  induction arguments with
  | nil => exact agree_pure ()
  | cons argument rest ih =>
      obtain ⟨name, action⟩ := argument
      have hrest := ih fun other ho => hagree other (List.mem_cons_of_mem _ ho)
      refine Relates.then (hagree _ List.mem_cons_self) fun value => ?_
      exact (cong.agree_set h name value).then fun _ => hrest

variable {context context' : Context}

/-- An include evaluates its parameters and sets variables, all in namespaces that may be used. -/
theorem agree_includeTemplate (h : ContextsAgree allowed related context context') {call call' : Call}
    (hname : call.name = call'.name) (harguments : call.arguments = call'.arguments)
    (hagree : ∀ argument ∈ call.arguments.entries, Agree related argument.2 argument.2) :
    Agree related (call.includeTemplate context) (call'.includeTemplate context') := by
  obtain ⟨hspace, hallowed, htemplate⟩ := h
  have hparameters : ∀ keep space, allowed space → ∀ uri : Value, Agree related
      (Call.bindAll space (call.arguments.entries.filter keep) >>= fun _ =>
        context.templateAt uri.display space)
      (Call.bindAll space (call.arguments.entries.filter keep) >>= fun _ =>
        context'.templateAt uri.display space) := by
    intro keep space hspace uri
    refine Relates.then (cong.agree_bindAll hspace fun argument ha => ?_) fun _ =>
      htemplate uri.display space hspace
    exact hagree argument (List.mem_filter.1 ha).1
  unfold Call.includeTemplate Call.error
  rw [← harguments, ← hname, ← hspace]
  dsimp only
  cases huri : call.arguments.get? "uri" with
  | none => exact (cong.agree_record _).then fun _ => agree_pure ""
  | some uri =>
      refine Relates.then (hagree _ (Table.mem_of_find?_eq_some huri)) fun uri => ?_
      cases hspace : call.arguments.get? "name" with
      | none => exact hparameters _ context.space hallowed uri
      | some name =>
          refine Relates.then (hagree _ (Table.mem_of_find?_eq_some hspace)) fun name => ?_
          exact hparameters _ _ (cong.resolve hallowed (some name.display)) uri

/-- What the tags of a standard engine do. -/
theorem agree_perform (h : ContextsAgree allowed related context context') {call call' : Call}
    (hname : call.name = call'.name) (harguments : call.arguments = call'.arguments)
    (hagree : ∀ argument ∈ call.arguments.entries, Agree related argument.2 argument.2)
    {handler : FunctionHandler} (hhandler : handler = .delimiters ∨ handler = .templates) :
    Agree related (call.perform context handler.action) (call'.perform context' handler.action) := by
  rcases hhandler with rfl | rfl
  · have hperform : ∀ (call : Call) (context : Context),
        call.perform context FunctionHandler.delimiters.action = (get >>= fun engine => pure
          (if call.name = "ldelim" then engine.delimiters.left else engine.delimiters.right)) :=
      fun _ _ => rfl
    rw [hperform, hperform, ← hname]
    exact agree_get Engine.delimiters
      (fun delimiters => pure (if call.name = "ldelim" then delimiters.left else delimiters.right)) _
      (fun _ _ hrelated => cong.delimiters_eq hrelated) fun delimiters => agree_pure _
  · exact cong.agree_includeTemplate h hname harguments hagree

theorem agree_showValue (h : ContextsAgree allowed related context context') (value : Value) :
    Agree related (showValue context value) (showValue context' value) := by
  obtain ⟨hspace, hallowed, htemplate⟩ := h
  unfold showValue
  split
  · split
    · rw [← hspace]
      refine (cong.agree_set hallowed _ _).then fun _ => ?_
      exact htemplate _ _ hallowed
    · exact agree_pure _
  · exact agree_pure _

omit cong

mutual

/-- Rendering a node on related engines gives the same output and leaves related engines. -/
theorem agree_renderNode (cong : Congruence allowed related)
    (h : ContextsAgree allowed related context context') :
    ∀ node : Node, Agree related (renderNode context node) (renderNode context' node)
  | .text content => by
      rw [renderNode, renderNode]
      exact agree_pure content
  | .expression expression line => by
      rw [renderNode, renderNode, ← h.space_eq]
      refine (cong.agree_evaluate h.allowed_space expression).then fun value => ?_
      exact cong.agree_showValue h value
  | .function name arguments children line => by
      rw [renderNode, renderNode, ← h.space_eq]
      refine (cong.relates_functionHandler? name).bind ?_
      rintro handler _ ⟨rfl, rfl | hhandler⟩
      · exact agree_pure ""
      · -- the children are not rendered by these handlers, and the arguments agree with themselves
        obtain ⟨handler', rfl, hhandler'⟩ : ∃ handler', handler = some handler' ∧
            (handler' = .delimiters ∨ handler' = .templates) := by
          rcases hhandler with rfl | rfl
          · exact ⟨_, rfl, .inl rfl⟩
          · exact ⟨_, rfl, .inr rfl⟩
        refine cong.agree_perform h ?_ ?_ (fun argument ha => ?_) hhandler'
        · rfl
        · rfl
        · obtain ⟨⟨key, expression⟩, -, rfl⟩ := List.mem_map.1 ha
          exact cong.agree_evaluate h.allowed_space expression

/-- And so does rendering nodes one after the other. -/
theorem agree_renderNodes (cong : Congruence allowed related)
    (h : ContextsAgree allowed related context context') :
    ∀ nodes : List Node, Agree related (renderNodes context nodes) (renderNodes context' nodes)
  | [] => by
      rw [renderNodes, renderNodes]
      exact agree_pure ""
  | node :: rest => by
      rw [renderNodes, renderNodes]
      refine (cong.agree_renderNode h node).then fun output => ?_
      exact (cong.agree_renderNodes h rest).then fun more => agree_pure (output ++ more)

end

/-- **Templates agree if the loaded trees do**, however deep they are nested. -/
theorem agree_renderTemplate (cong : Congruence allowed related)
    (hload : ∀ uri, Relates related
      (fun result result' => result.map Published.tree = result'.map Published.tree)
      (loadTree uri) (loadTree uri)) (nesting : Nat) (uri : String) {space : String}
    (h : allowed space) :
    Agree related (renderTemplate nesting uri space) (renderTemplate nesting uri space) := by
  -- induction on how deep includes may still be nested, for every namespace that is allowed
  induction nesting generalizing uri space with
  | zero => exact (cong.agree_record _).then fun _ => agree_pure ""
  | succ nesting ih =>
      rw [renderTemplate]
      refine (hload uri).bind ?_
      rintro (problem | published) (problem' | published') htree
      · cases htree
        exact (cong.agree_record _).then fun _ => agree_pure ""
      · cases htree
      · cases htree
      · have hcontexts : ContextsAgree allowed related ⟨space, renderTemplate nesting⟩
            ⟨space, renderTemplate nesting⟩ := ⟨rfl, h, fun uri _ h => ih uri h⟩
        have htree' : published.tree = published'.tree := Except.ok.inj htree
        dsimp only
        rw [htree']
        exact cong.agree_renderNodes hcontexts published'.tree.nodes

end Congruence

end TextTemplate
