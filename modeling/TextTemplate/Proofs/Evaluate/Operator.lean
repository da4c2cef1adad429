import TextTemplate.Proofs.Evaluate.Invariant

set_option autoImplicit false

/-! # Operators in a chain and in front

A built-in operator may stand behind its operand, `$list|count`, or in front of it, `count($list)`. In
front, nothing flows into the operator and its first argument takes the place of that. The two forms
come to the same (`evaluate_call_eq_chain`), although in one of them the handler is looked up before
the operand is evaluated, and in the other one behind it.

The operator cannot tell the forms apart. It goes by the value that it receives, and in a chain this
may be nothing as well, say because a variable is not set. So a unary operator in a chain refuses
arguments exactly when it receives something or when they are not one (`refusesArguments_iff`). -/

namespace TextTemplate

variable {engine : Engine} {builtin : Builtin}

/-! ## One operator after the other -/

theorem suspend_eq_map (space : String) (arguments : List Expression) :
    suspend space arguments = arguments.map (evaluate space) := by
  induction arguments with
  | nil => rw [suspend, List.map_nil]
  | cons argument rest ih => rw [suspend, ih, List.map_cons]

/-- A chain is applied part by part. -/
theorem applyChain_append (space : String) (before after : List Operator) (value : Value) :
    applyChain space (before ++ after) value =
      applyChain space before value >>= applyChain space after := by
  induction before generalizing value with
  | nil => rw [List.nil_append, applyChain, pure_bind]
  | cons operator before ih =>
      obtain ⟨name, arguments⟩ := operator
      rw [List.cons_append, applyChain, applyChain, bind_assoc]
      exact congrArg _ (funext ih)

/-- What stands in front of the last operators is evaluated first. -/
theorem evaluate_append (space : String) (operand : Operand) (before after : List Operator) :
    evaluate space ⟨operand, before ++ after⟩ =
      evaluate space ⟨operand, before⟩ >>= applyChain space after := by
  rw [evaluate, evaluate, bind_assoc]
  exact congrArg _ (funext fun value => applyChain_append space before after value)

/-- An expression without an operand starts with nothing. -/
theorem evaluate_call (space : String) (operators : List Operator) :
    evaluate space ⟨.call, operators⟩ = applyChain space operators .null := by
  rw [evaluate, evaluateOperand, pure_bind]

/-- The name of a built-in operator leads to that operator. -/
theorem run_applyOperator_builtin (h : engine.registry.StandardOperators) (space : String)
    (builtin : Builtin) (value : Value) (arguments : List (Render Value)) :
    (applyOperator space builtin.name value arguments).run engine =
      (applyBuiltin builtin value arguments).run engine := by
  obtain ⟨id, hslot⟩ := h.builtin builtin
  have hlookup : engine.registry.operator builtin.name =
      (.ok ⟨id, .builtins⟩, engine.registry) := by
    rw [Registry.operator, hslot]
  have hhandler : (operatorHandler? builtin.name).run engine = (some .builtins, engine) := by
    unfold operatorHandler?
    simp only [StateT.run_bind, StateT.run_get, pure_bind, hlookup]
    rfl
  rw [applyOperator, run_bind, hhandler]
  show (applyAction space builtin.name .builtin value arguments).run engine = _
  rw [applyAction, Builtin.ofName?_name]

/-- A built-in operator behind an operand and other operators, with further operators behind it. -/
theorem run_evaluate_builtin (h : engine.registry.StandardOperators) (space : String)
    (operand : Operand) (before : List Operator) (builtin : Builtin) (arguments : List Expression)
    (after : List Operator) :
    let reached := (evaluate space ⟨operand, before⟩).run engine
    (evaluate space ⟨operand, before ++ ⟨builtin.name, arguments⟩ :: after⟩).run engine =
      (applyBuiltin builtin reached.1 (arguments.map (evaluate space)) >>=
        applyChain space after).run reached.2 := by
  intro reached
  -- the operator is still there when the operand has been evaluated
  have hreached : reached.2.registry.StandardOperators := by
    rw [h.registry_evaluate]
    exact h
  rw [evaluate_append, run_bind, applyChain, run_bind, run_applyOperator_builtin hreached,
    suspend_eq_map, run_bind]

/-! ## Both forms come to the same -/

theorem applySettled_of_allows {arguments : List (Render Value)}
    (h : builtin.arity.allows arguments.length = true) (value : Value) :
    applySettled builtin value arguments =
      evaluateAll arguments >>= fun values => pure (builtin.apply value values) := by
  rw [applySettled, if_pos h]

/-- A replacement is picked in the same way whether the value flows in or comes first. -/
theorem Builtin.fallbackOf_null_cons (value : Value) (values : List Value) :
    Builtin.fallbackOf .null (value :: values) = Builtin.fallbackOf value values := by
  have hnull : Value.null.isEmpty = true := rfl
  unfold Builtin.fallbackOf
  rw [List.find?_cons, List.getLastD_cons, hnull]
  cases value.isEmpty with
  | true => rfl
  | false => rfl

/-- **The first argument takes the place of a value that is not there**, if there are as many
arguments left as the operator takes in a chain. -/
theorem applyBuiltin_null_cons {arguments : List (Render Value)}
    (h : builtin.arity.allows arguments.length = true) (first : Render Value) :
    applyBuiltin builtin .null (first :: arguments) =
      first >>= fun value => applyBuiltin builtin value arguments := by
  cases builtin with
  | fallback =>
      -- all arguments are evaluated on both sides, in the same order
      have hmore : Builtin.fallback.arity.allows (first :: arguments).length = true := by
        simp [Builtin.arity, Arity.allows]
      have hsettled : ∀ value arguments, applyBuiltin .fallback value arguments =
          applySettled .fallback value arguments := applyBuiltin_eq .fallback
      simp only [hsettled, applySettled_of_allows h, applySettled_of_allows hmore, evaluateAll,
        bind_assoc, pure_bind, Builtin.apply, Builtin.fallbackOf_null_cons]
  | upcase | downcase | reverse | identity | count =>
      obtain rfl : arguments = [] := List.eq_nil_of_length_eq_zero (of_decide_eq_true h)
      simp only [applyBuiltin_eq, Builtin.arity, Value.isNull, if_true]

/-- A call of a built-in operator does what the operator does behind the first argument. -/
theorem run_evaluate_call (h : engine.registry.StandardOperators) (space : String)
    (first : Expression) {arguments : List Expression}
    (hallows : builtin.arity.allows arguments.length = true) (rest : List Operator) :
    (evaluate space ⟨.call, ⟨builtin.name, first :: arguments⟩ :: rest⟩).run engine =
      (evaluate space ⟨first.operand, first.operators ++ ⟨builtin.name, arguments⟩ :: rest⟩).run
        engine := by
  obtain ⟨operand, operators⟩ := first
  let reached := (evaluate space ⟨operand, operators⟩).run engine
  have hactions : builtin.arity.allows (arguments.map (evaluate space)).length = true := by
    rw [List.length_map, hallows]
  calc (evaluate space
          ⟨.call, ⟨builtin.name, ⟨operand, operators⟩ :: arguments⟩ :: rest⟩).run engine
      = (applyBuiltin builtin .null ((⟨operand, operators⟩ :: arguments).map (evaluate space)) >>=
          applyChain space rest).run engine := by
        rw [evaluate_call, applyChain, run_bind, run_applyOperator_builtin h, suspend_eq_map,
          run_bind]
    _ = (applyBuiltin builtin reached.1 (arguments.map (evaluate space)) >>=
          applyChain space rest).run reached.2 := by
        rw [List.map_cons, applyBuiltin_null_cons hactions, bind_assoc, run_bind]
    _ = (evaluate space ⟨operand, operators ++ ⟨builtin.name, arguments⟩ :: rest⟩).run engine :=
        (run_evaluate_builtin h space operand operators builtin arguments rest).symm

/-- **Call form and chain form come to the same.** Where the operators of a standard engine are, for
every expression and whatever operators follow: a call of a unary built-in operator does what the
operator does behind its argument, and a call of the fallback with more than one argument does what the
fallback does with the others behind the first one. That is, the value is the same and the engines
behind are, with all that was recorded. -/
theorem evaluate_call_eq_chain (engine : Engine) (h : engine.registry.StandardOperators)
    (space : String) (e : Expression) (rest : List Operator) :
    (∀ builtin : Builtin, builtin.arity = .unary →
      (evaluate space ⟨.call, ⟨builtin.name, [e]⟩ :: rest⟩).run engine =
        (evaluate space ⟨e.operand, e.operators ++ ⟨builtin.name, []⟩ :: rest⟩).run engine) ∧
      ∀ arguments : List Expression, arguments ≠ [] →
        (evaluate space ⟨.call, ⟨"default", e :: arguments⟩ :: rest⟩).run engine =
          (evaluate space ⟨e.operand, e.operators ++ ⟨"default", arguments⟩ :: rest⟩).run
            engine := by
  constructor
  · intro builtin hunary
    refine run_evaluate_call h space e ?_ rest
    rw [hunary]
    rfl
  · intro arguments hne
    have hallows : Builtin.fallback.arity.allows arguments.length = true :=
      decide_eq_true (List.length_pos_of_ne_nil hne)
    exact run_evaluate_call h space e hallows rest

/-- An operand with a computed key and an operator of its own, in front and behind. -/
theorem evaluate_call_eq_chain_list :
    let engine := (Engine.standard.setVariable "" "list" (.array [.text "", .text "ab"])).setVariable
      "" "i" (.integer 1)
    let e : Expression := ⟨.reference ⟨none, "list",
      [.computed (.ofOperand (.reference ⟨none, "i", []⟩))]⟩, [⟨"reverse", []⟩]⟩
    let other : Expression := .ofOperand (.reference ⟨none, "none", []⟩)
    let rest : List Operator := [⟨"downcase", []⟩]
    engine.registry.StandardOperators ∧ Builtin.upcase.arity = .unary ∧ [other, e] ≠ [] ∧
      (evaluate "" ⟨.call, ⟨"upcase", [e]⟩ :: rest⟩).run engine =
        (evaluate "" ⟨e.operand, e.operators ++ ⟨"upcase", []⟩ :: rest⟩).run engine ∧
      (evaluate "" ⟨.call, ⟨"default", other :: [other, e]⟩ :: rest⟩).run engine =
        (evaluate "" ⟨other.operand, other.operators ++ ⟨"default", [other, e]⟩ :: rest⟩).run
          engine := by
  intro engine e other rest
  have h : engine.registry.StandardOperators :=
    Registry.standardOperators_of_standard Registry.standard_standardRegistry
  have hne : [other, e] ≠ [] := List.cons_ne_nil _ _
  exact ⟨h, rfl, hne, (evaluate_call_eq_chain engine h "" e rest).1 .upcase rfl,
    (evaluate_call_eq_chain engine h "" other rest).2 [other, e] hne⟩

/-! ## Arguments in a chain -/

theorem applySettled_of_refused {arguments : List (Render Value)}
    (h : builtin.arity.allows arguments.length = false) (value : Value) :
    applySettled builtin value arguments =
      record (.warning builtin.name
        (.argumentCountMismatch builtin.name builtin.arity.text arguments.length)) >>= fun _ =>
          pure value := by
  rw [applySettled, if_neg (by rw [h]; decide)]

/-- **The operator takes no arguments there.** Behind the operand and the operators `before`, with
any operators behind it and with any `count` arguments, it leaves the value as it is, evaluates none
of the arguments, and records that there are so many. -/
def RefusesArguments (engine : Engine) (space : String) (operand : Operand) (before : List Operator)
    (builtin : Builtin) (count : Nat) : Prop :=
  let reached := (evaluate space ⟨operand, before⟩).run engine
  ∀ arguments after, arguments.length = count →
    (evaluate space ⟨operand, before ++ ⟨builtin.name, arguments⟩ :: after⟩).run engine =
      (applyChain space after reached.1).run (reached.2.note
        (.warning builtin.name (.argumentCountMismatch builtin.name "0" count)))

/-- Something that flows in is not replaced, and more than one argument never take its place. -/
theorem applyBuiltin_of_refused (hunary : builtin.arity = .unary) {value : Value}
    {arguments : List (Render Value)} (hne : arguments ≠ [])
    (h : value.isNull = false ∨ arguments.length ≠ 1) :
    applyBuiltin builtin value arguments =
      record (.warning builtin.name
        (.argumentCountMismatch builtin.name "0" arguments.length)) >>= fun _ => pure value := by
  have hrefused : builtin.arity.allows arguments.length = false := by
    rw [hunary]
    exact decide_eq_false (mt List.eq_nil_of_length_eq_zero hne)
  have hsettled : applyBuiltin builtin value arguments = applySettled builtin value arguments := by
    rw [applyBuiltin_eq, hunary]
    split
    · next argument _ =>
        rcases h with h | h
        · rw [if_neg (by rw [h]; decide)]
        · exact absurd rfl h
    · rfl
  rw [hsettled, applySettled_of_refused hrefused, hunary]
  rfl

/-- A single argument takes the place of nothing. -/
theorem applyBuiltin_of_taken (hunary : builtin.arity = .unary) {value : Value}
    (hnull : value.isNull = true) (argument : Render Value) :
    applyBuiltin builtin value [argument] =
      argument >>= fun value => pure (builtin.apply value []) := by
  have hnone : builtin.arity.allows ([] : List (Render Value)).length = true := by
    rw [hunary]
    rfl
  rw [applyBuiltin_eq, hunary]
  dsimp only
  rw [if_pos hnull]
  simp only [applySettled_of_allows hnone, evaluateAll, pure_bind]

/-- **A unary operator in a chain refuses arguments** exactly when it receives something or when they
are not one. If it receives nothing and there is one argument, it takes that as its value, wherever it
stands. -/
theorem refusesArguments_iff (engine : Engine) (h : engine.registry.StandardOperators)
    (space : String) (operand : Operand) (before : List Operator) (builtin : Builtin)
    (hunary : builtin.arity = .unary) (count : Nat) (hcount : count ≠ 0) :
    let reached := (evaluate space ⟨operand, before⟩).run engine
    (RefusesArguments engine space operand before builtin count ↔
        reached.1.isNull = false ∨ count ≠ 1) ∧
      (reached.1.isNull = true → ∀ argument after,
        (evaluate space ⟨operand, before ++ ⟨builtin.name, [argument]⟩ :: after⟩).run engine =
          (evaluate space argument >>= fun value =>
            applyChain space after (builtin.apply value [])).run reached.2) := by
  intro reached
  have htaken : reached.1.isNull = true → ∀ argument after,
      (evaluate space ⟨operand, before ++ ⟨builtin.name, [argument]⟩ :: after⟩).run engine =
        (evaluate space argument >>= fun value =>
          applyChain space after (builtin.apply value [])).run reached.2 := by
    intro hnull argument after
    rw [run_evaluate_builtin h, List.map_singleton, applyBuiltin_of_taken hunary hnull, bind_assoc]
    simp only [pure_bind]
    rfl
  refine ⟨⟨fun hrefuses => ?_, fun hreason arguments after hlength => ?_⟩, htaken⟩
  · -- a text would be taken as the value, and nothing would be recorded
    by_contra hreason
    simp only [not_or, Bool.not_eq_false, not_not] at hreason
    obtain ⟨hnull, rfl⟩ := hreason
    have hliteral : evaluate space (.ofOperand (.text "")) = pure (.text "") := by
      rw [evaluate_ofOperand, evaluateOperand]
    have hrefused := hrefuses [.ofOperand (.text "")] [] rfl
    rw [htaken hnull, hliteral, pure_bind, applyChain, applyChain] at hrefused
    have hlength : reached.2.log.length = reached.2.log.length + 1 :=
      (congrArg (fun result => result.2.log.length) hrefused).trans List.length_append
    omega
  · have hne : arguments.map (evaluate space) ≠ [] := by
      intro hnil
      rw [← hlength, List.map_eq_nil_iff.1 hnil] at hcount
      exact hcount rfl
    have hreason' : reached.1.isNull = false ∨ (arguments.map (evaluate space)).length ≠ 1 := by
      rw [List.length_map, hlength]
      exact hreason
    rw [run_evaluate_builtin h, applyBuiltin_of_refused hunary hne hreason', List.length_map, hlength,
      bind_assoc, run_bind]
    rfl

/-- A text flows into the operator, and so the number behind it is refused. -/
theorem refusesArguments_text :
    let reached := (evaluate "" ⟨.text "abc", []⟩).run Engine.standard
    Engine.standard.registry.StandardOperators ∧ Builtin.upcase.arity = .unary ∧ 1 ≠ 0 ∧
      reached.1.isNull = false ∧ RefusesArguments Engine.standard "" (.text "abc") [] .upcase 1 := by
  intro reached
  have h : Engine.standard.registry.StandardOperators :=
    Registry.standardOperators_of_standard Registry.standard_standardRegistry
  have hvalue : reached.1.isNull = false := by decide +kernel
  exact ⟨h, rfl, by decide, hvalue, (refusesArguments_iff Engine.standard h "" (.text "abc") []
    .upcase rfl 1 (by decide)).1.2 (.inl hvalue)⟩

/-- A variable that is not set gives nothing to the operator, which stands in a chain and takes its
argument all the same. -/
theorem not_refusesArguments_unset :
    let rendered := Engine.standard.renderText "\x7b$none|upcase('x')\x7d"
    ¬ RefusesArguments Engine.standard "" (.reference ⟨none, "none", []⟩) [] .upcase 1 ∧
      rendered.1 = "X" ∧ rendered.2.log = [.warning "" (.undefinedVariable "" "none")] := by
  intro rendered
  refine ⟨fun hrefuses => ?_, by decide +kernel, by decide +kernel⟩
  have hlength := congrArg (fun result => result.2.log.length)
    (hrefuses [.ofOperand (.text "x")] [] rfl)
  exact absurd hlength (by decide +kernel)

end TextTemplate
