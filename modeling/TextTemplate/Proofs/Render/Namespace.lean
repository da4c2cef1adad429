import TextTemplate.Proofs.Render.Relation

set_option autoImplicit false

/-! # Namespaces at parse time and at render time

The parser puts references below its default namespace, and evaluation puts them below the namespace
that is current. It makes no difference where that is done.

Main statement: `evaluate_default_space`, for every expression and whatever variables are set, as long
as the operators are the built-in ones. An operator of another kind may look at the namespace itself. -/

namespace TextTemplate

/-- **Every operator is a built-in one.** Not all of those need be there. -/
def Registry.BuiltinOperators (registry : Registry) : Prop :=
  ∀ name slot, registry.operators.get? name = some slot → ∃ id, slot = .live ⟨id, .builtins⟩

theorem Registry.builtinOperators_of_standard {registry : Registry} (h : registry.Standard) :
    registry.BuiltinOperators := by
  intro name slot hslot
  rw [get?_operators_of_standard h] at hslot
  split at hslot
  · cases hslot
    exact ⟨0, rfl⟩
  · cases hslot

/-- An engine beside itself, as long as its operators are built-in ones. -/
theorem builtinsAgree_self :
    BuiltinsAgree fun engine engine' => engine = engine' ∧ engine.registry.BuiltinOperators where
  operator := by
    rintro engine _ ⟨rfl, hbuiltin⟩ name
    unfold Registry.operator
    cases hslot : engine.registry.operators.get? name with
    | none => exact ⟨_, rfl, rfl, .inl rfl⟩
    | some slot =>
        obtain ⟨id, rfl⟩ := hbuiltin name slot hslot
        exact ⟨_, rfl, rfl, .inr ⟨_, rfl, rfl⟩⟩
  note := by
    rintro engine _ ⟨rfl, hbuiltin⟩ diagnostic
    exact ⟨rfl, hbuiltin⟩

/-- **The namespace may be given to the parser or to the evaluation.** An expression that is parsed
with the default namespace `inner` and evaluated in the namespace `outer` has the same value and the
same effects, diagnostics included, as one that is parsed without and evaluated in `inner` below
`outer`. It is also read as far and with the same faults. -/
theorem evaluate_default_space (engine : Engine) (h : engine.registry.BuiltinOperators)
    (outer inner text : String) :
    let moved := Parser.expression inner (Token.tokenize text)
    let plain := Parser.expression "" (Token.tokenize text)
    (evaluate outer moved.value).run engine =
        (evaluate (joinSpaces outer inner) plain.value).run engine ∧
      moved.rest = plain.rest ∧ moved.faults = plain.faults := by
  intro moved plain
  have hparse : moved = plain.map (Expression.inSpace inner) :=
    Parser.expression_eq_inSpace inner (Token.tokenize text)
  have hvariables : BuiltinsAgree.SameVariables
      (fun engine engine' => engine = engine' ∧ engine.registry.BuiltinOperators) outer inner := by
    rintro engine _ ⟨rfl, -⟩ explicit name
    rfl
  obtain ⟨hvalue, hbehind, -⟩ :=
    builtinsAgree_self.agree_evaluate hvariables plain.value ⟨rfl, h⟩
  rw [hparse]
  exact ⟨Prod.ext hvalue hbehind, rfl, rfl⟩

/-- A reference in a key, one among the arguments and one that leads nowhere are all moved. -/
theorem evaluate_default_space_page :
    let engine := (Engine.standard.setVariable "page:row" "x" (.array [.text "a", .text "b"])).setVariable
      "page:row:k" "i" (.integer 1)
    let moved := Parser.expression "row" (Token.tokenize "$x[$k:i]|default($y)")
    let plain := Parser.expression "" (Token.tokenize "$x[$k:i]|default($y)")
    engine.registry.BuiltinOperators ∧
      (evaluate "page" moved.value).run engine =
        (evaluate (joinSpaces "page" "row") plain.value).run engine ∧
      moved.rest = plain.rest ∧ moved.faults = plain.faults := by
  intro engine moved plain
  have h : engine.registry.BuiltinOperators :=
    Registry.builtinOperators_of_standard Registry.standard_standardRegistry
  exact ⟨h, evaluate_default_space engine h "page" "row" "$x[$k:i]|default($y)"⟩

end TextTemplate
