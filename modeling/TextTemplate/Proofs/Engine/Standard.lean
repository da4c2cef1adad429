import TextTemplate.Engine
import TextTemplate.Proofs.Node.Nesting

set_option autoImplicit false

/-! # Standard engines

A standard engine has three tags and the built-in operators, all of them with live handlers and fixed
flags (`Registry.Standard`). So no question changes its registry, and parsing, which only asks whether
tags have children, leaves it as it was but for what it records (`parse_of_standard`). -/

namespace TextTemplate

namespace Registry

/-- **The handlers are those of a standard engine.** The literal tags and the loaders may be any. -/
structure Standard (registry : Registry) : Prop where
  functions_eq : registry.functions = Engine.standardRegistry.functions
  operators_eq : registry.operators = Engine.standardRegistry.operators
  childFlags_eq : registry.childFlags = Engine.standardRegistry.childFlags

theorem standard_standardRegistry : Engine.standardRegistry.Standard := ⟨rfl, rfl, rfl⟩

/-- The tags `ldelim`, `rdelim` and `include` are bound to their handlers, and no other tag is bound. -/
theorem function_of_standard {registry : Registry} (h : registry.Standard) (name : String) :
    registry.function name =
      if "ldelim" = name ∨ "rdelim" = name then (.ok ⟨1, .delimiters⟩, registry)
      else if "include" = name then (.ok ⟨2, .templates⟩, registry)
      else (.error (.unregisteredFunction name), registry) := by
  have hslot : registry.functions.get? name =
      if "ldelim" = name then some (.live ⟨1, .delimiters⟩)
      else if "rdelim" = name then some (.live ⟨1, .delimiters⟩)
      else if "include" = name then some (.live ⟨2, .templates⟩) else none := by
    rw [h.functions_eq]
    rfl
  rw [function, hslot]
  by_cases hleft : "ldelim" = name
  · rw [if_pos hleft, if_pos (.inl hleft)]
  · by_cases hright : "rdelim" = name
    · rw [if_neg hleft, if_pos hright, if_pos (.inr hright)]
    · rw [if_neg hleft, if_neg hright, if_neg (not_or.2 ⟨hleft, hright⟩)]
      by_cases hinclude : "include" = name
      · rw [if_pos hinclude, if_pos hinclude]
      · rw [if_neg hinclude, if_neg hinclude]

/-- **A tag of a standard engine** writes a delimiter or includes a template, or is unknown. -/
theorem exists_function_of_standard (name : String) :
    ∃ result, (∀ registry : Registry, registry.Standard →
        registry.function name = (result, registry)) ∧
      (result = .error (.unregisteredFunction name) ∨
        ∃ handler, result = .ok handler ∧
          (handler.handler = .delimiters ∨ handler.handler = .templates)) := by
  by_cases hdelimiter : "ldelim" = name ∨ "rdelim" = name
  · refine ⟨.ok ⟨1, .delimiters⟩, fun registry h => ?_, .inr ⟨_, rfl, .inl rfl⟩⟩
    rw [function_of_standard h, if_pos hdelimiter]
  · by_cases hinclude : "include" = name
    · refine ⟨.ok ⟨2, .templates⟩, fun registry h => ?_, .inr ⟨_, rfl, .inr rfl⟩⟩
      rw [function_of_standard h, if_neg hdelimiter, if_pos hinclude]
    · refine ⟨.error (.unregisteredFunction name), fun registry h => ?_, .inl rfl⟩
      rw [function_of_standard h, if_neg hdelimiter, if_neg hinclude]

theorem function_include_of_standard {registry : Registry} (h : registry.Standard) :
    registry.function "include" = (.ok ⟨2, .templates⟩, registry) := by
  rw [function_of_standard h, if_neg (by decide), if_pos rfl]

/-- The names of the built-in operators are bound to their handler, and no other name is bound. -/
theorem get?_operators_of_standard {registry : Registry} (h : registry.Standard) (name : String) :
    registry.operators.get? name =
      if name ∈ Builtin.all.map Builtin.name then some (.live ⟨0, .builtins⟩) else none := by
  rw [h.operators_eq]
  exact Table.get?_ofList_map_const _ _ _

/-- **An operator of a standard engine** is a built-in one, or unknown. -/
theorem exists_operator_of_standard (name : String) :
    ∃ result, (∀ registry : Registry, registry.Standard →
        registry.operator name = (result, registry)) ∧
      (result = .error (.unregisteredOperator name) ∨
        ∃ handler, result = .ok handler ∧ handler.handler = .builtins) := by
  by_cases hname : name ∈ Builtin.all.map Builtin.name
  · refine ⟨.ok ⟨0, .builtins⟩, fun registry h => ?_, .inr ⟨_, rfl, rfl⟩⟩
    rw [operator, get?_operators_of_standard h, if_pos hname]
  · refine ⟨.error (.unregisteredOperator name), fun registry h => ?_, .inl rfl⟩
    rw [operator, get?_operators_of_standard h, if_neg hname]

variable {registry : Registry}

/-- The tags of a standard engine have no children, and every other tag is taken to have them. -/
theorem hasChildren_of_standard (h : registry.Standard) (name : String) :
    registry.hasChildren name =
      (.ok (decide (name ∉ ["ldelim", "rdelim", "include"])), registry) := by
  have hflag : registry.childFlags.get? name =
      if name ∈ ["ldelim", "rdelim", "include"] then some (.known false) else none := by
    rw [h.childFlags_eq]
    exact Table.get?_ofList_map_const ["ldelim", "rdelim", "include"] (ChildFlag.known false) name
  by_cases hname : name ∈ ["ldelim", "rdelim", "include"]
  · rw [if_pos hname] at hflag
    rw [hasChildren_of_known hflag]
    simp [hname]
  · rw [if_neg hname] at hflag
    have hslot : registry.functions.get? name = none := by
      rw [h.functions_eq]
      have hkeys : name ∉ Engine.standardRegistry.functions.entries.map (·.1) := hname
      exact Table.find?_eq_none_of_not_mem hkeys
    rw [hasChildren_of_none hflag, hslot]
    simp [hname]

/-- Questions leave the registry of a standard engine alone. -/
theorem askedAbout_of_standard (h : registry.Standard) (tags : List String) :
    registry.askedAbout tags = registry := by
  induction tags with
  | nil => rfl
  | cons tag tags ih =>
      rw [askedAbout, List.foldl_cons, hasChildren_of_standard h]
      exact ih

end Registry

namespace Engine

variable {engine engine' : Engine}

/-! ## Parsing -/

/-- **Parsing leaves a standard engine as it was**, but for what it records. -/
theorem parse_of_standard (h : engine.registry.Standard) (text source : String) :
    (engine.parse text source).2 =
      { engine with log := (engine.parse text source).2.log } := by
  obtain ⟨tags, hasked⟩ := Node.exists_askedAbout_build engine.registry ""
    (Element.read (some engine.delimiters) engine.registry.isLiteral text).elements
  rw [Registry.askedAbout_of_standard h] at hasked
  simp only [parse, hasked]

/-- The tree is settled by the text, the delimiters and the registry. -/
theorem parse_congr (hdelimiters : engine.delimiters = engine'.delimiters)
    (hregistry : engine.registry = engine'.registry) (text source : String) :
    (engine.parse text source).1 = (engine'.parse text source).1 := by
  simp only [parse, hdelimiters, hregistry]

/-! ## Loading -/

/-- Loading neither looks at the variables nor changes them. -/
theorem load_with_store (engine : Engine) (store : Store) (uri : String) :
    { engine with store }.load uri =
      ((engine.load uri).1, { (engine.load uri).2 with store }) := by
  simp only [load, cacheKey]
  cases engine.cache.get? ⟨uri, engine.delimiters.left, engine.delimiters.right⟩ with
  | some published => rfl
  | none =>
      cases engine.resources.fetch uri with
      | error problem => rfl
      | ok resource => rfl

theorem store_load (engine : Engine) (uri : String) :
    (engine.load uri).2.store = engine.store :=
  congrArg (·.2.store) (load_with_store engine engine.store uri)

/-- Loading leaves the registry of a standard engine alone. -/
theorem registry_load (h : engine.registry.Standard) (uri : String) :
    (engine.load uri).2.registry = engine.registry := by
  simp only [load, cacheKey]
  cases engine.cache.get? ⟨uri, engine.delimiters.left, engine.delimiters.right⟩ with
  | some published => rfl
  | none =>
      cases engine.resources.fetch uri with
      | error problem => rfl
      | ok resource =>
          show (engine.parse resource.text uri).2.registry = engine.registry
          rw [parse_of_standard h]

/-- The log only grows when a template is loaded. -/
theorem log_load (engine : Engine) (uri : String) : engine.log <+: (engine.load uri).2.log := by
  unfold load
  cases engine.cache.get? (engine.cacheKey uri) with
  | some published => exact List.prefix_rfl
  | none =>
      cases engine.resources.fetch uri with
      | error problem => exact List.prefix_rfl
      | ok resource =>
          show engine.log <+: (engine.parse resource.text uri).2.log
          rw [parse, List.append_assoc]
          exact List.prefix_append _ _

end Engine

end TextTemplate
