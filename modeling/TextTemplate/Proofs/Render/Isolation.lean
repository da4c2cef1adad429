import TextTemplate.Proofs.Render.Relation

set_option autoImplicit false

/-! # Namespaces are isolated

A namespace contains those that are below it: their names are its name, a colon, and more. A
reference goes down from the namespace that is current and never up, and an include may only name a
namespace further down. So what is rendered in a namespace neither reads nor sets a variable of any
other, however deep the includes are nested.

Main statement: `renderNodes_isolated`, for two engines of which nothing is known but that they agree
within the namespace. -/

namespace TextTemplate

/-- The namespace `inner` is the namespace `space` or below it. -/
def Within (space inner : String) : Prop :=
  inner = space ∨ (space ++ ":").toList <+: inner.toList

theorem within_self (space : String) : Within space space := .inl rfl

theorem Within.ne_empty {space inner : String} (h : Within space inner) (hspace : space ≠ "") :
    inner ≠ "" := by
  rcases h with rfl | h
  · exact hspace
  · rintro rfl
    have hlength := h.length_le
    simp at hlength

/-- A reference leads down. -/
theorem Within.resolve {space inner : String} (h : Within space inner) (hspace : space ≠ "")
    (explicit : Option String) : Within space (resolveSpace inner explicit) := by
  cases explicit with
  | none => exact h
  | some explicit =>
      rw [resolveSpace, if_neg (h.ne_empty hspace)]
      have hbelow : (inner ++ ":").toList <+: s!"{inner}:{explicit}".toList :=
        ⟨explicit.toList, by simp [toString]⟩
      rcases h with rfl | h
      · exact .inr hbelow
      · have hinner : inner.toList <+: (inner ++ ":").toList := ⟨[':'], by simp⟩
        exact .inr (h.trans (hinner.trans hbelow))

/-- **The engines differ in variables of other namespaces at most**, and those are still the variables
of `outer` and `outer'`. -/
structure Isolated (space : String) (outer outer' : Store) (engine engine' : Engine) : Prop where
  standard : engine.registry.Standard
  rest_eq : engine' = { engine with store := engine'.store }
  inside : ∀ inner, Within space inner → ∀ name,
    engine.store.get? inner name = engine'.store.get? inner name
  outside : ∀ other, ¬ Within space other → ∀ name,
    engine.store.get? other name = outer.get? other name
  outside' : ∀ other, ¬ Within space other → ∀ name,
    engine'.store.get? other name = outer'.get? other name

variable {space : String} {outer outer' : Store} {engine engine' : Engine}

/-- A change of both engines that has nothing to do with the variables. -/
theorem Isolated.change (h : Isolated space outer outer' engine engine')
    {changed changed' : Engine} (hregistry : changed.registry = engine.registry)
    (hstore : changed.store = engine.store) (hstore' : changed'.store = engine'.store)
    (hrest : changed' = { changed with store := engine'.store }) :
    Isolated space outer outer' changed changed' where
  standard := hregistry ▸ h.standard
  rest_eq := by rw [hstore', hrest]
  inside inner hin name := by rw [hstore, hstore']; exact h.inside inner hin name
  outside other hout name := by rw [hstore]; exact h.outside other hout name
  outside' other hout name := by rw [hstore']; exact h.outside' other hout name

theorem Isolated.setVariable (h : Isolated space outer outer' engine engine') {inner : String}
    (hinner : Within space inner) (name : String) (value : Value) :
    Isolated space outer outer' (engine.setVariable inner name value)
      (engine'.setVariable inner name value) where
  standard := h.standard
  rest_eq := by rw [h.rest_eq]; rfl
  inside other hin other' := by
    simp only [Engine.setVariable, Store.get?_set, h.inside other hin other']
  outside other hout other' := by
    have hne : inner ≠ other := fun heq => hout (heq ▸ hinner)
    simp only [Engine.setVariable, Store.get?_set_of_space_ne _ _ _ _ hne]
    exact h.outside other hout other'
  outside' other hout other' := by
    have hne : inner ≠ other := fun heq => hout (heq ▸ hinner)
    simp only [Engine.setVariable, Store.get?_set_of_space_ne _ _ _ _ hne]
    exact h.outside' other hout other'

theorem congruence_isolated (hspace : space ≠ "") :
    Congruence (Within space) (Isolated space outer outer') where
  resolve h explicit := h.resolve hspace explicit
  standard h := ⟨h.standard, by rw [h.rest_eq]; exact h.standard⟩
  delimiters_eq h := by rw [h.rest_eq]
  get?_eq h hinner name := h.inside _ hinner name
  note h diagnostic := h.change rfl rfl rfl (by rw [h.rest_eq]; rfl)
  setVariable h hinner name value := h.setVariable hinner name value

/-- The engines load the same tree. -/
theorem agree_loadTree (uri : String) :
    Agree (Isolated space outer outer') (loadTree uri) (loadTree uri) := by
  intro engine engine' h
  have hload := Engine.load_with_store engine engine'.store uri
  rw [← h.rest_eq] at hload
  show (engine.load uri).1 = (engine'.load uri).1 ∧
    Isolated space outer outer' (engine.load uri).2 (engine'.load uri).2
  rw [hload]
  have hregistry := Engine.registry_load h.standard uri
  exact ⟨rfl, h.change hregistry (Engine.store_load engine uri) rfl rfl⟩

/-- Whatever is included within the namespace stays within it. -/
theorem agree_renderTemplate_isolated (hspace : space ≠ "") (nesting : Nat) (uri : String)
    {inner : String} (hinner : Within space inner) :
    Agree (Isolated space outer outer') (renderTemplate nesting uri inner)
      (renderTemplate nesting uri inner) := by
  refine (congruence_isolated hspace).agree_renderTemplate (fun uri engine engine' h => ?_) nesting
    uri hinner
  obtain ⟨hresult, hafter⟩ := agree_loadTree uri h
  exact ⟨congrArg _ hresult, hafter⟩

/-- **What is rendered in a namespace is isolated from all others**, includes and all, at whatever
depth. On two standard engines that differ in variables of other namespaces only, it gives the same
output and records the same diagnostics, and the engines still differ in such variables only. Those
are what they were before: none has been set. -/
theorem renderNodes_isolated (hspace : space ≠ "") (nesting : Nat) (nodes : List Node)
    (engine : Engine) (hstandard : engine.registry.Standard) (store' : Store)
    (hagree : ∀ inner, Within space inner → ∀ name,
      engine.store.get? inner name = store'.get? inner name) :
    let rendered := (renderNodes ⟨space, renderTemplate nesting⟩ nodes).run engine
    let rendered' := (renderNodes ⟨space, renderTemplate nesting⟩ nodes).run
      { engine with store := store' }
    rendered.1 = rendered'.1 ∧
      rendered.2.log = rendered'.2.log ∧
      (∀ inner, Within space inner → ∀ name,
        rendered.2.store.get? inner name = rendered'.2.store.get? inner name) ∧
      ∀ other, ¬ Within space other → ∀ name,
        rendered.2.store.get? other name = engine.store.get? other name ∧
          rendered'.2.store.get? other name = store'.get? other name := by
  intro rendered rendered'
  have hstart : Isolated space engine.store store' engine { engine with store := store' } :=
    ⟨hstandard, rfl, hagree, fun _ _ _ => rfl, fun _ _ _ => rfl⟩
  have hcontexts : ContextsAgree (Within space) (Isolated space engine.store store')
      ⟨space, renderTemplate nesting⟩ ⟨space, renderTemplate nesting⟩ :=
    ⟨rfl, within_self space, fun uri _ h => agree_renderTemplate_isolated hspace nesting uri h⟩
  obtain ⟨houtput, hafter⟩ := (congruence_isolated hspace).agree_renderNodes hcontexts nodes hstart
  refine ⟨houtput, ?_, hafter.inside, fun other hout name => ?_⟩
  · exact (congrArg Engine.log hafter.rest_eq).symm
  · exact ⟨hafter.outside other hout name, hafter.outside' other hout name⟩

/-- A standard engine with two templates, the first of which includes the second in a namespace further
down, and with variables in two namespaces. -/
def neighbours : Engine :=
  ((Engine.standard.registerLoader "" (.memory (Table.ofList
    [("outer", "\x7b$x\x7d\x7binclude uri='inner' name='sub' y=$x\x7d"),
      ("inner", "\x7b$y\x7d\x7b$here:z\x7d")]))).setVariable "here" "x" (.integer 1)).setVariable
    "there" "x" (.integer 2)

/-- A change of a variable next door goes unnoticed. -/
theorem renderNodes_isolated_next_door :
    let nodes : List Node :=
      [.function "include" (Table.ofList [("uri", .ofOperand (.text "outer"))]) [] 1]
    let store' := neighbours.store.set "there" "x" .null
    let rendered := (renderNodes ⟨"here", renderTemplate 32⟩ nodes).run neighbours
    let rendered' := (renderNodes ⟨"here", renderTemplate 32⟩ nodes).run
      { neighbours with store := store' }
    "here" ≠ "" ∧ neighbours.registry.Standard ∧
      (∀ inner, Within "here" inner → ∀ name,
        neighbours.store.get? inner name = store'.get? inner name) ∧
      rendered.1 = rendered'.1 ∧
      rendered.2.log = rendered'.2.log ∧
      (∀ inner, Within "here" inner → ∀ name,
        rendered.2.store.get? inner name = rendered'.2.store.get? inner name) ∧
      ∀ other, ¬ Within "here" other → ∀ name,
        rendered.2.store.get? other name = neighbours.store.get? other name ∧
          rendered'.2.store.get? other name = store'.get? other name := by
  intro nodes store' rendered rendered'
  have hne : "here" ≠ "" := by decide
  have hagree : ∀ inner, Within "here" inner → ∀ name,
      neighbours.store.get? inner name = store'.get? inner name := by
    intro inner hinner name
    refine (Store.get?_set_of_space_ne _ _ _ _ ?_).symm
    rintro rfl
    rcases hinner with heq | hbelow
    · exact absurd heq (by decide)
    · exact absurd hbelow (by decide)
  have hstandard : neighbours.registry.Standard := Registry.standard_standardRegistry
  exact ⟨hne, hstandard, hagree,
    renderNodes_isolated hne 32 nodes neighbours hstandard store' hagree⟩

end TextTemplate
