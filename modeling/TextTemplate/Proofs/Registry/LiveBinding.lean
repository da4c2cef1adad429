import TextTemplate.Proofs.Registry.Autoload

set_option autoImplicit false

/-! # What a lookup does to other names

A lookup should change nothing but the names that wait for a descriptor it uses, apart from adding
names that were free (`KeepsBindings`). But a handler that is loaded takes every name it claims, also
one that is bound to another handler or waits for another descriptor.

Main statement: `keepsBindings_iff`, behind every run a lookup keeps the bindings of all other names
**exactly** if the handlers it makes claim free names only (`ClaimsFree`). That it does not keep them
otherwise rests on identities: each load hands out a new one, so a name that is taken over is bound to
another handler than before, also if a loader gives a handler that was registered under that name.
`not_keepsBindings_overriding` is the smallest case where it does not: a tag that was given a handler
of its own loses it when another tag is looked up. -/

namespace TextTemplate.Registry

/-! ## Bindings kept and names claimed -/

/-- **Only names that wait for a used descriptor and free names change**, and then they are bound to
a handler or free. -/
structure KeepsSlots {α : Type} (before after : Table String (Slot α)) (uses : List Use) :
    Prop where
  kept : ∀ name slot, before.get? name = some slot →
    (∀ use ∈ uses, slot.waitsFor use.pending.id = false) → after.get? name = some slot
  changed : ∀ name, (∀ slot, before.get? name = some slot →
      ∃ use ∈ uses, slot.waitsFor use.pending.id = true) →
    ∀ slot, after.get? name = some slot → ∃ handler, slot = .live handler

/-- The handlers that are made claim no name that is bound to a handler or waits for a descriptor
that is not used. -/
def ClaimsFreeSlots {α : Type} (before : Table String (Slot α)) (claims : Use → List String)
    (uses : List Use) : Prop :=
  ∀ use ∈ uses, ∀ name ∈ claims use, ∀ slot, before.get? name = some slot →
    ∃ used ∈ uses, slot.waitsFor used.pending.id = true

/-- **A lookup keeps the bindings** of tags and operators. -/
structure KeepsBindings (registry : Registry) (lookup : Lookup) : Prop where
  functions : KeepsSlots registry.functions (registry.apply lookup.operation).functions
    (registry.uses lookup)
  operators : KeepsSlots registry.operators (registry.apply lookup.operation).operators
    (registry.uses lookup)

/-- The handlers that a lookup makes claim free names only. -/
structure ClaimsFree (registry : Registry) (lookup : Lookup) : Prop where
  functions : ClaimsFreeSlots registry.functions Use.tags (registry.uses lookup)
  operators : ClaimsFreeSlots registry.operators Use.operators (registry.uses lookup)

/-! ## One load after another -/

/-- A load changes the names of a table that its handler claims or that wait for its descriptor. -/
structure Governs {α : Type} (table : Registry → Table String (Slot α))
    (claims : Use → List String) : Prop where
  asked : ∀ registry asked, table { registry with asked } = table registry
  kept : ∀ {before after : Registry} {use : Use} {name : String} {slot : Slot α},
    before.Load use after → name ∉ claims use → slot.waitsFor use.pending.id = false →
    (table before).get? name = some slot → (table after).get? name = some slot
  claimed : ∀ {before after : Registry} {use : Use} {name : String}, before.Load use after →
    name ∈ claims use →
    ∃ handler, (table after).get? name = some (.live handler) ∧ before.fresh ≤ handler.id

theorem governs_functions : Governs functions Use.tags where
  asked := fun _ _ => rfl
  kept := by
    intro before after use name slot h hclaims hwaits hslot
    cases use with
    | function pending made? =>
        have h : before.FunctionLoad pending made? after := h
        rw [h.functions, hslot]
        refine Slot.behind_of_not_mem (fun handler he => ?_) (fun other ho => ?_)
        · rw [he] at hclaims
          exact hclaims
        · cases ho
          exact hwaits
    | operator pending made? =>
        have h : before.OperatorLoad pending made? after := h
        rw [h.functions, hslot]
  claimed := by
    intro before after use name h hclaims
    cases use with
    | function pending made? =>
        have h : before.FunctionLoad pending made? after := h
        cases made? with
        | none => cases hclaims
        | some handler =>
            obtain ⟨made, -, rfl⟩ := Option.map_eq_some_iff.1 h.made.symm
            exact ⟨_, by rw [h.functions, Slot.behind_of_mem hclaims], Nat.le_refl _⟩
    | operator pending made? => cases hclaims

theorem governs_operators : Governs operators Use.operators where
  asked := fun _ _ => rfl
  kept := by
    intro before after use name slot h hclaims hwaits hslot
    cases use with
    | function pending made? =>
        have h : before.FunctionLoad pending made? after := h
        rw [h.operators, hslot]
    | operator pending made? =>
        have h : before.OperatorLoad pending made? after := h
        rw [h.operators, hslot]
        refine Slot.behind_of_not_mem (fun handler he => ?_) (fun other ho => ?_)
        · rw [he] at hclaims
          exact hclaims
        · cases ho
          exact hwaits
  claimed := by
    intro before after use name h hclaims
    cases use with
    | function pending made? => cases hclaims
    | operator pending made? =>
        have h : before.OperatorLoad pending made? after := h
        cases made? with
        | none => cases hclaims
        | some handler =>
            obtain ⟨made, -, rfl⟩ := Option.map_eq_some_iff.1 h.made.symm
            exact ⟨_, by rw [h.operators, Slot.behind_of_mem hclaims], Nat.le_refl _⟩

section Governed

variable {α : Type} {table : Registry → Table String (Slot α)} {claims : Use → List String}
  {asker : String} {before after : Registry} {uses : List Use}

/-- A name that is not claimed and does not wait is kept. -/
theorem Governs.kept_of_loads (hg : Governs table claims) (h : Loads asker before uses after)
    {name : String} {slot : Slot α} (hslot : (table before).get? name = some slot)
    (hclaims : ∀ use ∈ uses, name ∉ claims use)
    (hwaits : ∀ use ∈ uses, slot.waitsFor use.pending.id = false) :
    (table after).get? name = some slot := by
  induction h with
  | done registry asked => rwa [hg.asked]
  | load _ load _ ih =>
      rw [List.forall_mem_cons] at hclaims hwaits
      exact ih (hg.kept load hclaims.1 hwaits.1 hslot) hclaims.2 hwaits.2

/-- **A name that is claimed is bound to a handler that was made**, by the last load that claims
it. -/
theorem Governs.claimed_of_loads (hg : Governs table claims) (h : Loads asker before uses after)
    {name : String} (hclaimed : ∃ use ∈ uses, name ∈ claims use) :
    ∃ handler, (table after).get? name = some (.live handler) ∧ before.fresh ≤ handler.id := by
  induction h with
  | done registry asked =>
      obtain ⟨use, hu, -⟩ := hclaimed
      cases hu
  | @load before middle after first rest _ load loads ih =>
      by_cases hlater : ∃ use ∈ rest, name ∈ claims use
      · obtain ⟨handler, hslot, hid⟩ := ih hlater
        exact ⟨handler, hslot, Nat.le_trans load.step.fresh hid⟩
      · obtain ⟨use, hu, hn⟩ := hclaimed
        rcases List.mem_cons.1 hu with rfl | hu
        · -- a handler waits for nothing, so later loads leave it alone
          obtain ⟨handler, hslot, hid⟩ := hg.claimed load hn
          refine ⟨handler, hg.kept_of_loads loads hslot ?_ fun _ _ => rfl, hid⟩
          exact fun later hl hn => hlater ⟨later, hl, hn⟩
        · exact absurd ⟨use, hu, hn⟩ hlater

/-- **Bindings are kept exactly if free names are claimed**: a handler that is taken over has an
identity below those that are made. -/
theorem Governs.keepsSlots_iff (hg : Governs table claims) (h : Loads asker before uses after)
    (hlive : ∀ name handler, (table before).get? name = some (.live handler) →
      handler.id < before.fresh)
    (hpending : ∀ name pending, (table after).get? name = some (.pending pending) →
      (table before).get? name = some (.pending pending) ∧
        ∀ use ∈ uses, pending.id ≠ use.pending.id) :
    KeepsSlots (table before) (table after) uses ↔
      ClaimsFreeSlots (table before) claims uses := by
  constructor
  · intro hkeeps use hu name hn slot hslot
    by_contra hwaits
    push Not at hwaits
    have hkept := hkeeps.kept name slot hslot fun use hu => by simpa using hwaits use hu
    obtain ⟨handler, hmade, hid⟩ := hg.claimed_of_loads h ⟨use, hu, hn⟩
    obtain rfl : slot = .live handler := by
      rw [hkept] at hmade
      exact Option.some.inj hmade
    have hlt := hlive name handler hslot
    omega
  · intro hfree
    constructor
    · intro name slot hslot hwaits
      refine hg.kept_of_loads h hslot (fun use hu hn => ?_) hwaits
      obtain ⟨used, hused, hw⟩ := hfree use hu name hn slot hslot
      rw [hwaits used hused] at hw
      cases hw
    · intro name hwaits slot hslot
      cases slot with
      | live handler => exact ⟨handler, rfl⟩
      | pending pending =>
          obtain ⟨hbefore, hne⟩ := hpending name pending hslot
          obtain ⟨use, hu, hw⟩ := hwaits _ hbefore
          exact absurd (by simpa [Slot.waitsFor] using hw) (hne use hu)

end Governed

/-! ## Behind every run -/

/-- **A lookup keeps the bindings of all names but those that wait for it, exactly if the handlers it
makes claim free names only.** -/
theorem keepsBindings_iff (operations : List Operation) (lookup : Lookup) :
    (run operations).KeepsBindings lookup ↔ (run operations).ClaimsFree lookup := by
  have haccount := accounted_run operations
  have hloads := loads_lookup (distinct_run operations) lookup
  have huses := haccount.uses_of_loads hloads
  have hfunctions := governs_functions.keepsSlots_iff hloads haccount.liveTags
    fun name pending hp => by
      refine ⟨(hloads.step.functions name _ hp).resolve_right (by simp [Slot.New]), ?_⟩
      exact fun use hu => (huses use hu).2 .function pending (Or.inl ⟨name, hp⟩)
  have hoperators := governs_operators.keepsSlots_iff hloads haccount.liveOperators
    fun name pending hp => by
      refine ⟨(hloads.step.operators name _ hp).resolve_right (by simp [Slot.New]), ?_⟩
      exact fun use hu => (huses use hu).2 .operator pending ⟨name, hp⟩
  constructor
  · intro h
    exact ⟨hfunctions.1 h.functions, hoperators.1 h.operators⟩
  · intro h
    exact ⟨hfunctions.2 h.functions, hoperators.2 h.operators⟩

/-- A handler that serves the tags `a` and `b`. -/
def serverOfBoth : FunctionHandler := ⟨["a", "b"], [], FunctionHandler.always false, .nothing⟩

/-- That handler is announced for `a` only, and `b` is given a handler of its own. -/
def overriding : List Operation :=
  [.registerLoader "L" fun _ => some (.function serverOfBoth),
    .registerAutoloadFunctions ⟨some "L", none, none, none, ["a"], []⟩,
    .registerFunction "b" .templates]

/-- **The tag `b` loses its own handler** when the handler of `a` is looked up. -/
theorem not_keepsBindings_overriding :
    (run overriding).functions.get? "b" = some (.live ⟨1, .templates⟩) ∧
      ((run overriding).apply (.function "a")).functions.get? "b"
        = some (.live ⟨2, serverOfBoth⟩) ∧
      ¬ (run overriding).KeepsBindings (.function "a") := by
  refine ⟨rfl, rfl, fun h => ?_⟩
  have hkept := h.functions.kept "b" (.live ⟨1, .templates⟩) rfl fun _ _ => rfl
  have hlost : ((run overriding).apply (.function "a")).functions.get? "b"
      = some (.live ⟨2, serverOfBoth⟩) := rfl
  rw [Lookup.operation, hlost] at hkept
  cases hkept

end TextTemplate.Registry
