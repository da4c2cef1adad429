import TextTemplate.Proofs.Registry.Lookup

set_option autoImplicit false

/-! # Descriptors are used once

A descriptor gets its identity when it is announced, and many names may wait for it: tags, flags or
operators. Names that wait for one descriptor are settled together, by the first lookup that uses
it, so nothing is left that could make the registry use it again.

`Step` says where a slot behind an operation comes from: it was there, or it holds a handler with a
new identity, or it waits for the descriptor that was announced. From this follows the account that
a run keeps (`Accounted`): whatever waits, waits for a descriptor that was announced and not used.
Main statement: `autoload_once`, **no descriptor is used twice**, and each lookup is a row of loads
that clean up behind themselves. -/

namespace TextTemplate

/-! ## Where slots come from -/

/-- A slot that is new behind an operation: it holds a handler with an identity between the two, or
it waits for a descriptor that was announced. -/
def Slot.New {α : Type} (start stop : Nat) (announced : Pending → Prop) : Slot α → Prop
  | live handler => start ≤ handler.id ∧ handler.id < stop
  | pending descriptor => announced descriptor

/-- A slot behind a load was there before, or it holds the handler that was made. -/
theorem Slot.new_of_behind {α : Type} {claims : α → List String} {id start stop : Nat}
    {made? : Option (Live α)} {product? : Option α} {name : String} {slot : Slot α}
    {slot? : Option (Slot α)} {announced : Pending → Prop}
    (hmade : made? = product?.map fun handler => ⟨start, handler⟩)
    (hfresh : stop = if made?.isSome then start + 1 else start)
    (h : behind claims id made? name slot? = some slot) :
    slot? = some slot ∨ slot.New start stop announced := by
  rcases of_behind_eq_some h with ⟨handler, rfl, rfl⟩ | ⟨hslot, -⟩
  · obtain ⟨made, -, rfl⟩ := Option.map_eq_some_iff.1 hmade.symm
    rw [hfresh]
    exact Or.inr ⟨Nat.le_refl _, Nat.lt_succ_self _⟩
  · exact Or.inl hslot

/-- A flag that is new behind an operation. -/
def ChildFlag.New (announced : Pending → Prop) : ChildFlag → Prop
  | known _ => True
  | pending descriptor => announced descriptor

namespace Registry

/-- The descriptor that an operation announces, with its kind. -/
def announcement? (registry : Registry) : Operation → Option (HandlerKind × Pending)
  | .registerAutoloadFunctions definition =>
    (definition.descriptor .function).toOption.map fun descriptor =>
      (.function, ⟨registry.fresh, descriptor⟩)
  | .registerAutoloadOperators definition =>
    (definition.descriptor .operator).toOption.map fun descriptor =>
      (.operator, ⟨registry.fresh, descriptor⟩)
  | _ => none

/-- **What stands in a table behind an operation** was there before, or it is new. -/
structure Step (before : Registry) (announced? : Option (HandlerKind × Pending))
    (after : Registry) : Prop where
  fresh : before.fresh ≤ after.fresh
  functions : ∀ name slot, after.functions.get? name = some slot →
    before.functions.get? name = some slot ∨
      slot.New before.fresh after.fresh fun pending => announced? = some (.function, pending)
  operators : ∀ name slot, after.operators.get? name = some slot →
    before.operators.get? name = some slot ∨
      slot.New before.fresh after.fresh fun pending => announced? = some (.operator, pending)
  childFlags : ∀ name flag, after.childFlags.get? name = some flag →
    before.childFlags.get? name = some flag ∨
      flag.New fun pending => announced? = some (.function, pending)

/-- What changes no table and no identity is a step. -/
theorem Step.of_eq {before after : Registry} {announced? : Option (HandlerKind × Pending)}
    (hfresh : after.fresh = before.fresh) (hfunctions : after.functions = before.functions)
    (hoperators : after.operators = before.operators)
    (hflags : after.childFlags = before.childFlags) : Step before announced? after := by
  refine ⟨Nat.le_of_eq hfresh.symm, fun name slot h => Or.inl ?_, fun name slot h => Or.inl ?_,
    fun name flag h => Or.inl ?_⟩
  · rwa [hfunctions] at h
  · rwa [hoperators] at h
  · rwa [hflags] at h

theorem Step.trans {before middle after : Registry} (first : Step before none middle)
    (second : Step middle none after) : Step before none after := by
  have hwiden : ∀ {α : Type} {slot : Slot α} {kind : HandlerKind} {start stop : Nat},
      before.fresh ≤ start → stop ≤ after.fresh →
      slot.New start stop (fun pending => none = some (kind, pending)) →
      slot.New before.fresh after.fresh (fun pending => none = some (kind, pending)) := by
    intro α slot kind start stop hstart hstop h
    cases slot with
    | live handler => exact ⟨Nat.le_trans hstart h.1, Nat.lt_of_lt_of_le h.2 hstop⟩
    | pending descriptor => exact h
  refine ⟨Nat.le_trans first.fresh second.fresh, fun name slot h => ?_, fun name slot h => ?_,
    fun name flag h => ?_⟩
  · rcases second.functions name slot h with h | h
    · exact (first.functions name slot h).imp_right (hwiden (Nat.le_refl _) second.fresh)
    · exact Or.inr (hwiden first.fresh (Nat.le_refl _) h)
  · rcases second.operators name slot h with h | h
    · exact (first.operators name slot h).imp_right (hwiden (Nat.le_refl _) second.fresh)
    · exact Or.inr (hwiden first.fresh (Nat.le_refl _) h)
  · rcases second.childFlags name flag h with h | h
    · exact first.childFlags name flag h
    · exact Or.inr h

/-! ### Lookups -/

theorem le_fresh (start : Nat) (made : Bool) : start ≤ if made then start + 1 else start := by
  split <;> omega

theorem FunctionLoad.step {before after : Registry} {pending : Pending}
    {made? : Option (Live FunctionHandler)} (h : before.FunctionLoad pending made? after) :
    Step before none after := by
  refine ⟨?_, fun name slot hslot => ?_, fun name slot hslot => ?_, fun name flag hflag => ?_⟩
  · rw [h.fresh]
    exact le_fresh _ _
  · rw [h.functions] at hslot
    exact Slot.new_of_behind h.made h.fresh hslot
  · rw [h.operators] at hslot
    exact Or.inl hslot
  · rw [h.childFlags] at hflag
    split at hflag
    · cases hflag
      exact Or.inr trivial
    · exact Or.inl (Option.filter_eq_some_iff.1 hflag).1

theorem OperatorLoad.step {before after : Registry} {pending : Pending}
    {made? : Option (Live OperatorHandler)} (h : before.OperatorLoad pending made? after) :
    Step before none after := by
  refine ⟨?_, fun name slot hslot => ?_, fun name slot hslot => ?_, fun name flag hflag => ?_⟩
  · rw [h.fresh]
    exact le_fresh _ _
  · rw [h.functions] at hslot
    exact Or.inl hslot
  · rw [h.operators] at hslot
    exact Slot.new_of_behind h.made h.fresh hslot
  · rw [h.childFlags] at hflag
    exact Or.inl hflag

theorem Load.step {before after : Registry} {use : Use} (h : before.Load use after) :
    Step before none after := by
  cases use with
  | function pending made? => exact FunctionLoad.step h
  | operator pending made? => exact OperatorLoad.step h

theorem Loads.step {name : String} {before after : Registry} {uses : List Use}
    (h : Loads name before uses after) : Step before none after := by
  induction h with
  | done registry asked => exact .of_eq rfl rfl rfl rfl
  | load _ load _ ih => exact load.step.trans ih

/-! ### Registering and unregistering -/

section Tables

variable {α : Type} {table : Table String α} {name : String} {value value' : α}

theorem of_get?_set {key : String} (h : (table.set key value).get? name = some value') :
    table.get? name = some value' ∨ value' = value := by
  rw [Table.get?_set] at h
  split at h
  · exact Or.inr (Option.some.inj h).symm
  · exact Or.inl h

theorem of_get?_setAll {keys : List String}
    (h : (table.setAll (keys.map fun key => (key, value))).get? name = some value') :
    table.get? name = some value' ∨ value' = value := by
  rw [Table.get?_setAll, Table.get?_ofList_map_const] at h
  split at h
  · exact Or.inr (Option.some.inj h).symm
  · exact Or.inl h

theorem of_get?_erase {key : String} (h : (table.erase key).get? name = some value') :
    table.get? name = some value' := by
  by_cases hk : key = name
  · rw [hk, Table.get?_erase_self] at h
    cases h
  · rwa [Table.get?_erase_ne table hk] at h

theorem of_get?_recordChildTags {registry : Registry} {handler : FunctionHandler}
    {flag : ChildFlag} {announced : Pending → Prop}
    (h : (registry.recordChildTags handler).childFlags.get? name = some flag) :
    registry.childFlags.get? name = some flag ∨ flag.New announced := by
  rw [childFlags_recordChildTags] at h
  cases hfix : handler.fixes name with
  | none =>
      rw [hfix] at h
      exact Or.inl h
  | some fixed =>
      rw [hfix] at h
      cases h
      exact Or.inr trivial

end Tables

/-- **Every operation is a step.** -/
theorem step_apply {registry : Registry} (hd : registry.Distinct) (operation : Operation) :
    Step registry (registry.announcement? operation) (registry.apply operation) := by
  have hnew : ∀ {α : Type} {announced : Pending → Prop} (handler : α),
      (Slot.live ⟨registry.fresh, handler⟩).New registry.fresh (registry.fresh + 1) announced :=
    fun _ => ⟨Nat.le_refl _, Nat.lt_succ_self _⟩
  cases operation with
  | registerFunction name handler =>
      refine ⟨Nat.le_succ _, fun n slot h => ?_, fun n slot h => Or.inl h, fun n flag h => ?_⟩
      · rcases of_get?_set h with h | rfl
        · exact Or.inl h
        · exact Or.inr (hnew handler)
      · exact of_get?_recordChildTags h
  | registerFunctions handler =>
      refine ⟨Nat.le_succ _, fun n slot h => ?_, fun n slot h => Or.inl h, fun n flag h => ?_⟩
      · rcases of_get?_setAll h with h | rfl
        · exact Or.inl h
        · exact Or.inr (hnew handler)
      · exact of_get?_recordChildTags h
  | registerOperator name handler =>
      refine ⟨Nat.le_succ _, fun n slot h => Or.inl h, fun n slot h => ?_, fun n flag h => Or.inl h⟩
      rcases of_get?_set h with h | rfl
      · exact Or.inl h
      · exact Or.inr (hnew handler)
  | registerOperators handler =>
      refine ⟨Nat.le_succ _, fun n slot h => Or.inl h, fun n slot h => ?_, fun n flag h => Or.inl h⟩
      rcases of_get?_setAll h with h | rfl
      · exact Or.inl h
      · exact Or.inr (hnew handler)
  | registerAutoloadFunctions definition =>
      refine orElse_induction (.of_eq rfl rfl rfl rfl) fun registry' hr => ?_
      obtain ⟨descriptor, hdescriptor, rfl⟩ := registerAutoloadFunctions_ok hr
      simp only [announcement?, hdescriptor]
      refine ⟨Nat.le_succ _, fun n slot h => ?_, fun n slot h => Or.inl h, fun n flag h => ?_⟩
      · rcases of_get?_setAll h with h | rfl
        · exact Or.inl h
        · exact Or.inr rfl
      · rcases of_get?_setAll h with h | rfl
        · exact Or.inl h
        · exact Or.inr rfl
  | registerAutoloadOperators definition =>
      refine orElse_induction (.of_eq rfl rfl rfl rfl) fun registry' hr => ?_
      obtain ⟨descriptor, hdescriptor, rfl⟩ := registerAutoloadOperators_ok hr
      simp only [announcement?, hdescriptor]
      refine ⟨Nat.le_succ _, fun n slot h => Or.inl h, fun n slot h => ?_, fun n flag h => Or.inl h⟩
      rcases of_get?_setAll h with h | rfl
      · exact Or.inl h
      · exact Or.inr rfl
  | registerLoader name factory => exact .of_eq rfl rfl rfl rfl
  | registerLiteral name =>
      show Step registry none (registry.registerLiteral name)
      unfold registerLiteral
      split
      · exact .of_eq rfl rfl rfl rfl
      · exact .of_eq rfl rfl rfl rfl
  | unregisterFunction name =>
      refine orElse_induction (.of_eq rfl rfl rfl rfl) fun registry' hr => ?_
      rw [unregisterFunction_ok hr]
      exact ⟨Nat.le_refl _, fun n slot h => Or.inl (of_get?_erase h), fun n slot h => Or.inl h,
        fun n flag h => Or.inl h⟩
  | unregisterOperator name =>
      refine orElse_induction (.of_eq rfl rfl rfl rfl) fun registry' hr => ?_
      rw [unregisterOperator_ok hr]
      exact ⟨Nat.le_refl _, fun n slot h => Or.inl h, fun n slot h => Or.inl (of_get?_erase h),
        fun n flag h => Or.inl h⟩
  | unregisterLiteral name => exact .of_eq rfl rfl rfl rfl
  | function name => exact (loads_lookup hd (.function name)).step
  | operator name => exact (loads_lookup hd (.operator name)).step
  | hasChildren name => exact (loads_lookup hd (.hasChildren name)).step

/-! ## The account of a run -/

/-- **The descriptors that were registered** by operations, in order. -/
def announced (registry : Registry) : List Operation → List (HandlerKind × Pending)
  | [] => []
  | operation :: rest =>
    (registry.announcement? operation).toList ++ (registry.apply operation).announced rest

theorem announced_concat (registry : Registry) (operations : List Operation)
    (operation : Operation) :
    registry.announced (operations ++ [operation]) = registry.announced operations ++
      ((operations.foldl apply registry).announcement? operation).toList := by
  induction operations generalizing registry with
  | nil => simp [announced]
  | cons first rest ih => simp [announced, ih]

/-- Something waits for the descriptor: a tag or a flag for one of tags, an operator for one of
operators. -/
def Awaits (registry : Registry) (kind : HandlerKind) (pending : Pending) : Prop :=
  match kind with
  | .function => (∃ name, registry.functions.get? name = some (.pending pending)) ∨
      ∃ name, registry.childFlags.get? name = some (.pending pending)
  | .operator => ∃ name, registry.operators.get? name = some (.pending pending)

/-- **Nothing waits for the descriptor `id`**, neither a tag nor an operator nor a flag. -/
def Settled (registry : Registry) (id : Nat) : Prop :=
  ∀ kind pending, registry.Awaits kind pending → pending.id ≠ id

/-- **The account that a run keeps.** Identities below the next one are taken, and those of the
`known` descriptors differ. What waits, waits for a known descriptor that was not used, and what was
used was known and used once. -/
structure Accounted (registry : Registry) (known : List (HandlerKind × Pending)) : Prop where
  fresh : ∀ entry ∈ known, entry.2.id < registry.fresh
  distinct : (known.map (·.2.id)).Nodup
  awaited : ∀ kind pending, registry.Awaits kind pending → (kind, pending) ∈ known
  settled : ∀ attempt ∈ registry.attempts, registry.Settled attempt.descriptor
  attempted : ∀ attempt ∈ registry.attempts, ∃ entry ∈ known,
    attempt.descriptor = entry.2.id ∧ attempt.loader = entry.2.descriptor.loader.key
  once : (registry.attempts.map (·.descriptor)).Nodup
  liveTags : ∀ name handler, registry.functions.get? name = some (.live handler) →
    handler.id < registry.fresh
  liveOperators : ∀ name handler, registry.operators.get? name = some (.live handler) →
    handler.id < registry.fresh

theorem accounted_fresh : Accounted {} [] where
  fresh := fun _ h => absurd h List.not_mem_nil
  distinct := List.nodup_nil
  awaited := by
    rintro (_ | _) pending h
    · rcases h with ⟨name, h⟩ | ⟨name, h⟩ <;> cases h
    · obtain ⟨name, h⟩ := h
      cases h
  settled := fun _ h => absurd h List.not_mem_nil
  attempted := fun _ h => absurd h List.not_mem_nil
  once := List.nodup_nil
  liveTags := fun _ _ h => by cases h
  liveOperators := fun _ _ h => by cases h

/-- What waits behind a step waited before, or it waits for what was announced. -/
theorem Step.awaits {before after : Registry} {announced? : Option (HandlerKind × Pending)}
    (h : Step before announced? after) {kind : HandlerKind} {pending : Pending}
    (ha : after.Awaits kind pending) :
    before.Awaits kind pending ∨ announced? = some (kind, pending) := by
  cases kind with
  | function =>
      rcases ha with ⟨name, ha⟩ | ⟨name, ha⟩
      · exact (h.functions name _ ha).imp_left fun hb => Or.inl ⟨name, hb⟩
      · exact (h.childFlags name _ ha).imp_left fun hb => Or.inr ⟨name, hb⟩
  | operator =>
      obtain ⟨name, ha⟩ := ha
      exact (h.operators name _ ha).imp_left fun hb => ⟨name, hb⟩

/-- The identities of handlers behind a step are taken. -/
theorem Accounted.live_of_step {before after : Registry} {known : List (HandlerKind × Pending)}
    {announced? : Option (HandlerKind × Pending)} (h : before.Accounted known)
    (hs : Step before announced? after) :
    (∀ name handler, after.functions.get? name = some (.live handler) →
        handler.id < after.fresh) ∧
      ∀ name handler, after.operators.get? name = some (.live handler) →
        handler.id < after.fresh := by
  constructor
  · intro name handler hn
    rcases hs.functions name _ hn with hn | hn
    · exact Nat.lt_of_lt_of_le (h.liveTags name handler hn) hs.fresh
    · exact hn.2
  · intro name handler hn
    rcases hs.operators name _ hn with hn | hn
    · exact Nat.lt_of_lt_of_le (h.liveOperators name handler hn) hs.fresh
    · exact hn.2

/-! ### A load -/

theorem WaitsAt.awaits {registry : Registry} {name : String} {use : Use}
    (h : registry.WaitsAt name use) : registry.Awaits use.kind use.pending := by
  cases use with
  | function pending made? => exact Or.imp (fun h => ⟨name, h⟩) (fun h => ⟨name, h⟩) h
  | operator pending made? => exact ⟨name, h⟩

/-- Nothing of the same kind waits for a descriptor that was used. -/
theorem Load.not_awaits {before after : Registry} {use : Use} (h : before.Load use after)
    {pending : Pending} (ha : after.Awaits use.kind pending) : pending.id ≠ use.pending.id := by
  cases use with
  | function used made? =>
      have h : before.FunctionLoad used made? after := h
      rcases ha with ⟨name, ha⟩ | ⟨name, ha⟩
      · rw [h.functions] at ha
        rcases Slot.of_behind_eq_some ha with ⟨handler, -, he⟩ | ⟨-, hw⟩
        · cases he
        · simpa [Slot.waitsFor, Use.pending] using hw
      · rw [h.childFlags] at ha
        split at ha
        · cases ha
        · simpa [ChildFlag.waitsFor, Use.pending] using (Option.filter_eq_some_iff.1 ha).2
  | operator used made? =>
      have h : before.OperatorLoad used made? after := h
      obtain ⟨name, ha⟩ := ha
      rw [h.operators] at ha
      rcases Slot.of_behind_eq_some ha with ⟨handler, -, he⟩ | ⟨-, hw⟩
      · cases he
      · simpa [Slot.waitsFor, Use.pending] using hw

/-- **A load settles its descriptor**: another kind never waits for it. -/
theorem Accounted.settled_of_load {before after : Registry} {known : List (HandlerKind × Pending)}
    {name : String} {use : Use} (h : before.Accounted known) (hw : before.WaitsAt name use)
    (hl : before.Load use after) : after.Settled use.pending.id := by
  intro kind pending ha hid
  have hused := h.awaited _ _ hw.awaits
  obtain hb | hb := hl.step.awaits ha
  · have heq := List.inj_on_of_nodup_map h.distinct (h.awaited kind pending hb) hused hid
    obtain ⟨rfl, rfl⟩ := Prod.mk.inj heq
    exact hl.not_awaits ha rfl
  · cases hb

theorem Accounted.load {before after : Registry} {known : List (HandlerKind × Pending)}
    {name : String} {use : Use} (h : before.Accounted known) (hw : before.WaitsAt name use)
    (hl : before.Load use after) : after.Accounted known := by
  have hused := h.awaited _ _ hw.awaits
  have hstep := hl.step
  have hawaits : ∀ {kind pending}, after.Awaits kind pending → before.Awaits kind pending :=
    fun ha => (hstep.awaits ha).resolve_right (by simp)
  obtain ⟨htags, hoperators⟩ := h.live_of_step hstep
  refine ⟨fun entry he => Nat.lt_of_lt_of_le (h.fresh entry he) hstep.fresh, h.distinct,
    fun kind pending ha => h.awaited kind pending (hawaits ha), fun attempt ha => ?_,
    fun attempt ha => ?_, ?_, htags, hoperators⟩
  · rw [hl.noted.attempts] at ha
    rcases List.mem_append.1 ha with ha | ha
    · exact fun kind pending hp => h.settled attempt ha kind pending (hawaits hp)
    · obtain rfl := List.mem_singleton.1 ha
      exact h.settled_of_load hw hl
  · rw [hl.noted.attempts] at ha
    rcases List.mem_append.1 ha with ha | ha
    · exact h.attempted attempt ha
    · obtain rfl := List.mem_singleton.1 ha
      exact ⟨_, hused, rfl, rfl⟩
  · -- something waited for the descriptor, so it was not used before
    have hnew : use.pending.id ∉ before.attempts.map (·.descriptor) := by
      intro hm
      obtain ⟨attempt, ha, hid⟩ := List.mem_map.1 hm
      exact h.settled attempt ha _ _ hw.awaits hid.symm
    rw [hl.noted.attempts, List.map_append, List.map_singleton, List.nodup_append]
    refine ⟨h.once, List.nodup_singleton _, ?_⟩
    rintro id hid _ hmem rfl
    obtain rfl : id = use.pending.id := List.mem_singleton.1 hmem
    exact hnew hid

theorem Accounted.loads {name : String} {before after : Registry} {uses : List Use}
    {known : List (HandlerKind × Pending)} (h : before.Accounted known)
    (hl : Loads name before uses after) : after.Accounted known := by
  induction hl with
  | done registry asked =>
      exact ⟨h.fresh, h.distinct, h.awaited, h.settled, h.attempted, h.once, h.liveTags,
        h.liveOperators⟩
  | load waits load _ ih => exact ih (h.load waits load)

/-- The descriptors that a row of loads uses were known, and nothing waits for them behind it. -/
theorem Accounted.uses_of_loads {name : String} {before after : Registry} {uses : List Use}
    {known : List (HandlerKind × Pending)} (h : before.Accounted known)
    (hl : Loads name before uses after) :
    ∀ use ∈ uses, (use.kind, use.pending) ∈ known ∧ after.Settled use.pending.id := by
  induction hl with
  | done registry asked => exact fun use hu => absurd hu List.not_mem_nil
  | load waits load rest ih =>
      intro use hu
      rcases List.mem_cons.1 hu with rfl | hu
      · refine ⟨h.awaited _ _ waits.awaits, fun kind pending ha => ?_⟩
        -- later loads make nothing wait
        have hmiddle := (rest.step.awaits ha).resolve_right (by simp)
        exact h.settled_of_load waits load kind pending hmiddle
      · exact ih (h.load waits load) use hu

/-! ### Every operation -/

theorem attempts_orElse {registry : Registry} {result : Except RuntimeProblem Registry}
    (ok : ∀ registry', result = .ok registry' → registry'.attempts = registry.attempts) :
    (registry.orElse result).attempts = registry.attempts :=
  orElse_induction (P := fun r => r.attempts = registry.attempts) rfl ok

/-- An operation that is no lookup uses no descriptor. -/
theorem attempts_apply (registry : Registry) (operation : Operation) :
    (∃ lookup : Lookup, lookup.operation = operation) ∨
      (registry.apply operation).attempts = registry.attempts := by
  cases operation with
  | function name => exact Or.inl ⟨.function name, rfl⟩
  | operator name => exact Or.inl ⟨.operator name, rfl⟩
  | hasChildren name => exact Or.inl ⟨.hasChildren name, rfl⟩
  | registerAutoloadFunctions definition =>
      refine Or.inr (attempts_orElse fun registry' hr => ?_)
      obtain ⟨descriptor, -, rfl⟩ := registerAutoloadFunctions_ok hr
      rfl
  | registerAutoloadOperators definition =>
      refine Or.inr (attempts_orElse fun registry' hr => ?_)
      obtain ⟨descriptor, -, rfl⟩ := registerAutoloadOperators_ok hr
      rfl
  | registerLiteral name =>
      refine Or.inr ?_
      show (registry.registerLiteral name).attempts = registry.attempts
      unfold registerLiteral
      split
      · rfl
      · rfl
  | unregisterFunction name =>
      refine Or.inr (attempts_orElse fun registry' hr => ?_)
      rw [unregisterFunction_ok hr]
  | unregisterOperator name =>
      refine Or.inr (attempts_orElse fun registry' hr => ?_)
      rw [unregisterOperator_ok hr]
  | _ => exact Or.inr rfl

/-- What is announced gets the next identity. -/
theorem fresh_of_announcement? {registry : Registry} {operation : Operation}
    {entry : HandlerKind × Pending} (h : registry.announcement? operation = some entry) :
    entry.2.id = registry.fresh ∧ (registry.apply operation).fresh = registry.fresh + 1 := by
  unfold announcement? at h
  split at h
  · rename_i definition
    cases hd : definition.descriptor .function with
    | error problem =>
        rw [hd] at h
        cases h
    | ok descriptor =>
        rw [hd] at h
        cases h
        refine ⟨rfl, ?_⟩
        simp only [apply, registerAutoloadFunctions, hd]
        rfl
  · rename_i definition
    cases hd : definition.descriptor .operator with
    | error problem =>
        rw [hd] at h
        cases h
    | ok descriptor =>
        rw [hd] at h
        cases h
        refine ⟨rfl, ?_⟩
        simp only [apply, registerAutoloadOperators, hd]
        rfl
  · cases h

theorem Accounted.apply {registry : Registry} {known : List (HandlerKind × Pending)}
    (hd : registry.Distinct) (h : registry.Accounted known) (operation : Operation) :
    (registry.apply operation).Accounted
      (known ++ (registry.announcement? operation).toList) := by
  have hstep := step_apply hd operation
  rcases attempts_apply registry operation with ⟨lookup, rfl⟩ | hattempts
  · have hnone : registry.announcement? lookup.operation = none := by
      cases lookup <;> rfl
    rw [hnone, Option.toList_none, List.append_nil]
    exact h.loads (loads_lookup hd lookup)
  · obtain ⟨htags, hoperators⟩ := h.live_of_step hstep
    have hentry : ∀ entry ∈ (registry.announcement? operation).toList,
        entry.2.id = registry.fresh ∧ (registry.apply operation).fresh = registry.fresh + 1 :=
      fun entry he => fresh_of_announcement? (Option.mem_toList.1 he)
    refine ⟨fun entry he => ?_, ?_, fun kind pending ha => ?_, fun attempt ha kind pending hp => ?_,
      fun attempt ha => ?_, by rw [hattempts]; exact h.once, htags, hoperators⟩
    · rcases List.mem_append.1 he with he | he
      · exact Nat.lt_of_lt_of_le (h.fresh entry he) hstep.fresh
      · obtain ⟨hid, hfresh⟩ := hentry entry he
        omega
    · rw [List.map_append, List.nodup_append]
      refine ⟨h.distinct, ?_, ?_⟩
      · cases registry.announcement? operation with
        | none => exact List.nodup_nil
        | some entry => exact List.nodup_singleton _
      · rintro id hid _ hmem rfl
        obtain ⟨old, hold, rfl⟩ := List.mem_map.1 hid
        obtain ⟨entry, he, hid⟩ := List.mem_map.1 hmem
        have hlt := h.fresh old hold
        have heq := (hentry entry he).1
        omega
    · rcases hstep.awaits ha with hb | hb
      · exact List.mem_append_left _ (h.awaited kind pending hb)
      · exact List.mem_append_right _ (Option.mem_toList.2 hb)
    · rw [hattempts] at ha
      rcases hstep.awaits hp with hb | hb
      · exact h.settled attempt ha kind pending hb
      · -- what was used was known, and the new identity is larger
        obtain ⟨entry, he, hid, -⟩ := h.attempted attempt ha
        have hlt := h.fresh entry he
        have heq := (fresh_of_announcement? hb).1
        simp only at heq
        omega
    · rw [hattempts] at ha
      obtain ⟨entry, he, hid⟩ := h.attempted attempt ha
      exact ⟨entry, List.mem_append_left _ he, hid⟩

/-- **Every run keeps its account.** -/
theorem accounted_run (operations : List Operation) :
    (run operations).Accounted (announced {} operations) := by
  induction operations using List.reverseRecOn with
  | nil => exact accounted_fresh
  | append_singleton operations operation ih =>
      rw [announced_concat, run, List.foldl_append]
      exact ih.apply (distinct_run operations) operation

/-! ## Once -/

/-- **No descriptor is used twice.** Registered descriptors have different identities, the uses of a
run are those of different registered descriptors, and nothing waits for a descriptor that was used.
A lookup behind the run is a row of loads (`FunctionLoad`, `OperatorLoad`) of registered descriptors,
which nothing waits for afterwards. A load makes the handler that the factory of the descriptor makes,
if that is of the right kind; a load that makes no handler is what the lookup fails with. -/
theorem autoload_once (operations : List Operation) :
    ((announced {} operations).map (·.2.id)).Nodup ∧
      ((run operations).attempts.map (·.descriptor)).Nodup ∧
      (∀ attempt ∈ (run operations).attempts,
        (run operations).Settled attempt.descriptor ∧
          ∃ entry ∈ announced {} operations, attempt.descriptor = entry.2.id ∧
            attempt.loader = entry.2.descriptor.loader.key) ∧
      ∀ lookup : Lookup,
        let after := (run operations).apply lookup.operation
        Loads lookup.name (run operations) ((run operations).uses lookup) after ∧
          ∀ use ∈ (run operations).uses lookup,
            (use.kind, use.pending) ∈ announced {} operations ∧
              after.Settled use.pending.id ∧
              (∀ handler, use.made? = some handler ↔
                (run operations).Makes use.pending handler ∧ handler.kind = use.kind) ∧
              (use.failed = true → (run operations).failure? lookup
                = some (.autoloadFailed lookup.name use.pending.descriptor.loader.key)) := by
  have haccount := accounted_run operations
  have hd := distinct_run operations
  refine ⟨haccount.distinct, haccount.once, fun attempt ha => ?_, fun lookup => ?_⟩
  · exact ⟨haccount.settled attempt ha, haccount.attempted attempt ha⟩
  · have hloads := loads_lookup hd lookup
    refine ⟨hloads, fun use hu => ?_⟩
    obtain ⟨hknown, hsettled⟩ := haccount.uses_of_loads hloads use hu
    exact ⟨hknown, hsettled, hloads.made?_eq_some_iff hu, failure?_of_failed hd hu⟩

/-- Two tags that wait for one descriptor make one call of its loader. -/
example : (run [.registerLoader "L" fun _ => some (.function .delimiters),
    .registerAutoloadFunctions ⟨some "L", none, none, none, ["a", "b"], []⟩,
    .function "a", .function "b"]).callsOf "L" = 1 := by
  decide

end Registry

end TextTemplate
