import TextTemplate.Proofs.Data.Table
import TextTemplate.Registry

set_option autoImplicit false

/-! # Runs of a registry

A registry changes by operations: registering, unregistering, and questions, which may load
handlers. `Registry.run` is the registry after a row of them, starting with a fresh one; an
operation that fails leaves the registry as it was.

What an operation does is said here once. `Makes` says what a descriptor is loaded with, in terms of
the loaders, and `product?` and `operatorProduct?` are the handlers of the right kind among that.
Loading the function handler of a descriptor is the only change that touches more than the names it
is given, and the lemmas on `withMade` and `withoutMade` give the view of both tables behind it, name
by name. A property of registries that loading keeps is
kept by every question about tags (`hasChildren_induction`). -/

namespace TextTemplate

/-- A handler does not depend on how often it was asked. -/
def FunctionHandler.Pure (handler : FunctionHandler) : Prop :=
  ∀ asked tag, handler.owns asked tag = handler.owns 0 tag

/-- The flag that a handler fixes for a tag; the last one counts. -/
def FunctionHandler.fixes (handler : FunctionHandler) (tag : String) : Option Bool :=
  (Table.ofList handler.childTags).get? tag

/-- The kind of a handler. -/
def Handler.kind : Handler → HandlerKind
  | function _ => .function
  | operator _ => .operator

namespace Registry

/-! ## Operations -/

/-- Something that is done with a registry. -/
inductive Operation
  | registerFunction (name : String) (handler : FunctionHandler)
  | registerFunctions (handler : FunctionHandler)
  | registerOperator (name : String) (handler : OperatorHandler)
  | registerOperators (handler : OperatorHandler)
  | registerAutoloadFunctions (definition : Definition)
  | registerAutoloadOperators (definition : Definition)
  | registerLoader (name : String) (factory : Factory)
  | registerLiteral (name : String)
  | unregisterFunction (name : String)
  | unregisterOperator (name : String)
  | unregisterLiteral (name : String)
  | function (name : String)
  | operator (name : String)
  | hasChildren (name : String)

/-- The new registry, or the old one if there is none. -/
def orElse (registry : Registry) (result : Except RuntimeProblem Registry) : Registry :=
  match result with
  | .ok registry => registry
  | .error _ => registry

/-- The registry behind an operation. -/
def apply (registry : Registry) : Operation → Registry
  | .registerFunction name handler => registry.registerFunction name handler
  | .registerFunctions handler => registry.registerFunctions handler
  | .registerOperator name handler => registry.registerOperator name handler
  | .registerOperators handler => registry.registerOperators handler
  | .registerAutoloadFunctions definition =>
    registry.orElse (registry.registerAutoloadFunctions definition)
  | .registerAutoloadOperators definition =>
    registry.orElse (registry.registerAutoloadOperators definition)
  | .registerLoader name factory => registry.registerLoader name factory
  | .registerLiteral name => registry.registerLiteral name
  | .unregisterFunction name => registry.orElse (registry.unregisterFunction name)
  | .unregisterOperator name => registry.orElse (registry.unregisterOperator name)
  | .unregisterLiteral name => registry.unregisterLiteral name
  | .function name => (registry.function name).2
  | .operator name => (registry.operator name).2
  | .hasChildren name => (registry.hasChildren name).2

/-- The registry behind a row of operations on a fresh one. -/
def run (operations : List Operation) : Registry := operations.foldl apply {}

/-- **What holds of a fresh registry and is kept by each operation holds behind every run.** -/
theorem run_induction {P : Registry → Prop} {operations : List Operation} (fresh : P {})
    (step : ∀ operation ∈ operations, ∀ registry, P registry → P (registry.apply operation)) :
    P (run operations) := by
  induction operations using List.reverseRecOn with
  | nil => exact fresh
  | append_singleton operations operation ih =>
      rw [run, List.foldl_append]
      refine step operation (by simp) _ (ih fun o ho => step o ?_)
      exact List.mem_append_left _ ho

/-! ## Operations that can fail -/

/-- An operation that can fail keeps what its success keeps. -/
theorem orElse_induction {P : Registry → Prop} {registry : Registry}
    {result : Except RuntimeProblem Registry} (h : P registry)
    (ok : ∀ registry', result = .ok registry' → P registry') : P (registry.orElse result) := by
  cases result with
  | ok registry' => exact ok registry' rfl
  | error problem => exact h

/-- What announcing tags does, if it does anything. -/
theorem registerAutoloadFunctions_ok {registry registry' : Registry} {definition : Definition}
    (h : registry.registerAutoloadFunctions definition = .ok registry') :
    ∃ descriptor, definition.descriptor .function = .ok descriptor ∧
      registry' =
        { registry with
          fresh := registry.fresh + 1
          functions := registry.functions.setAll
            (descriptor.names.map fun name => (name, .pending ⟨registry.fresh, descriptor⟩))
          childFlags := registry.childFlags.setAll
            (descriptor.childTags.map fun tag =>
              (tag, .pending ⟨registry.fresh, descriptor⟩)) } := by
  unfold registerAutoloadFunctions at h
  cases hd : definition.descriptor .function with
  | error problem => rw [hd] at h; cases h
  | ok descriptor =>
      rw [hd] at h
      exact ⟨descriptor, rfl, (Except.ok.inj h).symm⟩

/-- What announcing operators does, if it does anything. -/
theorem registerAutoloadOperators_ok {registry registry' : Registry} {definition : Definition}
    (h : registry.registerAutoloadOperators definition = .ok registry') :
    ∃ descriptor, definition.descriptor .operator = .ok descriptor ∧
      registry' =
        { registry with
          fresh := registry.fresh + 1
          operators := registry.operators.setAll
            (descriptor.names.map fun name => (name, .pending ⟨registry.fresh, descriptor⟩)) } := by
  unfold registerAutoloadOperators at h
  cases hd : definition.descriptor .operator with
  | error problem => rw [hd] at h; cases h
  | ok descriptor =>
      rw [hd] at h
      exact ⟨descriptor, rfl, (Except.ok.inj h).symm⟩

theorem unregisterFunction_ok {registry registry' : Registry} {name : String}
    (h : registry.unregisterFunction name = .ok registry') :
    registry' = { registry with functions := registry.functions.erase name } := by
  unfold unregisterFunction at h
  split at h
  · exact (Except.ok.inj h).symm
  · cases h

theorem unregisterOperator_ok {registry registry' : Registry} {name : String}
    (h : registry.unregisterOperator name = .ok registry') :
    registry' = { registry with operators := registry.operators.erase name } := by
  unfold unregisterOperator at h
  split at h
  · exact (Except.ok.inj h).symm
  · cases h

/-! ## What a loader makes -/

/-- **The loader of a descriptor makes the handler**: there is a factory under the key, which gives
the handler when it is called with the parameter. -/
def Makes (registry : Registry) (pending : Pending) (handler : Handler) : Prop :=
  ∃ factory, registry.loaders.get? pending.descriptor.loader.key = some factory ∧
    factory pending.descriptor.loader.parameter = some handler

/-- What is made depends on the loaders only. -/
theorem makes_congr {registry registry' : Registry} (h : registry'.loaders = registry.loaders)
    (pending : Pending) (handler : Handler) :
    registry'.Makes pending handler ↔ registry.Makes pending handler := by
  rw [Makes, h, Makes]

/-- Calling the loader of a descriptor gives what it makes. -/
theorem load_eq_some_iff {registry : Registry} {pending : Pending} {handler : Handler} :
    (registry.load pending).1 = some handler ↔ registry.Makes pending handler :=
  Option.bind_eq_some_iff

/-! ## Loading a function handler -/

/-- The function handler that the loader of a descriptor makes. -/
def product? (registry : Registry) (pending : Pending) : Option FunctionHandler :=
  match (registry.load pending).1 with
  | some (.function handler) => some handler
  | _ => none

/-- **A function handler is loaded** exactly if the factory of the descriptor makes it. So none is loaded
if there is no factory, or it makes nothing, or an operator handler. -/
theorem product?_eq_some_iff {registry : Registry} {pending : Pending} {made : FunctionHandler} :
    registry.product? pending = some made ↔ registry.Makes pending (.function made) := by
  rw [← load_eq_some_iff, product?]
  split
  · rename_i handler h
    simp [h]
  · rename_i h
    simpa using h made

/-- Which function handler is loaded depends on the loaders only. -/
theorem product?_congr {registry registry' : Registry} (h : registry'.loaders = registry.loaders)
    (pending : Pending) : registry'.product? pending = registry.product? pending := by
  ext made
  rw [product?_eq_some_iff, makes_congr h, product?_eq_some_iff]

/-- The registry behind a load that makes `made`. -/
def withMade (registry : Registry) (pending : Pending) (made : FunctionHandler) : Registry :=
  let behind := ((registry.load pending).2.live made).2.bindFunctions ⟨registry.fresh, made⟩
  { behind with
    functions := resolveSlots behind.functions pending.id ⟨registry.fresh, made⟩
    childFlags := discardFlags behind.childFlags pending.id }

/-- The registry behind a load that makes nothing of use. -/
def withoutMade (registry : Registry) (pending : Pending) : Registry :=
  { (registry.load pending).2 with
    functions := discardSlots registry.functions pending.id
    childFlags := discardFlags registry.childFlags pending.id }

/-- **A load either succeeds or fails**, and then the registry is one of the two. -/
theorem loadFunctions_eq (registry : Registry) (name : String) (pending : Pending) :
    registry.loadFunctions name pending =
      match registry.product? pending with
      | some made => (.ok ⟨registry.fresh, made⟩, registry.withMade pending made)
      | none => (.error (.autoloadFailed name pending.descriptor.loader.key),
          registry.withoutMade pending) := by
  unfold loadFunctions product?
  cases hload : registry.load pending with
  | mk handler? behind =>
      -- calling a loader only notes the attempt
      have hbehind : (registry.load pending).2 = behind := by rw [hload]
      have hfresh : behind.fresh = registry.fresh := by rw [← hbehind]; rfl
      have hfunctions : behind.functions = registry.functions := by rw [← hbehind]; rfl
      have hflags : behind.childFlags = registry.childFlags := by rw [← hbehind]; rfl
      cases handler? with
      | none => simp only [withoutMade, hbehind, hfunctions, hflags]
      | some handler =>
          cases handler with
          | function made => simp only [withMade, hbehind, live, hfresh]
          | operator made => simp only [withoutMade, hbehind, hfunctions, hflags]

@[simp] theorem loaders_withMade (registry : Registry) (pending : Pending)
    (made : FunctionHandler) :
    (registry.withMade pending made).loaders = registry.loaders := rfl

@[simp] theorem loaders_withoutMade (registry : Registry) (pending : Pending) :
    (registry.withoutMade pending).loaders = registry.loaders := rfl

@[simp] theorem loaders_loadFunctions (registry : Registry) (name : String) (pending : Pending) :
    (registry.loadFunctions name pending).2.loaders = registry.loaders := by
  rw [loadFunctions_eq]
  cases registry.product? pending with
  | none => rfl
  | some made => rfl

/-! ### The tables behind a load -/

/-- The flags that a handler fixes win over those that were there. -/
theorem childFlags_recordChildTags (registry : Registry) (handler : FunctionHandler)
    (name : String) :
    (registry.recordChildTags handler).childFlags.get? name
      = ((handler.fixes name).map .known).or (registry.childFlags.get? name) := by
  rw [FunctionHandler.fixes, ← Table.get?_ofList_map, ← Table.get?_setAll]
  rfl

/-- A handler that is bound to `names` and then put in the place of what waited for it. -/
theorem get?_resolveSlots_setAll {α : Type} (slots : Table String (Slot α)) (names : List String)
    (id : Nat) (handler : Live α) (name : String) :
    (resolveSlots (slots.setAll (names.map fun name => (name, .live handler))) id handler).get? name
      = if name ∈ names then some (.live handler)
        else (slots.get? name).map fun slot =>
          if slot.waitsFor id then .live handler else slot := by
  rw [resolveSlots, Table.get?_mapValues, Table.get?_setAll, Table.get?_ofList_map_const]
  split
  · rfl
  · rfl

/-- The new handler serves the tags it names and those that waited for it. -/
theorem functions_withMade (registry : Registry) (pending : Pending) (made : FunctionHandler)
    (name : String) :
    (registry.withMade pending made).functions.get? name =
      if name ∈ made.names then some (.live ⟨registry.fresh, made⟩)
      else (registry.functions.get? name).map fun slot =>
        if slot.waitsFor pending.id then .live ⟨registry.fresh, made⟩ else slot :=
  get?_resolveSlots_setAll registry.functions made.names pending.id ⟨registry.fresh, made⟩ name

/-- A flag that the new handler fixes is known, and no flag waits for it any more. -/
theorem childFlags_withMade {registry : Registry} (h : registry.childFlags.keys.Nodup)
    (pending : Pending) (made : FunctionHandler) (name : String) :
    (registry.withMade pending made).childFlags.get? name =
      match made.fixes name with
      | some flag => some (.known flag)
      | none => (registry.childFlags.get? name).filter fun flag => !flag.waitsFor pending.id := by
  show (discardFlags (registry.recordChildTags made).childFlags pending.id).get? name = _
  have hdistinct : (registry.recordChildTags made).childFlags.keys.Nodup :=
    Table.nodup_keys_setAll h _
  rw [discardFlags, Table.get?_filter hdistinct, childFlags_recordChildTags]
  cases made.fixes name with
  | none => rfl
  | some flag => rfl

/-- A flag that waited is the one that the new handler fixes, or gone. -/
theorem childFlags_withMade_of_waiting {registry : Registry} (hd : registry.childFlags.keys.Nodup)
    {pending : Pending} {name : String} (h : registry.childFlags.get? name = some (.pending pending))
    (made : FunctionHandler) :
    (registry.withMade pending made).childFlags.get? name = (made.fixes name).map .known := by
  rw [childFlags_withMade hd, h]
  cases made.fixes name with
  | none => simp [ChildFlag.waitsFor, Option.filter]
  | some flag => rfl

/-- A failed load forgets the tags that waited. -/
theorem functions_withoutMade {registry : Registry} (h : registry.functions.keys.Nodup)
    (pending : Pending) (name : String) :
    (registry.withoutMade pending).functions.get? name
      = (registry.functions.get? name).filter fun slot => !slot.waitsFor pending.id :=
  Table.get?_filter h _ name

/-- A failed load forgets the flags that waited. -/
theorem childFlags_withoutMade {registry : Registry} (h : registry.childFlags.keys.Nodup)
    (pending : Pending) (name : String) :
    (registry.withoutMade pending).childFlags.get? name
      = (registry.childFlags.get? name).filter fun flag => !flag.waitsFor pending.id :=
  Table.get?_filter h _ name

/-! ## Loading an operator handler -/

/-- The operator handler that the loader of a descriptor makes. -/
def operatorProduct? (registry : Registry) (pending : Pending) : Option OperatorHandler :=
  match (registry.load pending).1 with
  | some (.operator handler) => some handler
  | _ => none

/-- **An operator handler is loaded** exactly if the factory of the descriptor makes it. So none is loaded
if there is no factory, or it makes nothing, or a function handler. -/
theorem operatorProduct?_eq_some_iff {registry : Registry} {pending : Pending}
    {made : OperatorHandler} :
    registry.operatorProduct? pending = some made ↔ registry.Makes pending (.operator made) := by
  rw [← load_eq_some_iff, operatorProduct?]
  split
  · rename_i handler h
    simp [h]
  · rename_i h
    simpa using h made

/-- The registry behind a load that makes the operator handler `made`. -/
def withOperatorMade (registry : Registry) (pending : Pending) (made : OperatorHandler) :
    Registry :=
  let behind := ((registry.load pending).2.live made).2.bindOperators ⟨registry.fresh, made⟩
  { behind with
    operators := resolveSlots behind.operators pending.id ⟨registry.fresh, made⟩ }

/-- The registry behind a load that makes no operator handler. -/
def withoutOperatorMade (registry : Registry) (pending : Pending) : Registry :=
  { (registry.load pending).2 with
    operators := discardSlots registry.operators pending.id }

theorem loadOperators_eq (registry : Registry) (name : String) (pending : Pending) :
    registry.loadOperators name pending =
      match registry.operatorProduct? pending with
      | some made => (.ok ⟨registry.fresh, made⟩, registry.withOperatorMade pending made)
      | none => (.error (.autoloadFailed name pending.descriptor.loader.key),
          registry.withoutOperatorMade pending) := by
  unfold loadOperators operatorProduct?
  cases hload : registry.load pending with
  | mk handler? behind =>
      have hbehind : (registry.load pending).2 = behind := by rw [hload]
      have hfresh : behind.fresh = registry.fresh := by rw [← hbehind]; rfl
      have hoperators : behind.operators = registry.operators := by rw [← hbehind]; rfl
      cases handler? with
      | none => simp only [withoutOperatorMade, hbehind, hoperators]
      | some handler =>
          cases handler with
          | function made => simp only [withoutOperatorMade, hbehind, hoperators]
          | operator made => simp only [withOperatorMade, hbehind, live, hfresh]

/-- **Loading operators leaves everything alone that has to do with tags.** -/
theorem loadOperators_frame (registry : Registry) (name : String) (pending : Pending) :
    (registry.loadOperators name pending).2.functions = registry.functions ∧
      (registry.loadOperators name pending).2.childFlags = registry.childFlags ∧
      (registry.loadOperators name pending).2.loaders = registry.loaders := by
  rw [loadOperators_eq]
  cases registry.operatorProduct? pending with
  | none => exact ⟨rfl, rfl, rfl⟩
  | some made => exact ⟨rfl, rfl, rfl⟩

/-! ## Questions -/

/-- What a load keeps is kept by asking for the handler of a tag. -/
theorem function_induction {P : Registry → Prop} {registry : Registry} (h : P registry)
    (load : ∀ registry name pending, P registry → P (registry.loadFunctions name pending).2)
    (name : String) : P (registry.function name).2 := by
  unfold function
  cases registry.functions.get? name with
  | none => exact h
  | some slot =>
      cases slot with
      | live handler => exact h
      | pending descriptor => exact load registry name descriptor h

/-- What a load keeps is kept by asking for the handler of an operator. -/
theorem operator_induction {P : Registry → Prop} {registry : Registry} (h : P registry)
    (load : ∀ registry name pending, P registry → P (registry.loadOperators name pending).2)
    (name : String) : P (registry.operator name).2 := by
  unfold operator
  cases registry.operators.get? name with
  | none => exact h
  | some slot =>
      cases slot with
      | live handler => exact h
      | pending descriptor => exact load registry name descriptor h

theorem settleFlag_induction {P : Registry → Prop} {registry : Registry} (h : P registry)
    (load : ∀ registry name pending, P registry → P (registry.loadFunctions name pending).2)
    (name : String) : P (registry.settleFlag name).2 := by
  unfold settleFlag
  split
  · rename_i pending _
    have hload := load registry name pending h
    split
    · rename_i hl
      rw [hl] at hload
      exact hload
    · rename_i hl
      rw [hl] at hload
      exact hload
  · exact h

/-- **What a load and a question to a handler keep** is kept by asking whether a tag has
children. -/
theorem hasChildren_induction {P : Registry → Prop} {registry : Registry} (h : P registry)
    (load : ∀ registry name pending, P registry → P (registry.loadFunctions name pending).2)
    (ask : ∀ registry handler name, P registry → P (registry.ask handler name).2)
    (name : String) : P (registry.hasChildren name).2 := by
  have hsettled := settleFlag_induction h load name
  unfold hasChildren
  split
  · rename_i hs
    rw [hs] at hsettled
    exact hsettled
  · rename_i settled hs
    rw [hs] at hsettled
    split
    · exact hsettled
    · split
      · have hfunction := function_induction hsettled load name
        split
        · rename_i handler behind hf
          rw [hf] at hfunction
          exact ask behind handler name hfunction
        · rename_i hf
          rw [hf] at hfunction
          exact hfunction
      · exact hsettled

/-! ## Distinct names -/

/-- **No name is bound twice**, neither a tag nor an operator nor a flag. -/
structure Distinct (registry : Registry) : Prop where
  functions : registry.functions.keys.Nodup
  operators : registry.operators.keys.Nodup
  childFlags : registry.childFlags.keys.Nodup

theorem distinct_fresh : Distinct {} :=
  ⟨Table.nodup_keys_empty, Table.nodup_keys_empty, Table.nodup_keys_empty⟩

theorem Distinct.withMade {registry : Registry} (h : registry.Distinct) (pending : Pending)
    (made : FunctionHandler) : (registry.withMade pending made).Distinct :=
  ⟨Table.nodup_keys_mapValues (Table.nodup_keys_setAll h.functions _) _, h.operators,
    Table.nodup_keys_filter (Table.nodup_keys_setAll h.childFlags _) _⟩

theorem Distinct.withoutMade {registry : Registry} (h : registry.Distinct) (pending : Pending) :
    (registry.withoutMade pending).Distinct :=
  ⟨Table.nodup_keys_filter h.functions _, h.operators, Table.nodup_keys_filter h.childFlags _⟩

theorem Distinct.loadFunctions {registry : Registry} (h : registry.Distinct) (name : String)
    (pending : Pending) : (registry.loadFunctions name pending).2.Distinct := by
  rw [loadFunctions_eq]
  cases registry.product? pending with
  | none => exact h.withoutMade pending
  | some made => exact h.withMade pending made

theorem Distinct.loadOperators {registry : Registry} (h : registry.Distinct) (name : String)
    (pending : Pending) : (registry.loadOperators name pending).2.Distinct := by
  rw [loadOperators_eq]
  cases registry.operatorProduct? pending with
  | none =>
      exact ⟨h.functions, Table.nodup_keys_filter h.operators _, h.childFlags⟩
  | some made =>
      exact ⟨h.functions, Table.nodup_keys_mapValues (Table.nodup_keys_setAll h.operators _) _,
        h.childFlags⟩

/-- **Every operation keeps names distinct.** -/
theorem Distinct.apply {registry : Registry} (h : registry.Distinct) (operation : Operation) :
    (registry.apply operation).Distinct := by
  cases operation with
  | registerFunction name handler =>
      exact ⟨Table.nodup_keys_set h.functions _ _, h.operators,
        Table.nodup_keys_setAll h.childFlags _⟩
  | registerFunctions handler =>
      exact ⟨Table.nodup_keys_setAll h.functions _, h.operators,
        Table.nodup_keys_setAll h.childFlags _⟩
  | registerOperator name handler =>
      exact ⟨h.functions, Table.nodup_keys_set h.operators _ _, h.childFlags⟩
  | registerOperators handler =>
      exact ⟨h.functions, Table.nodup_keys_setAll h.operators _, h.childFlags⟩
  | registerAutoloadFunctions definition =>
      refine orElse_induction h fun registry' hr => ?_
      obtain ⟨descriptor, -, rfl⟩ := registerAutoloadFunctions_ok hr
      exact ⟨Table.nodup_keys_setAll h.functions _, h.operators,
        Table.nodup_keys_setAll h.childFlags _⟩
  | registerAutoloadOperators definition =>
      refine orElse_induction h fun registry' hr => ?_
      obtain ⟨descriptor, -, rfl⟩ := registerAutoloadOperators_ok hr
      exact ⟨h.functions, Table.nodup_keys_setAll h.operators _, h.childFlags⟩
  | registerLoader name factory => exact ⟨h.functions, h.operators, h.childFlags⟩
  | registerLiteral name =>
      show (registry.registerLiteral name).Distinct
      unfold registerLiteral
      split
      · exact h
      · exact ⟨h.functions, h.operators, h.childFlags⟩
  | unregisterFunction name =>
      refine orElse_induction h fun registry' hr => ?_
      rw [unregisterFunction_ok hr]
      exact ⟨Table.nodup_keys_erase h.functions _, h.operators, h.childFlags⟩
  | unregisterOperator name =>
      refine orElse_induction h fun registry' hr => ?_
      rw [unregisterOperator_ok hr]
      exact ⟨h.functions, Table.nodup_keys_erase h.operators _, h.childFlags⟩
  | unregisterLiteral name => exact ⟨h.functions, h.operators, h.childFlags⟩
  | function name =>
      exact function_induction h (fun _ name pending hr => hr.loadFunctions name pending) name
  | operator name =>
      exact operator_induction h (fun _ name pending hr => hr.loadOperators name pending) name
  | hasChildren name =>
      -- asking a handler changes only the count of its questions
      exact hasChildren_induction h (fun _ name pending hr => hr.loadFunctions name pending)
        (fun _ _ _ hr => ⟨hr.functions, hr.operators, hr.childFlags⟩) name

theorem distinct_run (operations : List Operation) : (run operations).Distinct :=
  run_induction distinct_fresh fun operation _ _ h => h.apply operation

/-! ## Whether a tag has children

The question by what stands in the table of flags. -/

theorem hasChildren_of_known {registry : Registry} {name : String} {flag : Bool}
    (h : registry.childFlags.get? name = some (.known flag)) :
    registry.hasChildren name = (.ok flag, registry) := by
  simp only [hasChildren, settleFlag, h]

/-- Without a flag the handler of the tag is looked up and asked. -/
theorem hasChildren_of_none {registry : Registry} {name : String}
    (h : registry.childFlags.get? name = none) :
    registry.hasChildren name =
      match registry.functions.get? name with
      | none => (.ok true, registry)
      | some _ =>
        match registry.function name with
        | (.ok handler, behind) =>
          (.ok (behind.ask handler name).1, (behind.ask handler name).2)
        | (.error problem, behind) => (.error problem, behind) := by
  obtain ⟨slot?, hf⟩ : ∃ slot?, registry.functions.get? name = slot? := ⟨_, rfl⟩
  have hcontains : registry.hasFunction name = slot?.isSome := by
    rw [hasFunction, Table.contains, hf]
  cases slot? with
  | none => simp [hasChildren, settleFlag, h, hf, hcontains]
  | some slot =>
      cases hanswer : registry.function name with
      | mk result behind =>
          cases result with
          | ok handler => simp [hasChildren, settleFlag, h, hf, hcontains, hanswer]
          | error problem => simp [hasChildren, settleFlag, h, hf, hcontains, hanswer]

/-- A flag that waits makes the registry load, and then the question is asked again. -/
theorem hasChildren_of_pending {registry : Registry} (hd : registry.Distinct) {name : String}
    {pending : Pending} (h : registry.childFlags.get? name = some (.pending pending)) :
    registry.hasChildren name =
      match registry.product? pending with
      | none => (.error (.autoloadFailed name pending.descriptor.loader.key),
          registry.withoutMade pending)
      | some made => (registry.withMade pending made).hasChildren name := by
  cases hp : registry.product? pending with
  | none => simp only [hasChildren, settleFlag, h, loadFunctions_eq, hp]
  | some made =>
      have hflag := childFlags_withMade_of_waiting hd.childFlags h made
      -- behind the load the flag is known or gone
      have hsettle : (registry.withMade pending made).settleFlag name
          = (.ok (), registry.withMade pending made) := by
        cases hfix : made.fixes name with
        | none => simp only [settleFlag, hflag, hfix, Option.map_none]
        | some flag => simp only [settleFlag, hflag, hfix, Option.map_some]
      simp only [hasChildren, hsettle]
      simp only [settleFlag, h, loadFunctions_eq, hp]

end Registry

end TextTemplate
