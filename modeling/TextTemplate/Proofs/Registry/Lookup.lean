import TextTemplate.Proofs.Registry.Run

set_option autoImplicit false

/-! # What a lookup loads

A lookup is a question that may use descriptors: the handler of a tag, the handler of an operator,
or whether a tag has children. `Registry.uses` lists the descriptors that a lookup uses, with the
handler that was made of each. Most lookups use none or one. Only the question about children can
use two: the one that the flag of the tag waits for and, if its handler has no answer, the one that
the tag itself waits for.

`FunctionLoad` and `OperatorLoad` say what the use of one descriptor does to all parts of the
registry, name by name; both leave the slots of a table as `Slot.behind` has them. Main statement:
`loads_lookup`, **a lookup is a row of loads**, each for a descriptor that something waits for. -/

namespace TextTemplate

/-! ## Slots behind a load -/

namespace Slot

/-- What a name is bound to once the descriptor `id` was used: a new handler takes the names it
`claims` and those that waited for it, and a failure removes those that waited. -/
def behind {α : Type} (claims : α → List String) (id : Nat) (made? : Option (Live α))
    (name : String) (slot? : Option (Slot α)) : Option (Slot α) :=
  match made? with
  | some handler =>
    if name ∈ claims handler.handler then some (.live handler)
    else slot?.map fun slot => if slot.waitsFor id then .live handler else slot
  | none => slot?.filter fun slot => !slot.waitsFor id

variable {α : Type} {claims : α → List String} {id : Nat} {made? : Option (Live α)}
  {handler : Live α} {name : String} {slot : Slot α} {slot? : Option (Slot α)}

theorem behind_of_mem (h : name ∈ claims handler.handler) (slot? : Option (Slot α)) :
    behind claims id (some handler) name slot? = some (.live handler) :=
  if_pos h

/-- A name that neither waited nor is claimed stays as it is. -/
theorem behind_of_not_mem
    (hclaims : ∀ handler, made? = some handler → name ∉ claims handler.handler)
    (hslot : ∀ slot, slot? = some slot → slot.waitsFor id = false) :
    behind claims id made? name slot? = slot? := by
  cases slot? with
  | none =>
      cases made? with
      | none => rfl
      | some handler => rw [behind, if_neg (hclaims handler rfl), Option.map_none]
  | some slot =>
      have hwaits := hslot slot rfl
      cases made? with
      | none => rw [behind, Option.filter_some, hwaits]; rfl
      | some handler =>
          rw [behind, if_neg (hclaims handler rfl), Option.map_some, hwaits]
          rfl

/-- Behind a load a name is bound to the new handler, or as before and not to the descriptor. -/
theorem of_behind_eq_some (h : behind claims id made? name slot? = some slot) :
    (∃ handler, made? = some handler ∧ slot = .live handler) ∨
      (slot? = some slot ∧ slot.waitsFor id = false) := by
  cases made? with
  | none =>
      obtain ⟨hslot, hwaits⟩ := Option.filter_eq_some_iff.1 h
      exact Or.inr ⟨hslot, by simpa using hwaits⟩
  | some handler =>
      rw [behind] at h
      split at h
      · exact Or.inl ⟨handler, rfl, (Option.some.inj h).symm⟩
      · obtain ⟨old, hold, hnew⟩ := Option.map_eq_some_iff.1 h
        split at hnew
        · exact Or.inl ⟨handler, rfl, hnew.symm⟩
        · rename_i hwaits
          subst hnew
          exact Or.inr ⟨hold, by simpa using hwaits⟩

end Slot

/-! ## Lookups and uses -/

/-- A question that may use descriptors. -/
inductive Lookup
  | function (name : String)
  | operator (name : String)
  | hasChildren (name : String)

namespace Lookup

/-- The name that is asked for. -/
def name : Lookup → String
  | function name | operator name | hasChildren name => name

/-- The lookup as an operation. -/
def operation : Lookup → Registry.Operation
  | function name => .function name
  | operator name => .operator name
  | hasChildren name => .hasChildren name

end Lookup

/-- A descriptor that was used, and the handler that was made of it. -/
inductive Use
  | function (pending : Pending) (made? : Option (Live FunctionHandler))
  | operator (pending : Pending) (made? : Option (Live OperatorHandler))

namespace Use

def kind : Use → HandlerKind
  | function _ _ => .function
  | operator _ _ => .operator

def pending : Use → Pending
  | function pending _ | operator pending _ => pending

/-- The handler that was made, without its identity. -/
def made? : Use → Option Handler
  | function _ made? => made?.map fun live => .function live.handler
  | operator _ made? => made?.map fun live => .operator live.handler

/-- Whether no handler was made. -/
def failed (use : Use) : Bool := use.made?.isNone

/-- The tags that the new handler claims. -/
def tags : Use → List String
  | function _ (some handler) => handler.handler.names
  | _ => []

/-- The operators that the new handler claims. -/
def operators : Use → List String
  | operator _ (some handler) => handler.handler.names
  | _ => []

end Use

namespace Registry

/-- The use of a descriptor of tags. -/
def functionUse (registry : Registry) (pending : Pending) : Use :=
  .function pending ((registry.product? pending).map fun handler => ⟨registry.fresh, handler⟩)

/-- The use of a descriptor of operators. -/
def operatorUse (registry : Registry) (pending : Pending) : Use :=
  .operator pending
    ((registry.operatorProduct? pending).map fun handler => ⟨registry.fresh, handler⟩)

/-- The descriptors that are used to find the handler of a tag. -/
def functionUses (registry : Registry) (name : String) : List Use :=
  match registry.functions.get? name with
  | some (.pending pending) => [registry.functionUse pending]
  | _ => []

/-- The descriptors that are used to find the handler of an operator. -/
def operatorUses (registry : Registry) (name : String) : List Use :=
  match registry.operators.get? name with
  | some (.pending pending) => [registry.operatorUse pending]
  | _ => []

/-- The descriptors that are used to find out whether a tag has children: the one that its flag waits
for and, if the new handler fixes no flag, those that are used to find the handler of the tag. -/
def childUses (registry : Registry) (name : String) : List Use :=
  match registry.childFlags.get? name with
  | some (.known _) => []
  | none => registry.functionUses name
  | some (.pending pending) =>
    registry.functionUse pending ::
      match registry.product? pending with
      | none => []
      | some made =>
        match made.fixes name with
        | some _ => []
        | none => (registry.withMade pending made).functionUses name

/-- **The descriptors that a lookup uses**, in order. -/
def uses (registry : Registry) : Lookup → List Use
  | .function name => registry.functionUses name
  | .operator name => registry.operatorUses name
  | .hasChildren name => registry.childUses name

/-- The problem that an answer reports, if it is no answer. -/
def problem? {α : Type} : Except RuntimeProblem α → Option RuntimeProblem
  | .error problem => some problem
  | .ok _ => none

/-- What a lookup fails with, if it fails. -/
def failure? (registry : Registry) : Lookup → Option RuntimeProblem
  | .function name => problem? (registry.function name).1
  | .operator name => problem? (registry.operator name).1
  | .hasChildren name => problem? (registry.hasChildren name).1

/-! ## One load -/

/-- The use of a descriptor is noted, and loaders and literal tags stay. -/
structure Noted (before : Registry) (pending : Pending) (after : Registry) : Prop where
  attempts : after.attempts = before.attempts ++
    [⟨pending.id, pending.descriptor.loader.key,
      (before.loaders.get? pending.descriptor.loader.key).isSome⟩]
  loaders : after.loaders = before.loaders
  literals : after.literals = before.literals

/-- **The use of a descriptor of tags.** A flag that waited is the one that the new handler fixes,
or gone. -/
structure FunctionLoad (before : Registry) (pending : Pending)
    (made? : Option (Live FunctionHandler)) (after : Registry) : Prop
    extends Noted before pending after where
  made : made? = (before.product? pending).map fun handler => ⟨before.fresh, handler⟩
  fresh : after.fresh = if made?.isSome then before.fresh + 1 else before.fresh
  functions : ∀ name, after.functions.get? name
    = Slot.behind FunctionHandler.names pending.id made? name (before.functions.get? name)
  childFlags : ∀ name, after.childFlags.get? name =
    match made?.bind fun handler => handler.handler.fixes name with
    | some flag => some (.known flag)
    | none => (before.childFlags.get? name).filter fun flag => !flag.waitsFor pending.id
  operators : after.operators = before.operators

/-- **The use of a descriptor of operators.** -/
structure OperatorLoad (before : Registry) (pending : Pending)
    (made? : Option (Live OperatorHandler)) (after : Registry) : Prop
    extends Noted before pending after where
  made : made? = (before.operatorProduct? pending).map fun handler => ⟨before.fresh, handler⟩
  fresh : after.fresh = if made?.isSome then before.fresh + 1 else before.fresh
  operators : ∀ name, after.operators.get? name
    = Slot.behind OperatorHandler.names pending.id made? name (before.operators.get? name)
  functions : after.functions = before.functions
  childFlags : after.childFlags = before.childFlags

/-- One use of a descriptor takes `before` to `after`. -/
def Load (before : Registry) (use : Use) (after : Registry) : Prop :=
  match use with
  | .function pending made? => before.FunctionLoad pending made? after
  | .operator pending made? => before.OperatorLoad pending made? after

/-- Something that is called `name` waits for the descriptor. -/
def WaitsAt (registry : Registry) (name : String) (use : Use) : Prop :=
  match use with
  | .function pending _ => registry.functions.get? name = some (.pending pending) ∨
      registry.childFlags.get? name = some (.pending pending)
  | .operator pending _ => registry.operators.get? name = some (.pending pending)

/-- **A row of loads** on behalf of `name`; apart from them at most a question to a handler is
counted. -/
inductive Loads (name : String) : Registry → List Use → Registry → Prop
  | done (registry : Registry) (asked : Table Nat Nat) :
    Loads name registry [] { registry with asked }
  | load {before middle after : Registry} {use : Use} {uses : List Use} :
    before.WaitsAt name use → before.Load use middle → Loads name middle uses after →
      Loads name before (use :: uses) after

theorem functionLoad_withMade {registry : Registry} (hd : registry.Distinct) {pending : Pending}
    {made : FunctionHandler} (h : registry.product? pending = some made) :
    registry.FunctionLoad pending (some ⟨registry.fresh, made⟩)
      (registry.withMade pending made) where
  attempts := rfl
  loaders := rfl
  literals := rfl
  made := by rw [h]; rfl
  fresh := rfl
  functions := functions_withMade registry pending made
  childFlags := childFlags_withMade hd.childFlags pending made
  operators := rfl

theorem functionLoad_withoutMade {registry : Registry} (hd : registry.Distinct) {pending : Pending}
    (h : registry.product? pending = none) :
    registry.FunctionLoad pending none (registry.withoutMade pending) where
  attempts := rfl
  loaders := rfl
  literals := rfl
  made := by rw [h]; rfl
  fresh := rfl
  functions := functions_withoutMade hd.functions pending
  childFlags := childFlags_withoutMade hd.childFlags pending
  operators := rfl

theorem load_functionUse {registry : Registry} (hd : registry.Distinct) (name : String)
    (pending : Pending) :
    registry.Load (registry.functionUse pending) (registry.loadFunctions name pending).2 := by
  unfold functionUse
  rw [loadFunctions_eq]
  cases h : registry.product? pending with
  | none => exact functionLoad_withoutMade hd h
  | some made => exact functionLoad_withMade hd h

theorem load_operatorUse {registry : Registry} (hd : registry.Distinct) (name : String)
    (pending : Pending) :
    registry.Load (registry.operatorUse pending) (registry.loadOperators name pending).2 := by
  unfold operatorUse
  rw [loadOperators_eq]
  cases h : registry.operatorProduct? pending with
  | none =>
      exact ⟨⟨rfl, rfl, rfl⟩, by rw [h], rfl, Table.get?_filter hd.operators _, rfl, rfl⟩
  | some made =>
      exact ⟨⟨rfl, rfl, rfl⟩, by rw [h], rfl,
        get?_resolveSlots_setAll registry.operators made.names pending.id ⟨registry.fresh, made⟩,
        rfl, rfl⟩

/-- Every load is noted. -/
theorem Load.noted {before after : Registry} {use : Use} (h : before.Load use after) :
    before.Noted use.pending after := by
  cases use with
  | function pending made? => exact FunctionLoad.toNoted h
  | operator pending made? => exact OperatorLoad.toNoted h

/-- **A load makes what the factory of its descriptor makes**, if that is of the right kind. -/
theorem Load.made?_eq_some_iff {before after : Registry} {use : Use} (h : before.Load use after)
    (handler : Handler) :
    use.made? = some handler ↔ before.Makes use.pending handler ∧ handler.kind = use.kind := by
  cases use with
  | function pending made? =>
      have hmade : made? = (before.product? pending).map _ := FunctionLoad.made h
      rw [Use.made?, hmade, Option.map_map, Option.map_eq_some_iff]
      constructor
      · rintro ⟨made, hproduct, rfl⟩
        exact ⟨product?_eq_some_iff.1 hproduct, rfl⟩
      · rintro ⟨hmakes, hkind⟩
        cases handler with
        | function made => exact ⟨made, product?_eq_some_iff.2 hmakes, rfl⟩
        | operator made => cases hkind
  | operator pending made? =>
      have hmade : made? = (before.operatorProduct? pending).map _ := OperatorLoad.made h
      rw [Use.made?, hmade, Option.map_map, Option.map_eq_some_iff]
      constructor
      · rintro ⟨made, hproduct, rfl⟩
        exact ⟨operatorProduct?_eq_some_iff.1 hproduct, rfl⟩
      · rintro ⟨hmakes, hkind⟩
        cases handler with
        | function made => cases hkind
        | operator made => exact ⟨made, operatorProduct?_eq_some_iff.2 hmakes, rfl⟩

/-! ## Lookups are rows of loads -/

/-- A single load. -/
theorem Loads.single {name : String} {before after : Registry} {use : Use}
    (waits : before.WaitsAt name use) (load : before.Load use after) :
    Loads name before [use] after :=
  .load waits load (.done after after.asked)

theorem loads_function {registry : Registry} (hd : registry.Distinct) (name : String) :
    Loads name registry (registry.functionUses name) (registry.function name).2 := by
  unfold functionUses function
  cases h : registry.functions.get? name with
  | none => exact .done registry registry.asked
  | some slot =>
      cases slot with
      | live handler => exact .done registry registry.asked
      | pending pending => exact .single (Or.inl h) (load_functionUse hd name pending)

theorem loads_operator {registry : Registry} (hd : registry.Distinct) (name : String) :
    Loads name registry (registry.operatorUses name) (registry.operator name).2 := by
  unfold operatorUses operator
  cases h : registry.operators.get? name with
  | none => exact .done registry registry.asked
  | some slot =>
      cases slot with
      | live handler => exact .done registry registry.asked
      | pending pending => exact .single h (load_operatorUse hd name pending)

/-- A question to a handler is only counted. -/
theorem Loads.ask {name : String} {before after : Registry} {uses : List Use}
    (h : Loads name before uses after) (handler : Live FunctionHandler) (tag : String) :
    Loads name before uses (after.ask handler tag).2 := by
  induction h with
  | done registry asked => exact .done registry _
  | load waits load _ ih => exact .load waits load ih

/-- Without a flag, whether a tag has children takes the loads that its handler takes. -/
theorem loads_hasChildren_of_none {registry : Registry} (hd : registry.Distinct) {name : String}
    (h : registry.childFlags.get? name = none) :
    Loads name registry (registry.functionUses name) (registry.hasChildren name).2 := by
  have hloads := loads_function hd name
  rw [hasChildren_of_none h]
  cases hf : registry.functions.get? name with
  | none => simpa only [function, hf] using hloads
  | some slot =>
      cases hanswer : registry.function name with
      | mk result behind =>
          rw [hanswer] at hloads
          cases result with
          | ok handler => exact hloads.ask handler name
          | error problem => exact hloads

theorem loads_hasChildren {registry : Registry} (hd : registry.Distinct) (name : String) :
    Loads name registry (registry.childUses name) (registry.hasChildren name).2 := by
  cases h : registry.childFlags.get? name with
  | none =>
      simp only [childUses, h]
      exact loads_hasChildren_of_none hd h
  | some flag =>
      cases flag with
      | known flag =>
          simp only [childUses, h, hasChildren_of_known h]
          exact .done registry registry.asked
      | pending pending =>
          have hwaits : registry.WaitsAt name (registry.functionUse pending) := Or.inr h
          have hload := load_functionUse hd name pending
          simp only [childUses, h, hasChildren_of_pending hd h]
          rw [loadFunctions_eq] at hload
          cases hp : registry.product? pending with
          | none =>
              rw [hp] at hload
              exact .single hwaits hload
          | some made =>
              rw [hp] at hload
              refine .load hwaits hload ?_
              have hflag := childFlags_withMade_of_waiting hd.childFlags h made
              cases hfix : made.fixes name with
              | some flag =>
                  rw [hfix] at hflag
                  simp only [hfix, hasChildren_of_known hflag]
                  exact .done _ _
              | none =>
                  -- the flag is gone, and the tag may wait for another descriptor
                  rw [hfix] at hflag
                  simp only [hfix]
                  exact loads_hasChildren_of_none (hd.withMade pending made) hflag

/-- What a row of loads makes is what the factories in front of it make, for a load leaves the loaders
alone. -/
theorem Loads.made?_eq_some_iff {name : String} {before after : Registry} {uses : List Use}
    (h : Loads name before uses after) {use : Use} (hu : use ∈ uses) (handler : Handler) :
    use.made? = some handler ↔ before.Makes use.pending handler ∧ handler.kind = use.kind := by
  induction h with
  | done registry asked => cases hu
  | load _ load _ ih =>
      rcases List.mem_cons.1 hu with rfl | hu
      · exact load.made?_eq_some_iff handler
      · rw [ih hu, makes_congr load.noted.loaders]

/-- **A lookup is a row of loads**, each for a descriptor that something waits for. -/
theorem loads_lookup {registry : Registry} (hd : registry.Distinct) (lookup : Lookup) :
    Loads lookup.name registry (registry.uses lookup) (registry.apply lookup.operation) := by
  cases lookup with
  | function name => exact loads_function hd name
  | operator name => exact loads_operator hd name
  | hasChildren name => exact loads_hasChildren hd name

/-! ## Failures -/

/-- A load that makes no handler fails on behalf of the name that was asked for. -/
theorem loadFunctions_of_failed {registry : Registry} {name : String} {pending : Pending}
    (h : (registry.functionUse pending).failed = true) :
    (registry.loadFunctions name pending).1
      = .error (.autoloadFailed name pending.descriptor.loader.key) := by
  rw [loadFunctions_eq]
  cases hp : registry.product? pending with
  | none => rfl
  | some made => simp [functionUse, Use.failed, Use.made?, hp] at h

theorem function_of_failed {registry : Registry} {name : String} {use : Use}
    (hu : use ∈ registry.functionUses name) (hf : use.failed = true) :
    (registry.function name).1
      = .error (.autoloadFailed name use.pending.descriptor.loader.key) := by
  unfold functionUses at hu
  split at hu
  · rename_i pending h
    obtain rfl := List.mem_singleton.1 hu
    simp only [function, h]
    exact loadFunctions_of_failed hf
  · cases hu

theorem operator_of_failed {registry : Registry} {name : String} {use : Use}
    (hu : use ∈ registry.operatorUses name) (hf : use.failed = true) :
    (registry.operator name).1
      = .error (.autoloadFailed name use.pending.descriptor.loader.key) := by
  unfold operatorUses at hu
  split at hu
  · rename_i pending h
    obtain rfl := List.mem_singleton.1 hu
    simp only [operator, h, loadOperators_eq]
    cases hp : registry.operatorProduct? pending with
    | none => rfl
    | some made => simp [operatorUse, Use.failed, Use.made?, hp] at hf
  · cases hu

theorem hasChildren_of_none_of_failed {registry : Registry} {name : String} {use : Use}
    (h : registry.childFlags.get? name = none) (hu : use ∈ registry.functionUses name)
    (hf : use.failed = true) :
    (registry.hasChildren name).1
      = .error (.autoloadFailed name use.pending.descriptor.loader.key) := by
  have hfailed := function_of_failed hu hf
  rw [hasChildren_of_none h]
  cases hslot : registry.functions.get? name with
  | none => simp [functionUses, hslot] at hu
  | some slot =>
      cases hanswer : registry.function name with
      | mk result behind =>
          rw [hanswer] at hfailed
          simp only at hfailed
          rw [hfailed]

theorem hasChildren_of_failed {registry : Registry} (hd : registry.Distinct) {name : String}
    {use : Use} (hu : use ∈ registry.childUses name) (hf : use.failed = true) :
    (registry.hasChildren name).1
      = .error (.autoloadFailed name use.pending.descriptor.loader.key) := by
  cases h : registry.childFlags.get? name with
  | none =>
      simp only [childUses, h] at hu
      exact hasChildren_of_none_of_failed h hu hf
  | some flag =>
      cases flag with
      | known flag =>
          simp only [childUses, h] at hu
          cases hu
      | pending pending =>
          simp only [childUses, h] at hu
          rw [hasChildren_of_pending hd h]
          rcases List.mem_cons.1 hu with rfl | hu
          · have hfailed : (registry.loadFunctions name pending).1 = _ :=
              loadFunctions_of_failed hf
            rw [loadFunctions_eq] at hfailed
            cases hp : registry.product? pending with
            | none => rfl
            | some made =>
                rw [hp] at hfailed
                cases hfailed
          · cases hp : registry.product? pending with
            | none =>
                rw [hp] at hu
                cases hu
            | some made =>
                simp only [hp] at hu
                have hflag := childFlags_withMade_of_waiting hd.childFlags h made
                cases hfix : made.fixes name with
                | some flag =>
                    simp only [hfix] at hu
                    cases hu
                | none =>
                    rw [hfix] at hflag
                    simp only [hfix] at hu
                    exact hasChildren_of_none_of_failed hflag hu hf

/-- **A load that fails makes the lookup fail**, on behalf of the name that was asked for. -/
theorem failure?_of_failed {registry : Registry} (hd : registry.Distinct) {lookup : Lookup}
    {use : Use} (hu : use ∈ registry.uses lookup) (hf : use.failed = true) :
    registry.failure? lookup
      = some (.autoloadFailed lookup.name use.pending.descriptor.loader.key) := by
  cases lookup with
  | function name => rw [failure?, function_of_failed hu hf]; rfl
  | operator name => rw [failure?, operator_of_failed hu hf]; rfl
  | hasChildren name => rw [failure?, hasChildren_of_failed hd hu hf]; rfl

end Registry

end TextTemplate
