import TextTemplate.Data.Table
import TextTemplate.Handler
import TextTemplate.Handler.Definition

set_option autoImplicit false

/-! # The registry

The registry binds tags and operators to their handlers. A name is bound to a live handler or to a descriptor,
which stands for a handler that has not been made yet. The first question about such a name makes the handler
and rebinds every name that still waits for it; if that fails, those names are forgotten.

Whether a tag has children is decided by a fixed flag if there is one, else by the handler of the tag. Flags live
in a table of their own, and a flag too may wait for a handler.

Handlers and descriptors have identities, since two that look alike are still two. The registry hands out the
identities, counts how often each handler was asked about children, and remembers which loaders were used.

Every registration and every load hands out a new identity. So a handler that is shared, because it is registered
twice or because a loader gives again what is registered already, counts as two here, each with questions of its own:
binding a name to it anew is a change, also where the same handler stood before. -/

namespace TextTemplate

/-! ## State -/

/-- A handler with its identity. -/
structure Live (α : Type) where
  id : Nat
  handler : α

/-- A descriptor with its identity. -/
structure Pending where
  id : Nat
  descriptor : Descriptor
deriving DecidableEq, Repr

/-- What a name is bound to. -/
inductive Slot (α : Type)
  | live (handler : Live α)
  | pending (descriptor : Pending)

/-- Whether the slot waits for the descriptor with the identity `id`. -/
def Slot.waitsFor {α : Type} (id : Nat) : Slot α → Bool
  | live _ => false
  | pending descriptor => descriptor.id = id

/-- Whether a tag has children, if that is fixed or will be. -/
inductive ChildFlag
  | known (flag : Bool)
  | pending (descriptor : Pending)

/-- Whether the flag waits for the descriptor with the identity `id`. -/
def ChildFlag.waitsFor (id : Nat) : ChildFlag → Bool
  | known _ => false
  | pending descriptor => descriptor.id = id

/-- One use of a descriptor: the loader it named, and whether there was one. -/
structure LoadAttempt where
  descriptor : Nat
  loader : String
  found : Bool
deriving DecidableEq, Repr

/-- The handlers of an engine. -/
structure Registry where
  functions : Table String (Slot FunctionHandler) := ∅
  operators : Table String (Slot OperatorHandler) := ∅
  childFlags : Table String ChildFlag := ∅
  loaders : Table String Factory := ∅
  /-- The tags whose bodies are copied unparsed. -/
  literals : List String := ["literal"]
  /-- The next identity. -/
  fresh : Nat := 0
  /-- How often each handler was asked about children. -/
  asked : Table Nat Nat := ∅
  /-- The descriptors used so far, oldest first. -/
  attempts : List LoadAttempt := []

namespace Registry

instance : Inhabited Registry := ⟨{}⟩

/-! ## Registering -/

/-- A new identity for a handler, also for one that has been given an identity before. -/
def live {α : Type} (registry : Registry) (handler : α) : Live α × Registry :=
  (⟨registry.fresh, handler⟩, { registry with fresh := registry.fresh + 1 })

/-- Records the flags that a handler fixes. -/
def recordChildTags (registry : Registry) (handler : FunctionHandler) : Registry :=
  { registry with
    childFlags := registry.childFlags.setAll
      (handler.childTags.map fun (tag, flag) => (tag, .known flag)) }

/-- Binds one tag to a handler that has its identity. -/
def bindFunction (registry : Registry) (name : String) (handler : Live FunctionHandler) : Registry :=
  { registry.recordChildTags handler.handler with
    functions := registry.functions.set name (.live handler) }

/-- Binds all tags that a handler serves. -/
def bindFunctions (registry : Registry) (handler : Live FunctionHandler) : Registry :=
  { registry.recordChildTags handler.handler with
    functions := registry.functions.setAll
      (handler.handler.names.map fun name => (name, .live handler)) }

/-- Binds one operator to a handler that has its identity. -/
def bindOperator (registry : Registry) (name : String) (handler : Live OperatorHandler) : Registry :=
  { registry with operators := registry.operators.set name (.live handler) }

/-- Binds all operators that a handler serves. -/
def bindOperators (registry : Registry) (handler : Live OperatorHandler) : Registry :=
  { registry with
    operators := registry.operators.setAll
      (handler.handler.names.map fun name => (name, .live handler)) }

/-- Registers a handler under one tag. -/
def registerFunction (registry : Registry) (name : String) (handler : FunctionHandler) : Registry :=
  let (handler, registry) := registry.live handler
  registry.bindFunction name handler

/-- Registers a handler under all tags that it serves. -/
def registerFunctions (registry : Registry) (handler : FunctionHandler) : Registry :=
  let (handler, registry) := registry.live handler
  registry.bindFunctions handler

/-- Registers a handler under one operator name. -/
def registerOperator (registry : Registry) (name : String) (handler : OperatorHandler) : Registry :=
  let (handler, registry) := registry.live handler
  registry.bindOperator name handler

/-- Registers a handler under all operator names that it serves. -/
def registerOperators (registry : Registry) (handler : OperatorHandler) : Registry :=
  let (handler, registry) := registry.live handler
  registry.bindOperators handler

/-- Registers tags whose handler is made on first use. -/
def registerAutoloadFunctions (registry : Registry) (definition : Definition) :
    Except RuntimeProblem Registry := do
  let pending : Pending := ⟨registry.fresh, ← definition.descriptor .function⟩
  return { registry with
    fresh := registry.fresh + 1
    functions := registry.functions.setAll
      (pending.descriptor.names.map fun name => (name, .pending pending))
    childFlags := registry.childFlags.setAll
      (pending.descriptor.childTags.map fun tag => (tag, .pending pending)) }

/-- Registers operators whose handler is made on first use. -/
def registerAutoloadOperators (registry : Registry) (definition : Definition) :
    Except RuntimeProblem Registry := do
  let pending : Pending := ⟨registry.fresh, ← definition.descriptor .operator⟩
  return { registry with
    fresh := registry.fresh + 1
    operators := registry.operators.setAll
      (pending.descriptor.names.map fun name => (name, .pending pending)) }

/-- Registers a loader. -/
def registerLoader (registry : Registry) (name : String) (factory : Factory) : Registry :=
  { registry with loaders := registry.loaders.set name factory }

/-- Makes a tag literal. -/
def registerLiteral (registry : Registry) (name : String) : Registry :=
  if name ∈ registry.literals then registry
  else { registry with literals := registry.literals ++ [name] }

/-! ## Unregistering -/

/-- Removes the binding of a tag. -/
def unregisterFunction (registry : Registry) (name : String) : Except RuntimeProblem Registry :=
  if registry.functions.contains name then
    .ok { registry with functions := registry.functions.erase name }
  else .error (.unregisterUnknown name)

/-- Removes the binding of an operator. -/
def unregisterOperator (registry : Registry) (name : String) : Except RuntimeProblem Registry :=
  if registry.operators.contains name then
    .ok { registry with operators := registry.operators.erase name }
  else .error (.unregisterUnknown name)

/-- Makes a tag an ordinary one. -/
def unregisterLiteral (registry : Registry) (name : String) : Registry :=
  { registry with literals := registry.literals.filter (· ≠ name) }

/-! ## Questions that change nothing -/

/-- Whether a tag is bound. -/
def hasFunction (registry : Registry) (name : String) : Bool := registry.functions.contains name

/-- Whether an operator is bound. -/
def hasOperator (registry : Registry) (name : String) : Bool := registry.operators.contains name

/-- Whether a tag is literal. -/
def isLiteral (registry : Registry) (name : String) : Bool := registry.literals.contains name

/-- How often the loader `name` was called. -/
def callsOf (registry : Registry) (name : String) : Nat :=
  (registry.attempts.filter fun attempt => attempt.found && attempt.loader = name).length

/-! ## Loading -/

/-- Calls the loader of a descriptor. -/
def load (registry : Registry) (pending : Pending) : Option Handler × Registry :=
  let key := pending.descriptor.loader.key
  let factory? := registry.loaders.get? key
  (factory?.bind fun factory => factory pending.descriptor.loader.parameter,
    { registry with attempts := registry.attempts ++ [⟨pending.id, key, factory?.isSome⟩] })

/-- The slots with `handler` in place of everything that waits for the descriptor `id`. -/
def resolveSlots {α : Type} (slots : Table String (Slot α)) (id : Nat) (handler : Live α) :
    Table String (Slot α) :=
  slots.mapValues fun slot => if slot.waitsFor id then .live handler else slot

/-- The slots without everything that waits for the descriptor `id`. -/
def discardSlots {α : Type} (slots : Table String (Slot α)) (id : Nat) : Table String (Slot α) :=
  slots.filter fun _ slot => !slot.waitsFor id

/-- The flags without those that wait for the descriptor `id`. -/
def discardFlags (flags : Table String ChildFlag) (id : Nat) : Table String ChildFlag :=
  flags.filter fun _ flag => !flag.waitsFor id

/-- Makes the function handler of a descriptor on behalf of the tag `name`. -/
def loadFunctions (registry : Registry) (name : String) (pending : Pending) :
    Except RuntimeProblem (Live FunctionHandler) × Registry :=
  match registry.load pending with
  | (some (.function handler), registry) =>
    let (handler, registry) := registry.live handler
    let registry := registry.bindFunctions handler
    -- flags that the handler fixed are known by now; those that still wait have no answer but its own
    (.ok handler, { registry with
      functions := resolveSlots registry.functions pending.id handler
      childFlags := discardFlags registry.childFlags pending.id })
  | (_, registry) =>
    (.error (.autoloadFailed name pending.descriptor.loader.key), { registry with
      functions := discardSlots registry.functions pending.id
      childFlags := discardFlags registry.childFlags pending.id })

/-- Makes the operator handler of a descriptor on behalf of the operator `name`. -/
def loadOperators (registry : Registry) (name : String) (pending : Pending) :
    Except RuntimeProblem (Live OperatorHandler) × Registry :=
  match registry.load pending with
  | (some (.operator handler), registry) =>
    let (handler, registry) := registry.live handler
    let registry := registry.bindOperators handler
    (.ok handler, { registry with
      operators := resolveSlots registry.operators pending.id handler })
  | (_, registry) =>
    (.error (.autoloadFailed name pending.descriptor.loader.key), { registry with
      operators := discardSlots registry.operators pending.id })

/-! ## Questions that may load a handler -/

/-- The handler of a tag. -/
def function (registry : Registry) (name : String) :
    Except RuntimeProblem (Live FunctionHandler) × Registry :=
  match registry.functions.get? name with
  | some (.live handler) => (.ok handler, registry)
  | some (.pending pending) => registry.loadFunctions name pending
  | none => (.error (.unregisteredFunction name), registry)

/-- The handler of an operator. -/
def operator (registry : Registry) (name : String) :
    Except RuntimeProblem (Live OperatorHandler) × Registry :=
  match registry.operators.get? name with
  | some (.live handler) => (.ok handler, registry)
  | some (.pending pending) => registry.loadOperators name pending
  | none => (.error (.unregisteredOperator name), registry)

/-- Asks a handler whether the tag `name` has children. -/
def ask (registry : Registry) (handler : Live FunctionHandler) (name : String) : Bool × Registry :=
  let count := (registry.asked.get? handler.id).getD 0
  (handler.handler.owns count name,
    { registry with asked := registry.asked.set handler.id (count + 1) })

/-- Makes the handler that the flag of a tag waits for, if it waits. -/
def settleFlag (registry : Registry) (name : String) : Except RuntimeProblem Unit × Registry :=
  match registry.childFlags.get? name with
  | some (.pending pending) =>
    match registry.loadFunctions name pending with
    | (.ok _, registry) => (.ok (), registry)
    | (.error problem, registry) => (.error problem, registry)
  | _ => (.ok (), registry)

/-- Whether a tag has children, by its flag, else by its handler. A tag that nobody registered has them. -/
def hasChildren (registry : Registry) (name : String) : Except RuntimeProblem Bool × Registry :=
  match registry.settleFlag name with
  | (.error problem, registry) => (.error problem, registry)
  | (.ok _, registry) =>
    -- after settling, a flag is either known or gone
    match registry.childFlags.get? name with
    | some (.known flag) => (.ok flag, registry)
    | _ =>
      if registry.hasFunction name then
        match registry.function name with
        | (.ok handler, registry) =>
          let (answer, registry) := registry.ask handler name
          (.ok answer, registry)
        | (.error problem, registry) => (.error problem, registry)
      else (.ok true, registry)

end Registry

end TextTemplate
