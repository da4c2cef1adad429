import TextTemplate.Problem

set_option autoImplicit false

/-! # Definitions of handlers

A handler can be announced before it exists: a definition gives its names and the loader that will make it. A
definition is what a configuration contains, so anything may be missing; a descriptor is a definition that was
found complete. -/

namespace TextTemplate

/-- The announcement of a handler, as it is written down. -/
structure Definition where
  /-- A loader under a plain name. -/
  function : Option String
  /-- The module that provides the class. -/
  script : Option String
  /-- A loader under the name of a class. -/
  className : Option String
  /-- The parameter of the class. -/
  classParameter : Option String
  /-- The names that the handler serves. -/
  names : List String
  /-- The tags of which the handler will say whether they have children. -/
  childTags : List String
deriving BEq, DecidableEq, Repr, Inhabited

/-- The loader of a handler. -/
inductive LoaderName
  | plain (name : String)
  | ofClass (script : Option String) (name : String) (parameter : Option String)
deriving BEq, DecidableEq, Repr

namespace LoaderName

/-- The name under which the loader is registered. -/
def key : LoaderName → String
  | plain name => name
  | ofClass _ name _ => name

/-- What the loader is told. -/
def parameter : LoaderName → Option String
  | plain _ => none
  | ofClass _ _ parameter => parameter

/-- The module that provides the loader. -/
def script : LoaderName → Option String
  | plain _ => none
  | ofClass script _ _ => script

end LoaderName

/-- A complete definition. -/
structure Descriptor where
  loader : LoaderName
  names : List String
  childTags : List String
deriving BEq, DecidableEq, Repr

/-- The descriptor of a definition that names a loader and a handler. A plain loader takes precedence over a
class. -/
def Definition.descriptor (kind : HandlerKind) (definition : Definition) :
    Except RuntimeProblem Descriptor :=
  let loader? :=
    match definition.function, definition.className with
    | some name, _ => some (.plain name)
    | none, some name => some (.ofClass definition.script name definition.classParameter)
    | none, none => none
  match loader? with
  | some loader =>
    if definition.names.isEmpty then .error (.invalidAutoloadDefinition kind)
    else .ok ⟨loader, definition.names, definition.childTags⟩
  | none => .error (.invalidAutoloadDefinition kind)

end TextTemplate
