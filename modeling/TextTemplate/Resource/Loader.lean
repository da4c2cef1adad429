import TextTemplate.Problem
import TextTemplate.Resource.FileSystem

set_option autoImplicit false

/-! # Loaders of templates

A template is named by a text such as `scheme:name`. The loader registered for the scheme fetches it; without a known
scheme the default loader does. A loader holds its templates in memory or reads them from a directory, and a directory
loader refuses every name that could lead out of its directory before it looks at any file. -/

namespace TextTemplate

/-- The text of a template, and whether the time of its last change is known. -/
structure Resource where
  text : String
  modified : Bool
deriving DecidableEq, Repr

/-- A source of templates. -/
inductive Loader
  | memory (templates : Table String String)
  /-- The files below the directory `root`. -/
  | directory (root : String) (files : FileSystem)

namespace Loader

/-- Whether a name stays below the directory that it is looked up in. -/
def staysInside (name : String) : Bool :=
  name.toList.head? ≠ some '/' && !(Path.segments name.toList).contains ['.', '.']

/-- Fetches the template `name`. -/
def fetch (loader : Loader) (name : String) : Except ResourceProblem Resource :=
  match loader with
  | memory templates =>
    match templates.get? name with
    | some text => .ok ⟨text, false⟩
    | none => .error (.notFound "" name)
  | directory root files =>
    if !staysInside name then .error (.outsideRoot name)
    else
      match files (Path.join root name) with
      | .text text => .ok ⟨text, true⟩
      | .missing => .error (.notFound "file" name)
      | .failure reason => .error (.unreadable name reason)
      | .unvisited => .error (.unvisited (Path.join root name))

end Loader

/-! ## Schemes -/

/-- The loaders of an engine by scheme, and the scheme to fall back on. -/
structure Resources where
  loaders : Table String Loader := ∅
  fallback : Option String := none

namespace Resources

instance : Inhabited Resources := ⟨{}⟩

/-- Registers a loader. The first one registered becomes the default. -/
def register (resources : Resources) (scheme : String) (loader : Loader) : Resources :=
  { loaders := resources.loaders.set scheme loader
    fallback := resources.fallback <|> some scheme }

/-- Removes the loader of a scheme. -/
def unregister (resources : Resources) (scheme : String) : Resources :=
  { loaders := resources.loaders.erase scheme
    fallback := if resources.fallback = some scheme then none else resources.fallback }

/-- Makes the loader of a scheme the default, whether there is one or not. -/
def setDefault (resources : Resources) (scheme : String) : Resources :=
  { resources with fallback := some scheme }

/-- The scheme and the name in the name of a template. The first colon separates them. -/
def splitUri (uri : String) : String × String :=
  match Text.splitFirst? [':'] uri.toList with
  | some (scheme, name) => (String.ofList scheme, String.ofList name)
  | none => ("", uri)

/-- The loader for a scheme. -/
def loaderFor? (resources : Resources) (scheme : String) : Option Loader :=
  resources.loaders.get? scheme <|> resources.fallback.bind resources.loaders.get?

/-- Fetches the template that `uri` names. -/
def fetch (resources : Resources) (uri : String) : Except ResourceProblem Resource :=
  let (scheme, name) := splitUri uri
  match resources.loaderFor? scheme with
  | none => .error (.noLoader scheme)
  | some loader =>
    match loader.fetch name with
    | .error (.notFound _ name) => .error (.notFound scheme name)
    | result => result

end Resources

end TextTemplate
