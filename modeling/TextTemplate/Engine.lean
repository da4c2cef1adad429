import TextTemplate.Node.Build
import TextTemplate.Resource.Cache
import TextTemplate.Resource.Loader
import TextTemplate.Store

set_option autoImplicit false

/-! # The engine

An engine holds everything that parsing and rendering depend on: the delimiters, the handlers, the variables, the
loaders and the trees parsed so far; and it collects diagnostics. Nothing here fails because of a template. What can
fail is recorded in the log and left undone. -/

namespace TextTemplate

/-- The state of an engine. -/
structure Engine where
  delimiters : Delimiters := .standard
  registry : Registry := {}
  store : Store := {}
  resources : Resources := {}
  cache : TreeCache := {}
  log : Log := []

namespace Engine

instance : Inhabited Engine := ⟨{}⟩

/-! ## Starting -/

/-- An engine without handlers. -/
def bare : Engine := {}

/-- The registry of a standard engine: the built-in operators, the delimiter tags and the tag `include`. -/
def standardRegistry : Registry :=
  (({} : Registry).registerOperators .builtins).registerFunctions .delimiters
    |>.registerFunctions .templates

/-- An engine with the standard handlers. -/
def standard : Engine := { registry := standardRegistry }

/-! ## Recording -/

/-- Records a diagnostic. -/
def note (engine : Engine) (diagnostic : Diagnostic) : Engine :=
  { engine with log := engine.log ++ [diagnostic] }

/-- Removes and gives the diagnostics recorded so far. -/
def takeLog (engine : Engine) : Log × Engine := (engine.log, { engine with log := [] })

/-! ## Delimiters -/

/-- Changes the delimiters, unless one of the new ones is empty. -/
def setDelimiters (engine : Engine) (left right : String) : Except ConfigProblem Engine :=
  match Delimiters.ofStrings? left right with
  | some delimiters => .ok { engine with delimiters }
  | none => .error .emptyDelimiter

/-! ## Handlers -/

/-- Changes the registry. -/
def withRegistry (engine : Engine) (change : Registry → Registry) : Engine :=
  { engine with registry := change engine.registry }

/-- Takes over a new registry, or records why there is none. -/
def tryRegistry (engine : Engine) (result : Except RuntimeProblem Registry)
    (diagnostic : RuntimeProblem → Diagnostic) : Engine :=
  match result with
  | .ok registry => { engine with registry }
  | .error problem => engine.note (diagnostic problem)

/-- Removes a tag; one that is not registered is worth a warning. -/
def unregisterFunction (engine : Engine) (name : String) : Engine :=
  engine.tryRegistry (engine.registry.unregisterFunction name) (.warning "unregister_function")

/-- Removes an operator; one that is not registered is worth a warning. -/
def unregisterOperator (engine : Engine) (name : String) : Engine :=
  engine.tryRegistry (engine.registry.unregisterOperator name) (.warning "unregister_operator")

/-- Registers tags whose handler is made on first use; an incomplete definition is an error. -/
def registerAutoloadFunctions (engine : Engine) (definition : Definition) : Engine :=
  engine.tryRegistry (engine.registry.registerAutoloadFunctions definition) (.error "register_functions")

/-- Registers operators whose handler is made on first use; an incomplete definition is an error. -/
def registerAutoloadOperators (engine : Engine) (definition : Definition) : Engine :=
  engine.tryRegistry (engine.registry.registerAutoloadOperators definition) (.error "register_operators")

/-- Asks whether a tag has children. -/
def hasChildren (engine : Engine) (name : String) : Except RuntimeProblem Bool × Engine :=
  let (answer, registry) := engine.registry.hasChildren name
  (answer, { engine with registry })

/-! ## Loaders -/

/-- Registers a loader for a scheme. -/
def registerLoader (engine : Engine) (scheme : String) (loader : Loader) : Engine :=
  { engine with resources := engine.resources.register scheme loader }

/-- Removes the loader of a scheme. -/
def unregisterLoader (engine : Engine) (scheme : String) : Engine :=
  { engine with resources := engine.resources.unregister scheme }

/-- Makes the loader of a scheme the default. -/
def setDefaultLoader (engine : Engine) (scheme : String) : Engine :=
  { engine with resources := engine.resources.setDefault scheme }

/-- Drops the trees of a template. -/
def invalidate (engine : Engine) (uri : String) : Engine :=
  { engine with cache := engine.cache.invalidate uri }

/-! ## Variables -/

/-- Sets a variable. -/
def setVariable (engine : Engine) (space name : String) (value : Value) : Engine :=
  { engine with store := engine.store.set space name value }

/-- Removes a variable; one that is not set is worth a warning. -/
def unsetVariable (engine : Engine) (space name : String) : Engine :=
  match engine.store.unset space name with
  | .ok (_, store) => { engine with store }
  | .error problem => engine.note (.warning "unset_variable" problem)

/-! ## Parsing and loading -/

/-- Parses a template that comes from `source`. -/
def parse (engine : Engine) (text source : String) : Tree × Engine :=
  let read := Element.read (some engine.delimiters) engine.registry.isLiteral text
  let built := Node.build engine.registry "" read.elements
  let tree : Tree :=
    { nodes := built.nodes
      source
      left := engine.delimiters.left
      right := engine.delimiters.right
      modified := false }
  (tree, { engine with
    registry := built.registry
    log := engine.log ++ read.problems.map .ofParse ++ built.log })

/-- What a template is cached under with the delimiters in force. -/
def cacheKey (engine : Engine) (uri : String) : CacheKey :=
  ⟨uri, engine.delimiters.left, engine.delimiters.right⟩

/-- The tree of a template: the cached one, or else one that is fetched and parsed now. -/
def load (engine : Engine) (uri : String) : Except ResourceProblem Published × Engine :=
  match engine.cache.get? (engine.cacheKey uri) with
  | some published => (.ok published, engine)
  | none =>
    match engine.resources.fetch uri with
    | .error problem => (.error problem, engine)
    | .ok resource =>
      let (tree, engine) := engine.parse resource.text uri
      -- the parser does not know where the text came from
      let tree := { tree with modified := resource.modified }
      let (published, cache) := engine.cache.insert (engine.cacheKey uri) tree
      (.ok published, { engine with cache })

end Engine

end TextTemplate
