import TextTemplate.Engine
import TextTemplate.Toml.Reader

set_option autoImplicit false

/-! # Configurations

What can be said about an engine in a file: its delimiters, literal tags, the directory of its templates and the
handlers that are made when they are first needed. A file is a TOML document with exactly the keys below; a key that
is missing keeps its default, and a key that is not known makes the file invalid.

A group of settings is written as a table, or as an array of its values in the order of the keys.

A text that is no document and a document with a wrong key or value are both `ConfigProblem.malformed`; which key or
value it is, is not said. -/

namespace TextTemplate

/-- The settings of an engine. -/
structure Config where
  left : String := Delimiters.standard.left
  right : String := Delimiters.standard.right
  /-- Literal tags besides the standard one. -/
  literals : List String := []
  /-- The directory that templates are read from. -/
  templateRoot : Option String := none
  functions : List Definition := []
  operators : List Definition := []
deriving BEq, DecidableEq, Repr, Inhabited

namespace Config

/-! ## Reading values -/

/-- A text. -/
def text? : Toml → Option String
  | .string value => some value
  | _ => none

/-- The values of an array, or the tables of an array of tables. -/
def items? : Toml → Option (List Toml)
  | .array items => some items
  | .tables elements => some (elements.reverse.map fun entries => .table .header entries)
  | _ => none

/-- An array of texts. -/
def texts? (value : Toml) : Option (List String) := do
  (← items? value).mapM text?

/-- The entries of a group of settings with these keys. Entries of an array beyond the last key are ignored. -/
def group? (keys : List String) : Toml → Option (Toml.Entries × Bool)
  | .table _ entries => if entries.all fun (key, _) => keys.contains key then some (entries, true) else none
  | .array items => some (keys.zip items, false)
  | .tables elements =>
    some (keys.zip (elements.reverse.map fun entries => .table .header entries), false)
  | _ => none

/-- The setting under a key, or its default. -/
def settingOr {α : Type} (entries : Toml.Entries) (key : String) (read : Toml → Option α)
    (fallback : α) : Option α :=
  match entries.lookup key with
  | some value => read value
  | none => some fallback

/-- A setting that need not be there. An array has to hold it nevertheless. -/
def optional? (entries : Toml.Entries) (named : Bool) (key : String) : Option (Option String) :=
  match entries.lookup key with
  | some value => (text? value).map some
  | none => if named then some none else none

/-- The definition of a handler. -/
def definition? (value : Toml) : Option Definition := do
  let (entries, named) ←
    group? ["function", "script", "class", "class_parameter", "names", "child_tags"] value
  return {
    function := ← optional? entries named "function"
    script := ← optional? entries named "script"
    className := ← optional? entries named "class"
    classParameter := ← optional? entries named "class_parameter"
    names := ← settingOr entries "names" texts? []
    childTags := ← settingOr entries "child_tags" texts? [] }

/-- An array of definitions. -/
def definitions? (value : Toml) : Option (List Definition) := do
  (← items? value).mapM definition?

/-- The handlers of a configuration: those of functions and those of operators. -/
def handlers? (value : Toml) : Option (List Definition × List Definition) := do
  let (entries, _) ← group? ["functions", "operators"] value
  return (← settingOr entries "functions" definitions? [], ← settingOr entries "operators" definitions? [])

/-- The settings of a document. -/
def ofEntries? (entries : Toml.Entries) : Option Config := do
  let (entries, _) ←
    group? ["left_delimiter", "right_delimiter", "literals", "template_root", "autoload"]
      (.table .header entries)
  let (functions, operators) ← settingOr entries "autoload" handlers? ([], [])
  return {
    left := ← settingOr entries "left_delimiter" text? Delimiters.standard.left
    right := ← settingOr entries "right_delimiter" text? Delimiters.standard.right
    literals := ← settingOr entries "literals" texts? []
    templateRoot := ← optional? entries true "template_root"
    functions
    operators }

/-! ## Configurations -/

/-- Refuses empty delimiters. -/
def validate (config : Config) : Except ConfigProblem Config :=
  if config.left = "" || config.right = "" then .error .emptyDelimiter else .ok config

/-- The configuration that a text holds. -/
def ofToml (text : String) : Except ConfigProblem Config :=
  match (Toml.read? text).bind ofEntries? with
  | some config => config.validate
  | none => .error .malformed

/-- The configuration with other delimiters, where they are given. -/
def withDelimiters (config : Config) (left right : Option String) : Config :=
  { config with left := left.getD config.left, right := right.getD config.right }

/-- The configuration in the file at a path. -/
def ofFile (files : FileSystem) (path : String) : Except ConfigProblem Config :=
  match files path with
  | .text text => ofToml text
  | .missing => .error (.unreadable path Reading.missingReason)
  | .failure reason => .error (.unreadable path reason)
  | .unvisited => .error (.unvisited path)

end Config

/-- A standard engine with the settings of a configuration. A definition that is not complete is recorded and left
out. -/
def Engine.ofConfig (files : FileSystem) (config : Config) : Except ConfigProblem Engine := do
  let engine ← Engine.standard.setDelimiters config.left config.right
  let engine := engine.withRegistry fun registry => config.literals.foldl Registry.registerLiteral registry
  let engine :=
    match config.templateRoot with
    | some root => engine.registerLoader "file" (.directory root files)
    | none => engine
  let engine := config.functions.foldl Engine.registerAutoloadFunctions engine
  return config.operators.foldl Engine.registerAutoloadOperators engine

end TextTemplate
