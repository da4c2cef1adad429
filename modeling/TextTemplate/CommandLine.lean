import TextTemplate.CommandLine.Options
import TextTemplate.Config
import TextTemplate.Node.Outline
import TextTemplate.Render

set_option autoImplicit false

/-! # The command line

One template is rendered with variables from the command line, or its tree is printed. Everything here is a function of
the arguments and the file system; `Main` supplies both and carries out the `Outcome`.

The template is looked up in its own directory, so that the templates it includes are found beside it. A configuration
with a directory of templates changes that: the argument is then a name in that directory.

Left out are the texts of help and version, the wording of what is wrong with malformed arguments or a malformed
configuration, and the messages about the progress of a call that `--verbose` asks for. -/

namespace TextTemplate

/-- What a call leads to. -/
structure Outcome where
  status : Nat
  output : String := ""
  errors : String := ""
  /-- The files that were needed and that nobody has looked for. -/
  unvisited : List String := []
deriving DecidableEq, Repr

namespace CommandLine

/-! ## Paths of templates -/

/-- The components of a path: the segments that name something, and a point in front. -/
def components (path : String) : List (List Char) :=
  match Path.segments path.toList with
  | [] => []
  | first :: rest =>
    (if first = [] then [] else [first]) ++ rest.filter fun segment => segment ≠ [] && segment ≠ ['.']

/-- The directory of a path and the name of the file in it. A path that ends in a point or two names no file. -/
def splitPath (path : String) : String × String :=
  let parts := components path
  let top := if path.toList.head? = some '/' then "/" else ""
  let directory := top ++ String.intercalate "/" (parts.dropLast.map String.ofList)
  match parts.getLast? with
  | none => ("", "")
  | some last =>
    (directory, if last = ['.'] || last = ['.', '.'] then "" else String.ofList last)

/-- The directory that a template is read from and its name there. -/
def locate (template : String) (root : Option String) : String × String :=
  match root with
  | some root => (root, template)
  | none => splitPath template

/-! ## Bindings -/

/-- The value that a text stands for: a number if it is a numeral, else the text. -/
def valueOf (text : String) : Value :=
  match Number.ofText? text with
  | some number => .ofNumber number
  | none => .text text

/-- The namespace and the name of a binding: the last colon separates them. -/
def splitTarget (target : List Char) : String × String :=
  match Text.splitLast? ':' target with
  | some (space, name) => (String.ofList space, String.ofList name)
  | none => ("", String.ofList target)

/-- Sets the variable of a binding. The first equals sign separates the variable from its value. -/
def bind? (engine : Engine) (binding : String) : Option Engine :=
  (Text.splitFirst? ['='] binding.toList).map fun (target, value) =>
    let (space, name) := splitTarget target
    engine.setVariable space name (valueOf (String.ofList value))

/-- Sets the variables of bindings in order; the first one that is malformed is given back. -/
def bindAll (engine : Engine) : List String → Except String Engine
  | [] => .ok engine
  | binding :: rest =>
    match bind? engine binding with
    | some engine => bindAll engine rest
    | none => .error binding

/-! ## The call -/

/-- The outcome of a call that failed with a message. -/
def failure (message : String) (unvisited : List String) : Outcome :=
  { status := 1, errors := message ++ "\n", unvisited }

/-- The outcome of a refused configuration. -/
def refusal (problem : ConfigProblem) : Outcome :=
  let unvisited :=
    match problem with
    | .unvisited path => [path]
    | _ => []
  failure problem.message unvisited

/-- The files that an engine needed and that nobody has looked for. -/
def unvisitedOf (log : Log) : List String :=
  log.filterMap fun diagnostic =>
    match diagnostic.problem with
    | .resource (.unvisited path) => some path
    | _ => none

/-- The configuration of a call. -/
def configOf (files : FileSystem) (options : Options) : Except ConfigProblem Config := do
  let config ←
    match options.config with
    | some path => Config.ofFile files path
    | none => pure {}
  (config.withDelimiters options.left options.right).validate

/-- The engine of a call, before any variable is set, and the name of the template. -/
def prepare (files : FileSystem) (options : Options) (template : String) :
    Except ConfigProblem (Engine × String) := do
  let config ← configOf files options
  let (root, name) := locate template config.templateRoot
  -- the loader of the template takes the place of the one that the configuration asks for
  let engine ← Engine.ofConfig files config
  return ((engine.registerLoader "file" (.directory root files)).setDefaultLoader "file", name)

/-- Prints the tree of a template. -/
def printTree (engine : Engine) (name : String) : Outcome :=
  match engine.load name with
  | (.ok published, engine) =>
    { status := 0, output := published.tree.print ++ "\n", unvisited := unvisitedOf engine.log }
  | (.error problem, engine) =>
    failure problem.message (unvisitedOf (engine.note ⟨.warning, "", .resource problem⟩).log)

/-- Renders a template. -/
def renderFile (engine : Engine) (name : String) : Outcome :=
  match engine.fetch name with
  | (.ok output, engine) => { status := 0, output, unvisited := unvisitedOf engine.log }
  | (.error problem, engine) => failure problem.message (unvisitedOf engine.log)

/-- Carries out a call with these options. -/
def runOptions (files : FileSystem) (options : Options) (template : String) : Outcome :=
  match prepare files options template with
  | .error problem => refusal problem
  | .ok (engine, name) =>
    match bindAll engine options.bindings with
    | .error binding => failure s!"Invalid binding '{binding}', expected name=value." []
    | .ok engine => if options.tree then printTree engine name else renderFile engine name

/-- The outcome of a call with malformed arguments. Only the status is meant; the text stands for one that says which
argument is wrong. A call for help or for the version ends here too: its text, which belongs on the standard output, and
its status 0 are left out. -/
def misuse : Outcome :=
  { status := 2
    errors := "Usage: templar [OPTIONS] <TEMPLATE>\n" }

/-- Carries out a call. -/
def run (files : FileSystem) (arguments : List String) : Outcome :=
  match Options.ofArguments? arguments with
  | some options =>
    match options.template with
    | some template => runOptions files options template
    | none => misuse
  | none => misuse

end CommandLine

end TextTemplate
