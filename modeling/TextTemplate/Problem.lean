set_option autoImplicit false

/-! # Problems

Nothing that a template contains stops the engine. What goes wrong is described by a value of one of the
types below, and the work goes on with the best result at hand: parse problems leave a tree, runtime
problems an empty value, resource problems an empty output. Only a configuration can be refused.

Each type has one function `message`, which holds all the wording. -/

namespace TextTemplate

/-- How serious a recorded problem is. -/
inductive Severity
  /-- The output is still what the template most likely meant. -/
  | warning
  /-- Part of the output was dropped or replaced by an empty value. -/
  | error
deriving BEq, DecidableEq, Repr

/-! ## Parsing -/

/-- What is wrong with a piece of template text. -/
inductive ParseFault
  /-- A left delimiter is never followed by a right one. -/
  | unterminatedTag
  /-- A comment is never closed. -/
  | unterminatedComment
  /-- A quoted text runs to the end of its tag. -/
  | unterminatedString
  /-- The literal block `name` has no end tag. -/
  | unterminatedLiteral (name : String)
  /-- Two parameters of a tag are not separated; `found` is the rest of the tag. -/
  | expectedWhitespace (found : String)
  /-- A parameter of `tag` is not of the form `name=value`; `found` is the rest of the tag. -/
  | invalidParameter (tag found : String)
  /-- An end tag has more than a name. -/
  | endTagAttributes (tag : String)
  /-- An end tag belongs to a function that takes no children. -/
  | endTagWithoutChildren (tag : String)
  /-- An end tag stands where no tag is open. -/
  | unopenedEndTag (tag : String)
  /-- The end tag `close` closes the tag `opened`. -/
  | mismatchedEndTag (opened close : String)
  /-- A tag was opened with children, and its end tag is refused. -/
  | inconsistentChildren (tag : String)
  /-- A tag is still open at the end of the template. -/
  | unclosedTag (tag : String)
  /-- Characters follow an expression; `parsed` is the part before them. -/
  | trailingJunk (junk parsed : String)
  /-- An index lacks its closing bracket. -/
  | unclosedIndex
  /-- An argument of an operator is followed by `found`, or by nothing. -/
  | parameterTerminator (operator found : String)
deriving BEq, DecidableEq, Repr

namespace ParseFault

/-- A malformed parameter ends its tag; every other fault is mended on the spot. -/
def severity : ParseFault → Severity
  | expectedWhitespace _ => .error
  | invalidParameter _ _ => .error
  | _ => .warning

/-- The description of a fault, without its place. -/
def description : ParseFault → String
  | unterminatedTag => "Unterminated tag, the rest of the template is treated as text."
  | unterminatedComment => "Unterminated comment."
  | unterminatedString => "Unterminated string literal."
  | unterminatedLiteral name => s!"Literal block '{name}' is never closed."
  | expectedWhitespace found => s!"Expected whitespace, got: '{found}'."
  | invalidParameter tag found =>
    s!"Invalid parameter characters in function '{tag}': '{found}'."
  | endTagAttributes tag => s!"End tag '{tag}' cannot have attributes."
  | endTagWithoutChildren tag =>
    s!"End tag '{tag}' for function which does not accept children, ignoring tag."
  | unopenedEndTag tag => s!"End tag '{tag}' has no matching start tag, ignoring tag."
  | mismatchedEndTag opened close =>
    s!"Unterminated tag '{opened}' does not match tag '{close}'."
  | inconsistentChildren tag =>
    s!"Function '{tag}' was opened with children but its end tag is not accepted any more."
  | unclosedTag tag => s!"Tag '{tag}' is never closed."
  | trailingJunk junk parsed => s!"Junk at variable end: '{junk}' ({parsed})."
  | unclosedIndex => "Indexing didn't end with a ']'."
  | parameterTerminator operator found =>
    s!"Parameter of operator '{operator}' didn't end with a ')' or ',', found '{found}'."

end ParseFault

/-- A fault and the line of the element it was found in. -/
structure ParseProblem where
  line : Nat
  fault : ParseFault
deriving BEq, DecidableEq, Repr

namespace ParseProblem

/-- The severity of the fault. -/
def severity (problem : ParseProblem) : Severity := problem.fault.severity

/-- The wording of a parse problem. -/
def message (problem : ParseProblem) : String :=
  let degree :=
    match problem.severity with
    | .warning => "Warning"
    | .error => "Error"
  s!"{degree} on line {problem.line}: {problem.fault.description}"

end ParseProblem

/-! ## Rendering -/

/-- The two kinds of handlers that a definition can announce. -/
inductive HandlerKind
  | function
  | operator
deriving BEq, DecidableEq, Repr

/-- The word for a kind of handler. -/
def HandlerKind.word : HandlerKind → String
  | function => "function"
  | operator => "operator"

/-- What can go wrong while a tree is rendered or a handler is registered. -/
inductive RuntimeProblem
  /-- The variable is not set. -/
  | undefinedVariable (space name : String)
  /-- The variable is not set and cannot be removed. -/
  | unsetUndefined (space name : String)
  /-- A value of this type is no key. -/
  | invalidAttributeKey (typeName : String)
  /-- An array or a map has no entry for the key. -/
  | noSuchArrayAttribute (key : String)
  /-- An object has no attribute of this name. -/
  | noSuchObjectAttribute (key : String)
  /-- The object gives no access to attributes. -/
  | noAttributeCapability (typeName : String)
  /-- A value of this type has no entries. -/
  | notAContainer (typeName : String)
  | unregisteredFunction (name : String)
  | unregisteredOperator (name : String)
  /-- A handler that is not registered cannot be removed. -/
  | unregisterUnknown (name : String)
  /-- The definition of a handler names no loader or no handler. -/
  | invalidAutoloadDefinition (kind : HandlerKind)
  /-- The loader of a handler does not exist or gives no such handler. -/
  | autoloadFailed (name loader : String)
  | argumentCountMismatch (name expected : String) (found : Nat)
  | missingParameter (parameter : String)
  /-- The include is nested deeper than the engine allows. -/
  | includeDepthExceeded (uri : String) (depth : Nat)
deriving BEq, DecidableEq, Repr

namespace RuntimeProblem

/-- The wording of a runtime problem. -/
def message : RuntimeProblem → String
  | undefinedVariable space name =>
    let place := if space = "" then "" else s!" in namespace '{space}'"
    s!"Undefined variable: '{name}'{place}."
  | unsetUndefined space name => s!"Undefined variable: '{space}:{name}', cannot unset."
  | invalidAttributeKey typeName => s!"Cannot use type {typeName} for attribute lookup."
  | noSuchArrayAttribute key => s!"No such attribute for array: {key}."
  | noSuchObjectAttribute key => s!"No such attribute for object: {key}."
  | noAttributeCapability typeName =>
    s!"Cannot retrieve attribute of object({typeName}), no attribute functions available."
  | notAContainer typeName => s!"Cannot retrieve attribute of a {typeName}."
  | unregisteredFunction name => s!"Function '{name}' is not registered."
  | unregisteredOperator name => s!"Operator '{name}' is not registered."
  | unregisterUnknown name => s!"'{name}' is not registered, cannot unregister."
  | invalidAutoloadDefinition kind => s!"Cannot register {kind.word} definition, missing data."
  | autoloadFailed name loader => s!"Autoload of '{name}' through loader '{loader}' failed."
  | argumentCountMismatch name expected found =>
    s!"Operator '{name}' expects {expected} parameter(s), got {found}."
  | missingParameter parameter => s!"Missing parameter '{parameter}'."
  | includeDepthExceeded uri depth =>
    s!"Include of '{uri}' exceeds the maximum nesting depth of {depth}."

/-- The severity of a problem that evaluation itself reports: what a template merely lacks is a warning. -/
def severity : RuntimeProblem → Severity
  | undefinedVariable _ _ => .warning
  | unregisteredFunction _ => .warning
  | unregisteredOperator _ => .warning
  | argumentCountMismatch _ _ _ => .warning
  | _ => .error

end RuntimeProblem

/-! ## Loading templates -/

/-- Why a template could not be loaded. -/
inductive ResourceProblem
  /-- No loader is registered for the scheme, and there is no default loader. -/
  | noLoader (scheme : String)
  /-- The loader does not know the template. -/
  | notFound (scheme name : String)
  /-- The name is absolute or climbs out of the directory of the loader. -/
  | outsideRoot (name : String)
  /-- The template exists and cannot be read. -/
  | unreadable (name reason : String)
  /-- Nobody has looked for the file at this path yet. -/
  | unvisited (path : String)
deriving BEq, DecidableEq, Repr

/-- The wording of a resource problem. -/
def ResourceProblem.message : ResourceProblem → String
  | noLoader scheme => s!"No resource for '{scheme}' and no default resource, aborting."
  | notFound scheme name =>
    s!"No template could be loaded for '{name}' using resource '{scheme}'."
  | outsideRoot name => s!"Template name '{name}' points outside the template directory."
  | unreadable name reason => s!"Failed to read template '{name}': {reason}."
  | unvisited path => s!"The file '{path}' has not been read."

/-! ## Configuration -/

/-- Why a configuration was refused. -/
inductive ConfigProblem
  /-- The file cannot be read. -/
  | unreadable (path reason : String)
  /-- The text is no valid configuration. -/
  | malformed
  /-- A delimiter is empty. -/
  | emptyDelimiter
  /-- Nobody has looked for the file at this path yet. -/
  | unvisited (path : String)
deriving BEq, DecidableEq, Repr

/-- The wording of a configuration problem. -/
def ConfigProblem.message : ConfigProblem → String
  | unreadable path reason => s!"Failed to read configuration file '{path}': {reason}"
  | malformed => "Invalid configuration: TOML"
  | emptyDelimiter => "Invalid configuration: delimiters cannot be empty."
  | unvisited path => s!"The file '{path}' has not been read."

/-! ## Any problem -/

/-- A problem that an engine can record. -/
inductive Problem
  | parse (problem : ParseProblem)
  | runtime (problem : RuntimeProblem)
  | resource (problem : ResourceProblem)
deriving BEq, DecidableEq, Repr

/-- The wording of a problem. -/
def Problem.message : Problem → String
  | parse problem => problem.message
  | runtime problem => problem.message
  | resource problem => problem.message

end TextTemplate
