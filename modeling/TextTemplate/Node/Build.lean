import TextTemplate.Diagnostic
import TextTemplate.Element.Layout
import TextTemplate.Expression.Parser
import TextTemplate.Node
import TextTemplate.Registry

set_option autoImplicit false

/-! # Building a tree

The third pass turns elements into nodes. A normal tag that has children opens a scope, which lasts until its end
tag. The open scopes are frames: each keeps the nodes that come before its tag, so that closing a scope puts the
tag with its children behind them.

Nothing that is nested badly is lost. An end tag closes the innermost scope even if that has another name, it is
ignored if nothing is open or its tag has no children, and scopes that are left open end with the template. The
registry decides at the opening tag whether there are children, and it is asked again at the end tag. -/

namespace TextTemplate

/-- An open tag, and the nodes in front of it, last one first. -/
structure Frame where
  before : List Node
  name : String
  arguments : Arguments
  line : Nat

/-- The work on a tree. -/
structure Builder where
  /-- The registry, which may load handlers when it is asked. -/
  registry : Registry
  /-- The open tags, innermost first. -/
  frames : List Frame
  /-- The nodes of the innermost scope, last one first. -/
  nodes : List Node
  log : Log

namespace Builder

/-! ## Steps -/

/-- Adds a node to the innermost scope. -/
def push (builder : Builder) (node : Node) : Builder :=
  { builder with nodes := node :: builder.nodes }

/-- Records diagnostics. -/
def note (builder : Builder) (log : Log) : Builder := { builder with log := builder.log ++ log }

/-- Records a fault of the element on `line`. -/
def fault (builder : Builder) (line : Nat) (fault : ParseFault) : Builder :=
  builder.note [.ofParse ⟨line, fault⟩]

/-- Records faults of the element on `line`. -/
def faults (builder : Builder) (line : Nat) (faults : List ParseFault) : Builder :=
  builder.note (faults.map fun fault => .ofParse ⟨line, fault⟩)

/-- Opens a scope. -/
def openScope (builder : Builder) (name : String) (arguments : Arguments) (line : Nat) : Builder :=
  { builder with frames := ⟨builder.nodes, name, arguments, line⟩ :: builder.frames, nodes := [] }

/-- Closes the innermost scope, if one is open. -/
def closeScope (builder : Builder) : Builder :=
  match builder.frames with
  | [] => builder
  | frame :: frames =>
    let node := .function frame.name frame.arguments builder.nodes.reverse frame.line
    { builder with frames, nodes := node :: frame.before }

/-- Asks whether the tag `name` has children. A handler that cannot be loaded is recorded, and the tag is taken to
have them. -/
def ownsChildren (builder : Builder) (name : String) : Bool × Builder :=
  match builder.registry.hasChildren name with
  | (.ok answer, registry) => (answer, { builder with registry })
  | (.error problem, registry) => (true, { builder with registry }.note [.error "" problem])

/-- Adds an inline expression. -/
def addExpression (builder : Builder) (space body : String) (line : Nat) : Builder :=
  let cursor := Parser.Cursor.ofBody body
  let parsed := Parser.expression space cursor.rest
  let cursor := cursor.moveTo parsed
  let builder := builder.faults line parsed.faults
  let builder :=
    if cursor.isAtEnd then builder
    else builder.fault line (.trailingJunk cursor.ahead cursor.passed)
  builder.push (.expression parsed.value line)

/-- Adds a tag without an end tag, or opens the scope of a tag that has children. -/
def addTag (builder : Builder) (space body : String) (form : TagForm) (line : Nat) : Builder :=
  let parsed := Parser.tag space (Token.tokenize body)
  let (name, arguments) := parsed.value
  let builder := builder.faults line parsed.faults
  let leaf := Node.function name arguments [] line
  if form = .normal then
    let (owns, builder) := builder.ownsChildren name
    if owns then builder.openScope name arguments line else builder.push leaf
  else builder.push leaf

/-- Closes a scope at an end tag. -/
def addEndTag (builder : Builder) (body : String) (line : Nat) : Builder :=
  let lexemes := Token.tokenize body
  let name := Parser.identifier lexemes
  let extra := (Parser.afterIdentifier lexemes).any fun lexeme =>
    lexeme.text.any fun c => !Text.isBlank c
  let builder := if extra then builder.fault line (.endTagAttributes name) else builder
  let (owns, builder) := builder.ownsChildren name
  match builder.frames with
  | [] =>
    builder.fault line (if owns then .unopenedEndTag name else .endTagWithoutChildren name)
  | frame :: _ =>
    if owns then
      -- the innermost scope ends here, whatever its name
      let builder :=
        if frame.name = name then builder
        else builder.fault line (.mismatchedEndTag frame.name name)
      builder.closeScope
    -- the tag had children when it was opened, so its scope must end somewhere
    else if frame.name = name then
      (builder.fault line (.inconsistentChildren name)).closeScope
    else builder.fault line (.endTagWithoutChildren name)

/-- Adds an element. -/
def add (space : String) (builder : Builder) (element : Element) : Builder :=
  match element.kind with
  | .text => builder.push (.text element.text)
  | .comment => builder
  | .expression => builder.addExpression space element.text element.line
  | .tag .closing _ => builder.addEndTag element.text element.line
  | .tag form _ => builder.addTag space element.text form element.line

/-- Closes the scopes that are left open, from the inside out. -/
def closeAll (registry : Registry) (frames : List Frame) (nodes : List Node) (log : Log) : Builder :=
  match frames with
  | [] => ⟨registry, [], nodes, log⟩
  | frame :: frames =>
    closeAll registry frames
      (.function frame.name frame.arguments nodes.reverse frame.line :: frame.before)
      (log ++ [.ofParse ⟨frame.line, .unclosedTag frame.name⟩])

/-- Ends the work. -/
def finish (builder : Builder) : Builder :=
  closeAll builder.registry builder.frames builder.nodes builder.log

end Builder

/-- A forest, the registry after the questions asked while it was built, and what was found wrong. -/
structure Built where
  nodes : List Node
  registry : Registry
  log : Log

/-- Builds the nodes of laid out elements. Every variable reference is put into the namespace `space`. -/
def Node.build (registry : Registry) (space : String) (elements : List Element) : Built :=
  let builder := (elements.foldl (Builder.add space) ⟨registry, [], [], []⟩).finish
  ⟨builder.nodes.reverse, builder.registry, builder.log⟩

end TextTemplate
