import TextTemplate.Evaluate

set_option autoImplicit false

/-! # Rendering

Rendering walks the nodes of a tree in order and puts their outputs together. A tag is rendered by its handler, which
receives the tag as a `Call`: the parameters and the children are actions that it carries out as it sees fit.

Templates can include templates, and themselves. The recursion over nodes is structural, and the recursion through
includes is bounded by the nesting that is left: at most `maxIncludeDepth` templates are nested. -/

namespace TextTemplate

/-- How deep includes nest. -/
def maxIncludeDepth : Nat := 32

/-! ## Contexts and calls -/

/-- What rendering depends on besides the engine: the current namespace, and how a template is included in a
namespace. -/
structure Context where
  space : String
  templateAt : (uri space : String) → Render String

/-- A tag that is being rendered. -/
structure Call where
  name : String
  /-- The parameters, each as the action that evaluates it. -/
  arguments : Table String (Render Value)
  /-- Renders the nodes between the tag and its end tag. -/
  children : Render String
  /-- How many nodes those are. -/
  childCount : Nat
  line : Nat

namespace Call

/-- Records an error on behalf of the tag. -/
def error (call : Call) (problem : RuntimeProblem) : Render Unit := record (.error call.name problem)

/-- The text of a parameter; a missing one is empty. -/
def textOf (call : Call) (name : String) : Render String :=
  match call.arguments.get? name with
  | some argument => do
    let value ← argument
    pure value.display
  | none => pure ""

/-- Evaluates parameters in order and binds them in a namespace. -/
def bindAll (space : String) : List (String × Render Value) → Render Unit
  | [] => pure ()
  | (name, argument) :: rest => do
    let value ← argument
    modify fun engine => engine.setVariable space name value
    bindAll space rest

/-- Includes the template `uri`, in a namespace of its own if there is a parameter `name`. The other parameters are
bound in that namespace. -/
def includeTemplate (call : Call) (context : Context) : Render String :=
  match call.arguments.get? "uri" with
  | none => do
    call.error (.missingParameter "uri")
    pure ""
  | some uri => do
    let uri ← uri
    let space ←
      match call.arguments.get? "name" with
      | some name => do
        let name ← name
        pure (resolveSpace context.space (some name.display))
      | none => pure context.space
    bindAll space (call.arguments.entries.filter fun (key, _) => key ≠ "uri" && key ≠ "name")
    context.templateAt uri.display space

/-- Renders the children once for each item, with the item bound to `item`. -/
def forItems (call : Call) (space : String) : List Value → Render String
  | [] => pure ""
  | item :: rest => do
    modify fun engine => engine.setVariable space "item" item
    let output ← call.children
    let more ← call.forItems space rest
    pure (output ++ more)

/-- Renders the children for the items of the array `in`. -/
def each (call : Call) (space : String) : Render String := do
  let items ← call.arguments.get? "in" |>.getD (pure .null)
  match items with
  | .array items => call.forItems space items
  | _ =>
    call.error (.missingParameter "in")
    pure ""

/-- The children, as many times as the parameter `times` says. -/
def copies (call : Call) : Render String := do
  let times ← call.arguments.get? "times" |>.getD (pure .null)
  -- the children are rendered once, and their output is copied
  let output ← call.children
  match times with
  | .integer times => pure (String.join (List.replicate times.toInt.toNat output))
  | _ => pure output

/-- Descriptions of evaluated parameters, a blank before each. -/
def describeAll : List (String × Render Value) → Render String
  | [] => pure ""
  | (name, argument) :: rest => do
    let value ← argument
    let more ← describeAll rest
    pure (s!" {name}=" ++ TextTemplate.describe value ++ more)

/-- Removes the variables of these names from a namespace; what is not set is an error. -/
def unassignAll (call : Call) (space : String) : List String → Render Unit
  | [] => pure ()
  | name :: rest => do
    match (← get).store.unset space name with
    | .ok (_, store) => modify fun engine => { engine with store }
    | .error problem => call.error problem
    call.unassignAll space rest

/-- Carries out what a function handler does. -/
def perform (call : Call) (context : Context) (action : FunctionAction) : Render String :=
  match action with
  | .templateAt => call.includeTemplate context
  | .delimiter => do
    let delimiters := (← get).delimiters
    pure (if call.name = "ldelim" then delimiters.left else delimiters.right)
  | .constant text => pure text
  | .wrap => do
    let output ← call.children
    pure ("<" ++ output ++ ">")
  | .copies => call.copies
  | .each => call.each context.space
  | .describe => do
    let parameters ← describeAll call.arguments.entries
    pure (s!"[{call.name}@{call.line}" ++ parameters ++ s!" n={call.childCount}]")
  | .assign => do
    bindAll context.space call.arguments.entries
    pure ""
  | .unassign => do
    call.unassignAll context.space call.arguments.keys
    pure ""
  | .probe => do
    let store := (← get).store
    pure (String.join (call.arguments.keys.map fun name =>
      if store.has context.space name then "1" else "0"))
  | .showNamespaces =>
    pure (s!"({context.space}|{resolveSpace context.space none}|" ++
      resolveSpace context.space (some "x") ++ ")")
  | .showDelimiters => do
    let delimiters := (← get).delimiters
    pure (delimiters.left ++ " " ++ delimiters.right)
  | .complain => do
    record (.warning call.name (.missingParameter "w"))
    record (.error "" (.missingParameter "e"))
    pure ""
  | .templateIn => do
    let uri ← call.textOf "uri"
    let space ← call.textOf "ns"
    context.templateAt uri space
  | .nothing => pure ""

end Call

/-! ## Nodes -/

/-- The handler of a tag; if there is none, that is recorded. -/
def functionHandler? (name : String) : Render (Option FunctionHandler) := do
  let engine ← get
  let (result, registry) := engine.registry.function name
  set { engine with registry }
  match result with
  | .ok handler => pure (some handler.handler)
  | .error problem =>
    record (.ofRuntime problem)
    pure none

/-- The output of a value. An object that names a template is bound to a variable and shown by that template. -/
def showValue (context : Context) (value : Value) : Render String :=
  match value with
  | .object host =>
    match host.template with
    | some template => do
      modify fun engine => engine.setVariable context.space template.variableName value
      context.templateAt template.uri context.space
    | none => pure value.display
  | _ => pure value.display

mutual

/-- Renders a node. -/
def renderNode (context : Context) : Node → Render String
  | .text content => pure content
  | .expression expression _ => do
    let value ← evaluate context.space expression
    showValue context value
  | .function name arguments children line => do
    match ← functionHandler? name with
    | some handler =>
      let call : Call :=
        { name
          arguments := arguments.mapValues (evaluate context.space)
          children := renderNodes context children
          childCount := children.length
          line }
      call.perform context handler.action
    | none => pure ""

/-- Renders nodes in order. -/
def renderNodes (context : Context) : List Node → Render String
  | [] => pure ""
  | node :: rest => do
    let output ← renderNode context node
    let more ← renderNodes context rest
    pure (output ++ more)

end

/-! ## One after the other -/

theorem run_bind {α β : Type} (action : Render α) (next : α → Render β) (engine : Engine) :
    (action >>= next).run engine = (next (action.run engine).1).run (action.run engine).2 := rfl

theorem run_renderNodes_nil (context : Context) (engine : Engine) :
    (renderNodes context []).run engine = ("", engine) := by
  rw [renderNodes]
  rfl

/-- The first node is rendered, and then the others. -/
theorem run_renderNodes_cons {context : Context} {node : Node} {rest : List Node}
    {output more : String} {engine engine₁ engine₂ : Engine}
    (hnode : (renderNode context node).run engine = (output, engine₁))
    (hrest : (renderNodes context rest).run engine₁ = (more, engine₂)) :
    (renderNodes context (node :: rest)).run engine = (output ++ more, engine₂) := by
  rw [renderNodes, run_bind, hnode, run_bind, hrest]
  rfl

/-- The first nodes are rendered, and then the others. -/
theorem renderNodes_append (context : Context) (before after : List Node) :
    renderNodes context (before ++ after) = renderNodes context before >>= fun output =>
      renderNodes context after >>= fun more => pure (output ++ more) := by
  induction before with
  | nil => simp only [List.nil_append, renderNodes, pure_bind, String.empty_append, bind_pure]
  | cons node before ih =>
    rw [List.cons_append, renderNodes, ih, renderNodes]
    simp only [bind_assoc, pure_bind, String.append_assoc]

/-! ## Templates -/

/-- The tree of a template. -/
def loadTree (uri : String) : Render (Except ResourceProblem Published) := do
  let (result, engine) := (← get).load uri
  set engine
  pure result

/-- Renders the template `uri` in a namespace, with `nesting` more levels allowed. What cannot be loaded or is nested
too deep is recorded and gives no output. -/
def renderTemplate : (nesting : Nat) → (uri space : String) → Render String
  | 0, uri, _ => do
    record (.error "include" (.includeDepthExceeded uri maxIncludeDepth))
    pure ""
  | nesting + 1, uri, space => do
    match ← loadTree uri with
    | .ok published => renderNodes ⟨space, renderTemplate nesting⟩ published.tree.nodes
    | .error problem =>
      record ⟨.error, "include", .resource problem⟩
      pure ""

/-- The context of a template that is not included by another. -/
def Context.top : Context := ⟨"", renderTemplate maxIncludeDepth⟩

namespace Engine

/-- Renders a tree with the current variables. -/
def render (engine : Engine) (tree : Tree) : String × Engine :=
  (renderNodes .top tree.nodes).run engine

/-- Parses and renders a text. -/
def renderText (engine : Engine) (text : String) : String × Engine :=
  let (tree, engine) := engine.parse text ""
  engine.render tree

/-- Loads and renders a template. A failure is recorded as a warning too. -/
def fetch (engine : Engine) (uri : String) : Except ResourceProblem String × Engine :=
  match engine.load uri with
  | (.ok published, engine) =>
    let (output, engine) := engine.render published.tree
    (.ok output, engine)
  | (.error problem, engine) =>
    (.error problem, engine.note ⟨.warning, "", .resource problem⟩)

end Engine

/-- Renders a text with variables in the global namespace, on an engine of its own. -/
def render (text : String) (bindings : List (String × Value)) : String :=
  let engine := bindings.foldl (fun engine (name, value) => engine.setVariable "" name value)
    Engine.standard
  (engine.renderText text).1

end TextTemplate
