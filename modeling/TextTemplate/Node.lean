import TextTemplate.Expression

set_option autoImplicit false

/-! # Nodes and trees

A parsed template is a forest of nodes: texts, inline expressions and function tags, of which the last may have
children. A `Tree` is such a forest together with where it came from and the delimiters it was parsed with; once
built it never changes. -/

namespace TextTemplate

/-- A node of a parsed template. -/
inductive Node
  /-- Text that is copied to the output. -/
  | text (content : String)
  /-- An inline expression and its line. -/
  | expression (value : Expression) (line : Nat)
  /-- A function tag with its arguments, the nodes up to its end tag, and its line. -/
  | function (name : String) (arguments : Arguments) (children : List Node) (line : Nat)

instance : Inhabited Node := ⟨.text ""⟩

mutual

/-- Whether two nodes are the same. -/
def Node.same : Node → Node → Bool
  | .text content, .text content' => content == content'
  | .expression value line, .expression value' line' => value.same value' && line == line'
  | .function name arguments children line, .function name' arguments' children' line' =>
    name == name' && arguments.same arguments' && Node.sameAll children children' && line == line'
  | _, _ => false

/-- Whether two forests are the same. -/
def Node.sameAll : List Node → List Node → Bool
  | [], [] => true
  | node :: rest, node' :: rest' => node.same node' && Node.sameAll rest rest'
  | _, _ => false

end

/-- A parsed template. -/
structure Tree where
  /-- The nodes at the top, in source order. -/
  nodes : List Node
  /-- Where the source came from. -/
  source : String
  /-- The left delimiter it was parsed with. -/
  left : String
  /-- The right delimiter it was parsed with. -/
  right : String
  /-- Whether the time of the last change of the source is known. -/
  modified : Bool
deriving Inhabited

end TextTemplate
