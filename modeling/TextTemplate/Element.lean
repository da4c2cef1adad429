import TextTemplate.Delimiters

set_option autoImplicit false

/-! # Elements

A template is first cut into a flat list of elements: texts, comments, inline expressions and tags. A tag is
still one piece of text here, of which only the name is known. -/

namespace TextTemplate

/-- The three ways to write a tag. -/
inductive TagForm
  /-- `name …/` between delimiters: a tag without children. -/
  | single
  /-- `name …` between delimiters: a tag that may open a block. -/
  | normal
  /-- `/name` between delimiters: the end of a block. -/
  | closing
deriving BEq, DecidableEq, Repr

/-- What an element is. -/
inductive ElementKind
  | text
  | comment
  /-- An inline expression, such as a variable, a literal or an operator call. -/
  | expression
  /-- A tag and its name, which ends at the first white space. -/
  | tag (form : TagForm) (name : String)
deriving BEq, DecidableEq, Repr

namespace ElementKind

/-- Whether the element is a tag. -/
def isTag : ElementKind → Bool
  | tag _ _ => true
  | _ => false

/-- Whether the element is a text or an inline expression. -/
def isTextLike : ElementKind → Bool
  | text | expression => true
  | _ => false

/-- The name of a tag. -/
def name? : ElementKind → Option String
  | tag _ name => some name
  | _ => none

end ElementKind

/-- A piece of a template: what it is, its text, and the line it starts on. The text of a tag or an expression is
what stands between the delimiters, without the slash that marks the form of the tag and without the escapes of
right delimiters. -/
structure Element where
  kind : ElementKind
  text : String
  line : Nat
deriving BEq, DecidableEq, Repr

end TextTemplate
