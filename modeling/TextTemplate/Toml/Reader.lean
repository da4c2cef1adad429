import TextTemplate.Toml
import TextTemplate.Toml.Key
import TextTemplate.Toml.Scalar

set_option autoImplicit false

/-! # Reading TOML

A reader for version 1.1 of the format, whose main function is `Toml.read?`. Arrays and inline tables nest at most
`deepestNesting` deep; the readers of values are told by `levels` how many more of them may be opened. They are also
told by `depth` how many steps they may take; the length of the text is always enough.

Two things are left out. Numbers, truth values and moments are checked but not evaluated, for no setting has such a
value. And a document that is refused is only known to be malformed: what is wrong with it and where is not said. -/

namespace TextTemplate.Toml

/-! ## Values -/

/-- The greatest number of arrays and inline tables that stand in each other. -/
def deepestNesting : Nat := 80

mutual

/-- A value. -/
def value : (depth levels : Nat) → Reader Toml
  | 0, _, _ => none
  | depth + 1, levels, text =>
    match text, levels with
    | '[' :: rest, levels + 1 => do
      let (values, rest) ← items depth levels rest
      some (.array values, rest)
    | '{' :: rest, levels + 1 => do
      let (entries, rest) ← inlineEntries depth levels rest
      let table ← inline? entries
      some (table, rest)
    | _, _ =>
      if text.head?.any fun c => c = '"' || c = '\'' then
        (quotedText text).map fun (content, rest) => (.string content, rest)
      else (behindScalar? text).map fun rest => (.scalar, rest)

/-- The values of an array, behind its opening bracket or a comma. -/
def items : (depth levels : Nat) → Reader (List Toml)
  | 0, _, _ => none
  | depth + 1, levels, text => do
    match ← skipLines? text with
    | ']' :: rest => some ([], rest)
    | start => do
      let (first, rest) ← value depth levels start
      match ← skipLines? rest with
      | ']' :: rest => some ([first], rest)
      | ',' :: rest => do
        let (more, rest) ← items depth levels rest
        some (first :: more, rest)
      | _ => none

/-- The assignments of an inline table, behind its opening brace or a comma. -/
def inlineEntries : (depth levels : Nat) → Reader (List (List String × Toml))
  | 0, _, _ => none
  | depth + 1, levels, text => do
    match ← skipLines? text with
    | '}' :: rest => some ([], rest)
    | start => do
      let (key, rest) ← dottedKey start
      match ← skipLines? rest with
      | '=' :: rest => do
        let (content, rest) ← value depth levels (← skipLines? rest)
        match ← skipLines? rest with
        | '}' :: rest => some ([(key, content)], rest)
        | ',' :: rest => do
          let (more, rest) ← inlineEntries depth levels rest
          some ((key, content) :: more, rest)
        | _ => none
      | _ => none

end

/-! ## Documents -/

/-- A statement, without the end of its line. -/
def statement : Reader Statement := fun text => do
  match text with
  | '[' :: '[' :: rest =>
    match ← dottedKey rest with
    | (path, ']' :: ']' :: rest) => some (.element path, rest)
    | _ => none
  | '[' :: rest =>
    match ← dottedKey rest with
    | (path, ']' :: rest) => some (.header path, rest)
    | _ => none
  | _ =>
    match ← dottedKey text with
    | (key, '=' :: rest) => do
      let (content, rest) ← value (text.length + 1) deepestNesting (skipBlanks rest)
      some (.assign key content, rest)
    | _ => none

/-- The statements of a document, which has fewer than `lines` lines. -/
def statements : (lines : Nat) → List Char → Option (List Statement)
  | 0, _ => none
  | lines + 1, text => do
    match ← skipLines? text with
    | [] => some []
    | start => do
      let (first, rest) ← statement start
      let more ← statements lines (← endOfLine? rest)
      some (first :: more)

/-- The entries of a document. A byte order mark in front of it is ignored. -/
def read? (text : String) : Option Entries := do
  let text :=
    match text.toList with
    | '\ufeff' :: rest => rest
    | text => text
  document? (← statements (text.length + 1) text)

end TextTemplate.Toml
