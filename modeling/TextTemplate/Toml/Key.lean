import TextTemplate.Text.Classes
import TextTemplate.Toml.Quoted

set_option autoImplicit false

/-! # Keys of TOML

A key is bare or quoted on one line. Keys with points between them lead through nested tables; there are at most
`longestPath` of them. -/

namespace TextTemplate.Toml

/-- The greatest number of keys with points between them. -/
def longestPath : Nat := 80

/-- One key. -/
def simpleKey : Reader String := fun text =>
  match text with
  | '"' :: rest => (basicText (rest.length + 1) rest).map fun (key, rest) => (String.ofList key, rest)
  | '\'' :: rest => (literalText rest).map fun (key, rest) => (String.ofList key, rest)
  | _ =>
    let key := text.takeWhile Text.isWordChar
    if key = [] then none else some (String.ofList key, text.dropWhile Text.isWordChar)

/-- At most `count` keys with points between them, and the blanks around them. -/
def dottedKeyWithin : (count : Nat) → Reader (List String)
  | 0, _ => none
  | count + 1, text => do
    let (key, rest) ← simpleKey (skipBlanks text)
    match skipBlanks rest with
    | '.' :: rest => do
      let (more, rest) ← dottedKeyWithin count rest
      some (key :: more, rest)
    | rest => some ([key], rest)

/-- Keys with points between them. -/
def dottedKey : Reader (List String) := dottedKeyWithin longestPath

end TextTemplate.Toml
