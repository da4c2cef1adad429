set_option autoImplicit false

/-! # Blanks, line breaks and comments of TOML

The readers of TOML work on a list of characters. A `Reader` reads from the start of a text and gives what it read
together with the rest, or nothing if the text is malformed. This module holds what separates the parts of a document:
blanks within a line, line breaks (a line feed, alone or behind a carriage return) and comments. -/

namespace TextTemplate.Toml

/-- What was read and the rest of the text. -/
abbrev Reader (α : Type) := List Char → Option (α × List Char)

/-- A blank within a line. -/
def isBlank (c : Char) : Bool := c = ' ' || c = '\t'

/-- A control character other than the tab. -/
def isControl (c : Char) : Bool := (c.toNat < 0x20 && c ≠ '\t') || c.toNat = 0x7F

/-- The text behind the blanks at its start. -/
def skipBlanks (text : List Char) : List Char := text.dropWhile isBlank

/-- The text behind a line break. -/
def lineBreak? : List Char → Option (List Char)
  | '\n' :: rest => some rest
  | '\r' :: '\n' :: rest => some rest
  | _ => none

/-- The text behind the blanks and line breaks at its start. -/
def skipSpace : List Char → List Char
  | [] => []
  | '\r' :: '\n' :: rest => skipSpace rest
  | c :: rest => if isBlank c || c = '\n' then skipSpace rest else c :: rest

/-- The text behind a comment, if one starts here. -/
def skipComment? (text : List Char) : Option (List Char) :=
  match text with
  | '#' :: rest =>
    let behind := rest.dropWhile fun c => c ≠ '\n' && c ≠ '\r'
    let body := rest.takeWhile fun c => c ≠ '\n' && c ≠ '\r'
    if body.any isControl then none else some behind
  | _ => some text

/-- The text behind the end of a line, with blanks and a comment in front of it. -/
def endOfLine? (text : List Char) : Option (List Char) := do
  let rest ← skipComment? (skipBlanks text)
  if rest = [] then some [] else lineBreak? rest

/-- The text behind blanks, comments and line breaks, of which there are fewer than `lines`. -/
def skipLinesWithin : (lines : Nat) → List Char → Option (List Char)
  | 0, _ => none
  | lines + 1, text => do
    let rest ← skipComment? (skipBlanks text)
    match lineBreak? rest with
    | some behind => skipLinesWithin lines behind
    | none => some rest

/-- The text behind blanks, comments and line breaks. -/
def skipLines? (text : List Char) : Option (List Char) := skipLinesWithin (text.length + 1) text

end TextTemplate.Toml
