import TextTemplate.Toml.Layout

set_option autoImplicit false

/-! # Quoted texts of TOML

A text stands in double quotes, with escapes, or in single quotes, without; three quotes of a kind enclose a text that
may go over several lines. Line breaks in it are kept as they are written, apart from one directly behind the opening
quotes. `quotedText` reads all four forms. -/

namespace TextTemplate.Toml

/-! ## Escapes -/

/-- The value of a hexadecimal digit. -/
def hexValue? (c : Char) : Option Nat :=
  if '0' ≤ c && c ≤ '9' then some (c.toNat - '0'.toNat)
  else if 'a' ≤ c && c ≤ 'f' then some (c.toNat - 'a'.toNat + 10)
  else if 'A' ≤ c && c ≤ 'F' then some (c.toNat - 'A'.toNat + 10)
  else none

/-- The character with a code point. -/
def character? (code : Nat) : Option Char :=
  if code.isValidChar then some (Char.ofNat code) else none

/-- The character that `count` hexadecimal digits give. -/
def codePoint (count : Nat) : Reader Char := fun text => do
  let digits := text.take count
  if digits.length < count then none
  else
    let values ← digits.mapM hexValue?
    let c ← character? (values.foldl (fun n value => 16 * n + value) 0)
    some (c, text.drop count)

/-- The character of an escape, behind its backslash. -/
def escape : Reader Char := fun text =>
  match text with
  | 'b' :: rest => some ('\x08', rest)
  | 't' :: rest => some ('\t', rest)
  | 'n' :: rest => some ('\n', rest)
  | 'f' :: rest => some ('\x0c', rest)
  | 'r' :: rest => some ('\r', rest)
  | 'e' :: rest => some ('\x1b', rest)
  | '"' :: rest => some ('"', rest)
  | '\\' :: rest => some ('\\', rest)
  | 'x' :: rest => codePoint 2 rest
  | 'u' :: rest => codePoint 4 rest
  | 'U' :: rest => codePoint 8 rest
  | _ => none

/-- Puts a character in front of what was read. -/
def prepend (c : Char) (result : Option (List Char × List Char)) : Option (List Char × List Char) :=
  result.map fun (content, rest) => (c :: content, rest)

/-! ## Texts on one line -/

/-- A text on one line, behind its opening quote. -/
def basicText : (depth : Nat) → Reader (List Char)
  | 0, _ => none
  | _ + 1, [] => none
  | _ + 1, '"' :: rest => some ([], rest)
  | depth + 1, '\\' :: rest => do
    let (c, rest) ← escape rest
    prepend c (basicText depth rest)
  | depth + 1, c :: rest => if isControl c then none else prepend c (basicText depth rest)

/-- A literal text on one line, behind its opening quote. -/
def literalText : Reader (List Char)
  | [] => none
  | '\'' :: rest => some ([], rest)
  | c :: rest => if isControl c then none else prepend c (literalText rest)

/-! ## Texts over several lines -/

/-- The quotes that end a text over several lines: up to two more belong to the text. -/
def closingQuotes (quote : Char) (text : List Char) : Option (List Char × List Char) :=
  let count := (text.takeWhile (· = quote)).length
  if count < 3 then none
  else
    let more := min (count - 3) 2
    some (List.replicate more quote, text.drop (more + 3))

/-- The text behind the blanks and line breaks that a backslash at the end of a line removes. -/
def foldedLine? (text : List Char) : Option (List Char) :=
  (lineBreak? (skipBlanks text)).map skipSpace

/-- A text over several lines, behind its opening quotes. -/
def multilineText (quote : Char) : (depth : Nat) → Reader (List Char)
  | 0, _ => none
  | _ + 1, [] => none
  | depth + 1, c :: rest =>
    if c = quote then
      match closingQuotes quote (c :: rest) with
      | some result => some result
      | none => prepend c (multilineText quote depth rest)
    else if c = '\\' && quote = '"' then
      match foldedLine? rest with
      | some rest => multilineText quote depth rest
      | none => do
        let (c, rest) ← escape rest
        prepend c (multilineText quote depth rest)
    else if isControl c && (lineBreak? (c :: rest)).isNone then none
    else prepend c (multilineText quote depth rest)

/-! ## All forms -/

/-- A quoted text of any form, if the text starts with a quote. -/
def quotedText : Reader String := fun text => do
  let depth := text.length + 1
  let (content, rest) ←
    match text with
    | '"' :: '"' :: '"' :: rest => multilineText '"' depth ((lineBreak? rest).getD rest)
    | '\'' :: '\'' :: '\'' :: rest => multilineText '\'' depth ((lineBreak? rest).getD rest)
    | '"' :: rest => basicText depth rest
    | '\'' :: rest => literalText rest
    | _ => none
  some (String.ofList content, rest)

end TextTemplate.Toml
