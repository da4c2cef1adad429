import TextTemplate.Text.Search
import TextTemplate.Toml.Moment
import TextTemplate.Toml.Quoted

set_option autoImplicit false

/-! # Bare scalars of TOML

A value without quotes or brackets is a truth value, a number or a moment. No setting has such a value, so its text is
checked, by `isScalar`, and not evaluated. That matters for decimal whole numbers: what stands behind the first
underscore of one takes part in the check of the underscores only. -/

namespace TextTemplate.Toml

/-! ## Numbers -/

/-- Whether a character is a hexadecimal digit. -/
def isHexDigit (c : Char) : Bool := (hexValue? c).isSome

/-- Whether every underscore stands between two digits; `behindDigit` says whether a digit is in front of the text. -/
def isSeparated (isDigit : Char → Bool) : (behindDigit : Bool) → List Char → Bool
  | _, [] => true
  | behindDigit, c :: rest =>
    if c = '_' then behindDigit && rest.head?.any isDigit && isSeparated isDigit false rest
    else isSeparated isDigit (isDigit c) rest

/-- Digits with single underscores between them, or nothing. -/
def isDigitRow (isDigit : Char → Bool) (text : List Char) : Bool :=
  text.all (fun c => isDigit c || c = '_') && isSeparated isDigit false text

/-- A whole number in base 16, 8 or 2. -/
def isRadixNumber : List Char → Bool
  | '0' :: 'x' :: digits => isDigitRow isHexDigit digits
  | '0' :: 'o' :: digits => isDigitRow (fun c => '0' ≤ c && c ≤ '7') digits
  | '0' :: 'b' :: digits => isDigitRow (fun c => c = '0' || c = '1') digits
  | _ => false

/-- The text without a sign. -/
def unsigned : List Char → List Char
  | '+' :: rest => rest
  | '-' :: rest => rest
  | text => text

/-- Whether a text has no leading zero. -/
def hasNoLeadingZero (text : List Char) : Bool := text.head? ≠ some '0' || text.length = 1

/-- The letter in front of an exponent. -/
def isExponentMark (c : Char) : Bool := c = 'e' || c = 'E'

/-- A decimal whole number without its sign. -/
def isWholeNumber (text : List Char) : Bool :=
  text.head?.any Text.isDigit && hasNoLeadingZero text &&
    match text.dropWhile Text.isDigit with
    | [] => true
    | '_' :: rest =>
      !(rest.any fun c => c = '.' || c = ' ' || isExponentMark c) && isSeparated isHexDigit false text
    | _ => false

/-- One or more digits with single underscores between them. -/
def isDigits (text : List Char) : Bool := !text.isEmpty && isDigitRow Text.isDigit text

/-- A decimal number without its sign. -/
def isDecimal (text : List Char) : Bool :=
  let mantissa := text.takeWhile fun c => !isExponentMark c
  let mantissaFits :=
    match Text.splitFirst? ['.'] mantissa with
    | some (whole, fraction) => isDigits whole && hasNoLeadingZero whole && isDigits fraction
    | none => isDigits mantissa && hasNoLeadingZero mantissa
  let exponentFits :=
    match text.dropWhile fun c => !isExponentMark c with
    | [] => true
    | _ :: exponent => isDigits (unsigned exponent)
  mantissaFits && exponentFits

/-! ## Scalars -/

/-- Whether a text is a truth value, a number or a moment. -/
def isScalar (text : List Char) : Bool :=
  let body := unsigned text
  text = "true".toList || text = "false".toList || body = "inf".toList || body = "nan".toList ||
    isWholeNumber body || isDecimal body || isRadixNumber text || isMoment text

example : isScalar "-1_000.5e+06".toList = true := by decide +kernel
example : isScalar "1__000".toList = false := by decide +kernel
example : isScalar "007".toList = false := by decide +kernel
example : isScalar "0xdead_beef".toList = true := by decide +kernel

/-- A character that ends a word. -/
def isWordEnd (c : Char) : Bool :=
  isBlank c || c = '\n' || c = '\r' || c = '#' || c = ',' || c = '=' || c = '[' || c = ']' || c = '{' || c = '}'

/-- Whether a word starts here. -/
def startsWord (text : List Char) : Bool := text.head?.any fun c => !(isWordEnd c || c = '"' || c = '\'')

/-- The words at the start of a text, with the blanks between them, and the rest. -/
def words : List Char → List Char × List Char
  | [] => ([], [])
  | c :: rest =>
    if !isWordEnd c || isBlank c && startsWord (skipBlanks rest) then
      let (more, behind) := words rest
      (c :: more, behind)
    else ([], c :: rest)

/-- The text behind a bare scalar. -/
def behindScalar? (text : List Char) : Option (List Char) :=
  let (found, rest) := words text
  if isScalar found then some rest else none

end TextTemplate.Toml
