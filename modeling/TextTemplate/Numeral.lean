import TextTemplate.Decimal.Text

set_option autoImplicit false

/-! # Numerals and indices

A numeral is an optional minus sign followed by digits, by digits and a point with optional digits, or by
a point and digits. Without a point it denotes an integer as long as that fits in 64 bits; every other
numeral denotes the nearest double. An index into an array is a row of digits and nothing else. -/

namespace TextTemplate

/-- A number that a template or the command line can write. -/
inductive Number
  | integer (value : Int64)
  | real (value : Float)
deriving BEq, DecidableEq

namespace Number

/-- The number as it appears in output. -/
def text : Number → String
  | integer value => toString value.toInt
  | real value => Decimal.write .plain value

/-- The double nearest to a decimal with a sign. -/
def realOf (negative : Bool) (digits : Nat) (exponent : Int) : Number :=
  let magnitude := Decimal.nearest digits exponent
  real (if negative then -magnitude else magnitude)

/-- The number that digits without a point denote: an integer if it fits, else a double. -/
def whole (negative : Bool) (digits : List Char) : Number :=
  let magnitude := Decimal.valueOfDigits digits
  let value : Int := if negative then -magnitude else magnitude
  if Int64.minValue.toInt ≤ value ∧ value ≤ Int64.maxValue.toInt then integer (Int64.ofInt value)
  else realOf negative magnitude 0

/-- The number that a numeral denotes. -/
def ofText? (text : String) : Option Number :=
  let negative := text.toList.head? = some '-'
  let body := if negative then text.toList.drop 1 else text.toList
  let before := body.takeWhile Text.isDigit
  -- what stands behind the first row of digits must be nothing, or one point with more digits
  match body.dropWhile Text.isDigit with
  | [] => if before = [] then none else some (whole negative before)
  | '.' :: fraction =>
    if fraction.all Text.isDigit && !(before ++ fraction).isEmpty then
      some (realOf negative (Decimal.valueOfDigits (before ++ fraction)) (-fraction.length))
    else none
  | _ => none

end Number

/-! ## Indices -/

/-- The position that a key denotes: a row of digits, leading zeros allowed, whose value fits in a machine
word. -/
def indexOfKey? (key : String) : Option Nat :=
  let digits := key.toList
  if digits.isEmpty || !digits.all Text.isDigit then none
  else
    let position := Decimal.valueOfDigits digits
    if position < UInt64.size then some position else none

end TextTemplate
