import TextTemplate.Decimal.Shortest
import TextTemplate.Text.Classes

set_option autoImplicit false

/-! # The text of a real number

A finite double is written with the digits of its shortest decimal. Two styles exist. `Style.plain` is
positional at every size and marks a whole number by nothing; rendered templates use it. `Style.exact`
turns to an exponent when the number is large or small and marks a whole number by `.0`, so that it
cannot be taken for an integer; printed trees use it. `Float.ofText?` reads a number back. -/

namespace TextTemplate.Decimal

/-! ## Writing -/

/-- The decisions of a style. -/
structure Style where
  /-- The first power of ten written with an exponent, if any is. -/
  exponentFrom : Option Int
  /-- The power of ten below which numbers are written with an exponent, if any are. -/
  exponentBelow : Option Int
  /-- What follows a whole number in positional form. -/
  wholeMark : String

/-- Positional at every size. -/
def Style.plain : Style := ⟨none, none, ""⟩

/-- Positional from `0.0001` up to and without `10 ^ 16`; a whole number ends in `.0`. -/
def Style.exact : Style := ⟨some 16, some (-4), ".0"⟩

/-- Whether a number between `10 ^ magnitude` and `10 ^ (magnitude + 1)` has an exponent. -/
def Style.hasExponent (style : Style) (magnitude : Int) : Bool :=
  style.exponentFrom.any (· ≤ magnitude) || style.exponentBelow.any (magnitude < ·)

/-- A string of `n` zeros. -/
def zeros (n : Nat) : String := String.ofList (List.replicate n '0')

/-- The decimal in positional form. -/
def positional (style : Style) (d : Decimal) : String :=
  let digits := Nat.toDigits 10 d.digits
  let point : Int := digits.length + d.exponent
  if 0 ≤ d.exponent then String.ofList digits ++ zeros d.exponent.toNat ++ style.wholeMark
  else if 0 < point then
    String.ofList (digits.take point.toNat) ++ "." ++ String.ofList (digits.drop point.toNat)
  else "0." ++ zeros (-point).toNat ++ String.ofList digits

/-- The decimal with one digit before the point and an exponent. -/
def scientific (d : Decimal) : String :=
  let digits := Nat.toDigits 10 d.digits
  let magnitude : Int := digits.length + d.exponent - 1
  let fraction := if digits.length ≤ 1 then "" else "." ++ String.ofList (digits.drop 1)
  String.ofList (digits.take 1) ++ fraction ++ "e" ++ toString magnitude

/-- The text of a double in a style. -/
def write (style : Style) (x : Float) : String :=
  let sign := if x.toBits >>> 63 = 1 then "-" else ""
  if x.isNaN then "NaN"
  else if x.isInf then sign ++ "inf"
  else if x == 0 then sign ++ "0" ++ style.wholeMark
  else
    -- the power of ten of the first digit decides the form
    let d := ofFloat x
    let magnitude : Int := digitCount d.digits + d.exponent - 1
    sign ++ if style.hasExponent magnitude then scientific d else positional style d

/-! ## Reading -/

/-- The value of a row of digits, most significant first. -/
def valueOfDigits (digits : List Char) : Nat :=
  digits.foldl (fun n c => 10 * n + (c.toNat - '0'.toNat)) 0

/-- The double nearest to `digits · 10 ^ exponent`. Beyond four hundred places of magnitude every double
is infinite or zero, so that the exponent need not be raised. -/
def nearest (digits : Nat) (exponent : Int) : Float :=
  let magnitude : Int := digitCount digits + exponent
  if digits = 0 then 0
  else if 400 < magnitude then 1 / 0
  else if magnitude < -400 then 0
  else if 0 ≤ exponent then Float.ofScientific digits false exponent.toNat
  else Float.ofScientific digits true (-exponent).toNat

/-- An integer with an optional sign. -/
def signed? (text : List Char) : Option Int :=
  let negative := text.head? = some '-'
  let digits := if negative || text.head? = some '+' then text.drop 1 else text
  if digits = [] || !digits.all Text.isDigit then none
  else some (if negative then -(valueOfDigits digits : Int) else valueOfDigits digits)

/-- The double that an unsigned text denotes: digits with an optional point and an optional exponent, or a
name. -/
def unsigned? (text : List Char) : Option Float :=
  let name := String.ofList (text.map Char.toLower)
  if name = "inf" || name = "infinity" then some (1 / 0)
  else if name = "nan" then some (0 / 0)
  else
    let whole := text.takeWhile Text.isDigit
    let behind := text.dropWhile Text.isDigit
    let (fraction, behind) :=
      match behind with
      | '.' :: rest => (rest.takeWhile Text.isDigit, rest.dropWhile Text.isDigit)
      | _ => ([], behind)
    if whole ++ fraction = [] then none
    else
      let exponent :=
        match behind with
        | [] => some 0
        | c :: rest => if c = 'e' || c = 'E' then signed? rest else none
      exponent.map fun exponent =>
        nearest (valueOfDigits (whole ++ fraction)) (exponent - fraction.length)

/-- The double that a text denotes. -/
def read? (text : String) : Option Float :=
  match text.toList with
  | '-' :: rest => (unsigned? rest).map fun x => -x
  | '+' :: rest => unsigned? rest
  | rest => unsigned? rest

end TextTemplate.Decimal
