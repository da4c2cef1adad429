set_option autoImplicit false

/-! # The shortest decimal that reads back

Every finite double is `m · 2 ^ q` for natural `m` and integer `q`, and the decimals that round to it
form an interval around it. Among the decimals of that interval with the fewest digits,
`Decimal.ofFloat` picks the one nearest to the double; of two that are equally near it takes the
larger.

All of this is exact arithmetic on natural numbers. Bounds and candidates are compared after
multiplication by `10 ^ shift` and by the denominator of `2 ^ (q - 2)`, where `shift` exceeds every
negative exponent that can occur. -/

namespace TextTemplate

/-- The number `digits · 10 ^ exponent`. -/
structure Decimal where
  digits : Nat
  exponent : Int
deriving DecidableEq, Repr

namespace Decimal

/-! ## The interval of a double -/

/-- The magnitude of a double and the ends of the interval that rounds to it, all as multiples of
one common unit `1 / (denominator · 10 ^ shift)`. The ends belong to the interval if `closed`. -/
structure Interval where
  lower : Nat
  middle : Nat
  upper : Nat
  denominator : Nat
  closed : Bool

/-- More than the number of decimal places that any candidate has. -/
def shift : Nat := 345

/-- The interval of the magnitude of a finite double. Half the distance to a neighbour is two quarters
of the last place; below a power of two the neighbour is nearer, and it is one. -/
def Interval.ofFloat (x : Float) : Interval :=
  let bits : Nat := x.toBits.toNat
  let field : Nat := bits / Nat.pow 2 52 % Nat.pow 2 11
  let fraction : Nat := bits % Nat.pow 2 52
  -- below the normal doubles there is no hidden leading one, and the exponent stays that of field one
  let m : Nat := if field = 0 then fraction else fraction + Nat.pow 2 52
  let q : Int := if field = 0 then -1074 else (field : Int) - 1075
  let below := if fraction = 0 ∧ 1 < field then 1 else 2
  let unit := Nat.pow 2 (q - 2).toNat * Nat.pow 10 shift
  { lower := (4 * m - below) * unit
    middle := 4 * m * unit
    upper := (4 * m + 2) * unit
    denominator := Nat.pow 2 (2 - q).toNat
    closed := m % 2 = 0 }

/-- Whether the multiple `n` of the common unit lies in the interval. -/
def Interval.contains (i : Interval) (n : Nat) : Bool :=
  if i.closed then i.lower ≤ n && n ≤ i.upper else i.lower < n && n < i.upper

/-! ## Candidates -/

/-- The multiple of `10 ^ (place - shift)` in the interval that is nearest to its middle, if one of the
two neighbours of the middle is in it. -/
def candidate? (i : Interval) (place : Nat) : Option Decimal :=
  let unit := Nat.pow 10 place * i.denominator
  let down := i.middle / unit
  let up := down + 1
  let choice : Option Nat :=
    match i.contains (down * unit), i.contains (up * unit) with
    | false, false => none
    | true, false => some down
    | false, true => some up
    | true, true =>
      if i.middle - down * unit < up * unit - i.middle then some down else some up
  -- a carry into the next place leaves a zero at the end
  choice.map fun digits =>
    if digits % 10 = 0 then ⟨digits / 10, place - shift + 1⟩ else ⟨digits, place - shift⟩

/-- The number of decimal digits of `n`. -/
def digitCount (n : Nat) : Nat := (Nat.toDigits 10 n).length

/-- The shortest decimal in the interval of the magnitude of `x`, which is finite and not zero. Grids
of one to seventeen digits are tried in turn; on the last one there is always a hit. -/
def ofFloat (x : Float) : Decimal :=
  let i := Interval.ofFloat x
  let size := digitCount (i.middle / i.denominator)
  ((List.range 17).findSome? fun n => candidate? i (size - (n + 1))).getD ⟨0, 0⟩

example : ofFloat 0.3 = ⟨3, -1⟩ := by decide +kernel
example : ofFloat (0.1 + 0.2) = ⟨30000000000000004, -17⟩ := by decide +kernel
example : ofFloat (Float.ofBits 1) = ⟨5, -324⟩ := by decide +kernel
example : ofFloat 1e23 = ⟨1, 23⟩ := by decide +kernel

end Decimal

end TextTemplate
