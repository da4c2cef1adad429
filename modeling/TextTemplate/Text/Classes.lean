set_option autoImplicit false

/-! # Classes of characters

Three sets of white space occur in templates, and they differ: `isBlank` is the Unicode property
`White_Space`, `isAsciiBlank` its ASCII part without the vertical tab, which ends the name of a tag,
and `isTokenBlank` the four characters that separate the parts of a tag. `isWordChar` is the
alphabet of names. Longer sets are tables of ranges, read by `inRanges`. -/

namespace TextTemplate.Text

/-- Whether `n` lies in one of the closed ranges. -/
def inRanges (ranges : List (Nat × Nat)) (n : Nat) : Bool :=
  ranges.any fun (first, last) => first ≤ n && n ≤ last

/-- The code points with the Unicode property `White_Space`. -/
def blankRanges : List (Nat × Nat) :=
  [(0x09, 0x0D), (0x20, 0x20), (0x85, 0x85), (0xA0, 0xA0), (0x1680, 0x1680), (0x2000, 0x200A),
    (0x2028, 0x2029), (0x202F, 0x202F), (0x205F, 0x205F), (0x3000, 0x3000)]

/-- White space in the sense of Unicode. -/
def isBlank (c : Char) : Bool := inRanges blankRanges c.toNat

/-- The space, the tab, the line feed, the form feed and the carriage return. -/
def isAsciiBlank (c : Char) : Bool :=
  c = ' ' || c = '\t' || c = '\n' || c = '\x0c' || c = '\r'

/-- The white space between tokens: the space, the tab, the carriage return and the line feed. -/
def isTokenBlank (c : Char) : Bool := c = ' ' || c = '\t' || c = '\r' || c = '\n'

/-- A decimal digit, `0` to `9`. -/
def isDigit (c : Char) : Bool := '0' ≤ c && c ≤ '9'

/-- An ASCII letter. -/
def isLetter (c : Char) : Bool := ('a' ≤ c && c ≤ 'z') || ('A' ≤ c && c ≤ 'Z')

/-- A character of a name: a letter, a digit, the underscore or the minus sign. -/
def isWordChar (c : Char) : Bool := isLetter c || isDigit c || c = '_' || c = '-'

end TextTemplate.Text
