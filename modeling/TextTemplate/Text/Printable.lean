import TextTemplate.Text.Classes
import TextTemplate.Text.PrintableTable

set_option autoImplicit false

/-! # Printable characters

A quoted text shows a character as it is if it leaves a mark of its own on the page: it must be
graphic, and it must not be an extender, which would merge with the character before it. -/

namespace TextTemplate.Text

/-- Whether `c` belongs to a category that prints. -/
def isGraphic (c : Char) : Bool := inRanges graphicRanges c.toNat

/-- Whether `c` extends the character before it. -/
def isExtender (c : Char) : Bool := inRanges extenderRanges c.toNat

/-- Whether a quoted text shows `c` as it is. -/
def isPrintable (c : Char) : Bool :=
  (0x20 ≤ c.toNat && c.toNat ≤ 0x7E) || (isGraphic c && !isExtender c)

end TextTemplate.Text
