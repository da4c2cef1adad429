set_option autoImplicit false

/-! # Delimiters

The two marks between which a template holds its tags. Neither is empty, so that every tag takes up room in the
source and a scan comes to an end. -/

namespace TextTemplate

/-- A left and a right delimiter. -/
structure Delimiters where
  left : String
  right : String
  left_ne : left ≠ ""
  right_ne : right ≠ ""
deriving DecidableEq

namespace Delimiters

/-- The delimiters with these texts, unless one of them is empty. -/
def ofStrings? (left right : String) : Option Delimiters :=
  if h : left = "" ∨ right = "" then none
  else some ⟨left, right, fun e => h (.inl e), fun e => h (.inr e)⟩

/-- The delimiters of an engine that was told nothing else: braces. -/
def standard : Delimiters := ⟨"\x7b", "\x7d", by decide, by decide⟩

instance : Inhabited Delimiters := ⟨standard⟩

/-- The characters of the left delimiter. -/
def opening (delimiters : Delimiters) : List Char := delimiters.left.toList

/-- The characters of the right delimiter. -/
def closing (delimiters : Delimiters) : List Char := delimiters.right.toList

theorem opening_ne_nil (delimiters : Delimiters) : delimiters.opening ≠ [] := fun h =>
  delimiters.left_ne (String.toList_eq_nil_iff.1 h)

theorem closing_ne_nil (delimiters : Delimiters) : delimiters.closing ≠ [] := fun h =>
  delimiters.right_ne (String.toList_eq_nil_iff.1 h)

end Delimiters

end TextTemplate
