set_option autoImplicit false

/-! # Finding and replacing pieces of text

Text is a list of characters here, so every function below is a recursion on that list.
`splitFirst?` cuts a text at the first occurrence of a needle, `splitLast?` at the last occurrence
of a character, and `replaceAll` replaces the occurrences that a search from left to right meets,
each search going on behind the occurrence before it. The main statement is
`eq_append_of_splitFirst?`: a cut loses nothing but the needle. -/

namespace TextTemplate.Text

/-! ## Cutting -/

/-- What follows `needle` at the start of a text, if the text starts with it. -/
def behind? : (needle : List Char) → List Char → Option (List Char)
  | [], text => some text
  | _ :: _, [] => none
  | c :: needle, d :: text => if c = d then behind? needle text else none

theorem eq_append_of_behind? {needle text rest : List Char} (h : behind? needle text = some rest) :
    text = needle ++ rest := by
  fun_induction behind? needle text with
  | case1 text => exact Option.some.inj h
  | case2 => cases h
  | case3 c needle text ih => rw [ih h, List.cons_append]
  | case4 => cases h

/-- The text before the first occurrence of `needle` and the text behind it. -/
def splitFirst? (needle : List Char) : List Char → Option (List Char × List Char)
  | [] => if needle = [] then some ([], []) else none
  | c :: rest =>
    match behind? needle (c :: rest) with
    | some behind => some ([], behind)
    | none => (splitFirst? needle rest).map fun (before, behind) => (c :: before, behind)

/-- The text before the last `mark` and the text behind it. -/
def splitLast? (mark : Char) : List Char → Option (List Char × List Char)
  | [] => none
  | c :: rest =>
    match splitLast? mark rest with
    | some (before, behind) => some (c :: before, behind)
    | none => if c = mark then some ([], rest) else none

/-- A cut loses nothing but the needle. -/
theorem eq_append_of_splitFirst? {needle text before behind : List Char}
    (h : splitFirst? needle text = some (before, behind)) :
    text = before ++ (needle ++ behind) := by
  induction text generalizing before with
  | nil =>
    simp only [splitFirst?] at h
    split at h <;> simp_all
  | cons c rest ih =>
    simp only [splitFirst?] at h
    split at h
    · rename_i behind' hp
      simp only [Option.some.injEq, Prod.mk.injEq] at h
      obtain ⟨rfl, rfl⟩ := h
      simpa using eq_append_of_behind? hp
    · obtain ⟨⟨before', behind'⟩, hs, he⟩ := Option.map_eq_some_iff.1 h
      simp only [Prod.mk.injEq] at he
      obtain ⟨rfl, rfl⟩ := he
      rw [List.cons_append, ← ih hs]

/-! ## Replacing -/

/-- Replaces the occurrences of `needle`, after passing over the first `skip` characters. -/
def replaceFrom (needle new : List Char) : (skip : Nat) → List Char → List Char
  | _, [] => []
  | skip + 1, _ :: rest => replaceFrom needle new skip rest
  | 0, c :: rest =>
    if needle.isPrefixOf (c :: rest) then new ++ replaceFrom needle new (needle.length - 1) rest
    else c :: replaceFrom needle new 0 rest

/-- Writes `new` for every occurrence of the non-empty `needle`, from left to right. -/
def replaceAll (needle new text : List Char) : List Char := replaceFrom needle new 0 text

/-! ## Ends of a text -/

/-- The text without the character `mark` at its start, if it starts with one. -/
def dropLeading (mark : Char) : List Char → List Char
  | [] => []
  | c :: rest => if c = mark then rest else c :: rest

/-- The text before the character `mark` at its end, if it ends with one. -/
def beforeTrailing? (mark : Char) (text : List Char) : Option (List Char) :=
  if text.getLast? = some mark then some text.dropLast else none

/-- The text without the character `mark` at its end, if it ends with one. -/
def dropTrailing (mark : Char) (text : List Char) : List Char :=
  (beforeTrailing? mark text).getD text

/-! ## Lines and bytes -/

/-- The number of line breaks. -/
def lineBreaks (text : List Char) : Nat := text.count '\n'

end TextTemplate.Text
