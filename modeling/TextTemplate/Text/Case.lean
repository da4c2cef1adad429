import TextTemplate.Text.Classes
import TextTemplate.Text.CaseTable

set_option autoImplicit false

/-! # Upper and lower case

The full case mappings of Unicode, in which one character may become several (`ß` becomes `SS`).
They do not depend on a language. One mapping depends on its place: the capital sigma becomes `ς`
at the end of a word and `σ` elsewhere. -/

namespace TextTemplate.Text

/-! ## Single characters -/

/-- The counterpart of the code point `n` in a list of runs. -/
def shifted? (n : Nat) : List CaseRun → Option Nat
  | [] => none
  | run :: rest =>
    if run.first ≤ n && n ≤ run.last && (n - run.first) % run.step = 0 then
      some (Int.toNat (n + run.shift))
    else shifted? n rest

/-- The counterparts of `c` in an expansion table, else in a list of runs, else `c` itself. -/
def mapped (expansions : List (Nat × List Nat)) (runs : List CaseRun) (c : Char) : List Char :=
  match expansions.lookup c.toNat with
  | some codes => codes.map Char.ofNat
  | none =>
    match shifted? c.toNat runs with
    | some code => [Char.ofNat code]
    | none => [c]

/-- The upper-case form of a character. -/
def upperOf (c : Char) : List Char := mapped upperExpansions upperRuns c

/-- The lower-case form of a character, wherever it stands. -/
def lowerOf (c : Char) : List Char := mapped lowerExpansions lowerRuns c

/-! ## The sigma at the end of a word -/

/-- Whether the first character that is not ignorable for casing is a cased one. -/
def startsCased (text : List Char) : Bool :=
  match text.dropWhile fun c => inRanges caseIgnorableRanges c.toNat with
  | [] => false
  | c :: _ => inRanges casedRanges c.toNat

/-- Lower case of a text that follows `before`, the characters already passed, nearest first. -/
def lowerAfter (before : List Char) : List Char → List Char
  | [] => []
  | c :: rest =>
    let small :=
      if c = 'Σ' then [if startsCased before && !startsCased rest then 'ς' else 'σ'] else lowerOf c
    small ++ lowerAfter (c :: before) rest

/-! ## Texts -/

/-- The text in upper case. -/
def upcase (text : String) : String := String.ofList (text.toList.flatMap upperOf)

/-- The text in lower case. -/
def downcase (text : String) : String := String.ofList (lowerAfter [] text.toList)

example : upcase "straße" = "STRASSE" := by decide +kernel
example : downcase "ΟΔΟΣ ΣΑΣ." = "οδος σας." := by decide +kernel

end TextTemplate.Text
