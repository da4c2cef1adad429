import TextTemplate.Element
import TextTemplate.Problem
import TextTemplate.Text.Classes
import TextTemplate.Text.Search

set_option autoImplicit false

/-! # Scanning

The source is cut into consecutive pieces (`Piece.cut`), and each piece becomes one element. Cutting looks for
delimiters only:

* a left delimiter and an asterisk open a comment, which runs to an asterisk and the right delimiter;
* any other left delimiter opens a block, which runs to a right delimiter without a backslash in front;
* what lies between is text, and so is everything from a block that is never closed.

The pieces spell the source (`Piece.flatMap_source_cut`), so the line of an element is one more than the number
of line breaks in the pieces before it. -/

namespace TextTemplate

/-! ## Pieces -/

/-- A consecutive part of the source. -/
inductive Piece
  | text (content : List Char)
  /-- A comment with both delimiters. -/
  | comment (body : List Char)
  /-- A comment that runs to the end of the source. -/
  | openComment (body : List Char)
  /-- A block with both delimiters; `raw` is what they enclose, escapes and all. -/
  | block (raw : List Char)
  /-- A left delimiter that opens a block without an end, and the rest of the source. -/
  | openBlock (rest : List Char)
deriving BEq, DecidableEq, Repr

namespace Piece

/-- The part of the source that a piece was cut from. -/
def source (delimiters : Delimiters) : Piece → List Char
  | text content => content
  | comment body => delimiters.opening ++ '*' :: body ++ '*' :: delimiters.closing
  | openComment body => delimiters.opening ++ '*' :: body
  | block raw => delimiters.opening ++ raw ++ delimiters.closing
  | openBlock rest => delimiters.opening ++ rest

/-! ## Cutting -/

/-- Cuts a block at the first occurrence of `mark` that has no backslash in front of it. The search passes over
an escaped occurrence as a whole: `skip` characters of one are still to be passed, and `last` is the character
in front of the text. -/
def closing? (mark : List Char) (last : Char) : (skip : Nat) → List Char →
    Option (List Char × List Char)
  | _, [] => none
  | skip + 1, c :: rest =>
    (closing? mark c skip rest).map fun (before, behind) => (c :: before, behind)
  | 0, c :: rest =>
    match Text.behind? mark (c :: rest) with
    | some behind =>
      -- the escaped mark is part of the block, and no other mark can start within it
      if last = '\\' then
        (closing? mark c (mark.length - 1) rest).map fun (before, behind) => (c :: before, behind)
      else some ([], behind)
    | none => (closing? mark c 0 rest).map fun (before, behind) => (c :: before, behind)

/-- A cut at a mark loses nothing but the mark. -/
theorem eq_append_of_closing? {mark text before behind : List Char} {last : Char} {skip : Nat}
    (h : closing? mark last skip text = some (before, behind)) :
    text = before ++ (mark ++ behind) := by
  fun_induction closing? mark last skip text generalizing before with
  | case1 => cases h
  | case2 last skip c rest ih =>
    obtain ⟨⟨before', behind'⟩, hs, he⟩ := Option.map_eq_some_iff.1 h
    obtain ⟨rfl, rfl⟩ := Prod.mk.inj he
    rw [List.cons_append, ← ih hs]
  | case3 c rest behind' hp ih =>
    obtain ⟨⟨before', behind'⟩, hs, he⟩ := Option.map_eq_some_iff.1 h
    obtain ⟨rfl, rfl⟩ := Prod.mk.inj he
    rw [List.cons_append, ← ih hs]
  | case4 last c rest behind' hp hl =>
    obtain ⟨rfl, rfl⟩ := Prod.mk.inj (Option.some.inj h)
    simpa using Text.eq_append_of_behind? hp
  | case5 last c rest hp ih =>
    obtain ⟨⟨before', behind'⟩, hs, he⟩ := Option.map_eq_some_iff.1 h
    obtain ⟨rfl, rfl⟩ := Prod.mk.inj he
    rw [List.cons_append, ← ih hs]

/-- The piece that starts behind a left delimiter, and the rest of the source. -/
def behindOpening (delimiters : Delimiters) (behind : List Char) : Piece × List Char :=
  match behind with
  | '*' :: body =>
    match Text.splitFirst? ('*' :: delimiters.closing) body with
    | some (content, rest) => (comment content, rest)
    | none => (openComment body, [])
  | _ =>
    match closing? delimiters.closing (delimiters.opening.getLastD ' ') 0 behind with
    | some (raw, rest) => (block raw, rest)
    | none => (openBlock behind, [])

/-- The piece behind a left delimiter and the rest spell what stands there. -/
theorem source_behindOpening (delimiters : Delimiters) (behind : List Char) :
    (behindOpening delimiters behind).1.source delimiters ++ (behindOpening delimiters behind).2 =
      delimiters.opening ++ behind := by
  unfold behindOpening
  split
  · split
    · rename_i h
      simp [source, Text.eq_append_of_splitFirst? h]
    · simp [source]
  · split
    · rename_i h
      simp [source, eq_append_of_closing? h]
    · simp [source]

theorem length_behindOpening (delimiters : Delimiters) (behind : List Char) :
    (behindOpening delimiters behind).2.length ≤ behind.length := by
  unfold behindOpening
  split
  · split
    · rename_i h
      have := congrArg List.length (Text.eq_append_of_splitFirst? h)
      simp only [List.length_append, List.length_cons] at this ⊢
      omega
    · simp
  · split
    · rename_i h
      have := congrArg List.length (eq_append_of_closing? h)
      simp only [List.length_append] at this ⊢
      omega
    · simp

/-- Cuts the source into pieces. -/
def cut (delimiters : Delimiters) (text : List Char) : List Piece :=
  if text = [] then []
  else
    match h : Text.splitFirst? delimiters.opening text with
    | none => [.text text]
    | some (before, behind) =>
      have : (behindOpening delimiters behind).2.length < text.length := by
        have h₁ := congrArg List.length (Text.eq_append_of_splitFirst? h)
        have h₂ := length_behindOpening delimiters behind
        have h₃ := List.length_pos_iff.2 delimiters.opening_ne_nil
        simp only [List.length_append] at h₁
        omega
      let next := behindOpening delimiters behind
      (if before = [] then [] else [.text before]) ++ next.1 :: cut delimiters next.2
termination_by text.length

/-- The pieces spell the source. -/
theorem flatMap_source_cut (delimiters : Delimiters) (text : List Char) :
    (cut delimiters text).flatMap (source delimiters) = text := by
  fun_induction cut delimiters text with
  | case1 => rfl
  | case2 => simp [source]
  | case3 text hne before behind h _ next ih =>
    have hs : next.1.source delimiters ++ next.2 = delimiters.opening ++ behind :=
      source_behindOpening delimiters behind
    have ht := Text.eq_append_of_splitFirst? h
    rw [← hs] at ht
    by_cases hb : before = []
    · simp [hb, ih, ht]
    · simp [hb, ih, ht, source]

/-! ## Elements -/

/-- Whether the text of a block is an inline expression and not a tag: it starts with a dollar sign, a quote, a
digit or a negative number, or it is the call of an operator. -/
def isExpression (body : List Char) : Bool :=
  match body with
  | [] => false
  | '-' :: rest => rest.head?.any Text.isDigit
  | c :: _ =>
    c = '$' || c = '"' || c = '\'' || Text.isDigit c ||
      (Text.isWordChar c && (body.dropWhile Text.isWordChar).head? = some '(')

/-- The form of a tag, which a slash at either end decides, and the text without that slash. -/
def formOf (body : List Char) : TagForm × List Char :=
  match body with
  | '/' :: rest => (.closing, rest)
  | _ =>
    match Text.beforeTrailing? '/' body with
    | some rest => (.single, rest)
    | none => (.normal, body)

/-- The element of a block. A block that encloses nothing is text. -/
def elementOfBlock (delimiters : Delimiters) (raw : List Char) (line : Nat) : Element :=
  if raw = [] then ⟨.text, delimiters.left ++ delimiters.right, line⟩
  else
    let (form, body) :=
      formOf (Text.replaceAll ('\\' :: delimiters.closing) delimiters.closing raw)
    let name := body.takeWhile fun c => !Text.isAsciiBlank c
    let kind := if isExpression body then .expression else .tag form (String.ofList name)
    ⟨kind, String.ofList body, line⟩

/-- The element of a piece. -/
def element (delimiters : Delimiters) (line : Nat) : Piece → Element
  | text content => ⟨.text, String.ofList content, line⟩
  | comment body => ⟨.comment, String.ofList body, line⟩
  | openComment body => ⟨.comment, String.ofList body, line⟩
  | block raw => elementOfBlock delimiters raw line
  | openBlock rest => ⟨.text, delimiters.left ++ String.ofList rest, line⟩

/-- What is wrong with a piece. -/
def problem? (line : Nat) : Piece → Option ParseProblem
  | openComment _ => some ⟨line, .unterminatedComment⟩
  | openBlock _ => some ⟨line, .unterminatedTag⟩
  | _ => none

/-- The pieces with the lines they start on. -/
def numbered (delimiters : Delimiters) (line : Nat) : List Piece → List (Nat × Piece)
  | [] => []
  | piece :: rest =>
    (line, piece) :: numbered delimiters (line + Text.lineBreaks (piece.source delimiters)) rest

end Piece

/-! ## The scan -/

/-- Elements together with the problems found in them. -/
structure Scanned where
  elements : List Element
  problems : List ParseProblem
deriving BEq, DecidableEq, Repr

/-- The elements of a source. Without delimiters the whole source is one text. -/
def Element.scan (delimiters? : Option Delimiters) (source : String) : Scanned :=
  match delimiters? with
  | none => ⟨if source = "" then [] else [⟨.text, source, 1⟩], []⟩
  | some delimiters =>
    let pieces := Piece.numbered delimiters 1 (Piece.cut delimiters source.toList)
    ⟨pieces.map fun (line, piece) => piece.element delimiters line,
      pieces.filterMap fun (line, piece) => piece.problem? line⟩

end TextTemplate
