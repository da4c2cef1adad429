import TextTemplate.Element.Scan
import TextTemplate.Proofs.Text.Search

set_option autoImplicit false

/-! # The scan as a segmentation of the source

`Segmented delimiters [] portions` says, without any searching, what it means to cut a source into
portions: every portion has a non-empty piece of the source, the element that stands for it and the
fault that was found in it, and the piece and the element are related as the rules of the language
say. The rules for the end of a block are `Piece.Closes` and `Piece.Unclosed`, which go from one
right delimiter to the next and look at the character in front of each.

Main statement: `scan_segments`, a scan is such a segmentation of its source, portion by portion. -/

namespace TextTemplate

/-! ## The end of a block -/

namespace Piece

/-- **Where a block ends.** Behind `front` stand `raw`, `mark` and `behind`. Going from left to
right, every occurrence of `mark` within `raw` that is met has a backslash in front of it and is
passed as a whole; the one behind `raw` is the next one and has none. -/
inductive Closes (mark behind : List Char) : (front raw : List Char) → Prop
  | here {front raw : List Char} (first : Text.FirstAt mark raw behind)
      (plain : (front ++ raw).getLast? ≠ some '\\') : Closes mark behind front raw
  | pass {front before raw : List Char} (first : Text.FirstAt mark before (raw ++ (mark ++ behind)))
      (escaped : (front ++ before).getLast? = some '\\')
      (next : Closes mark behind (front ++ (before ++ mark)) raw) :
      Closes mark behind front (before ++ (mark ++ raw))

/-- **A block without an end.** Every occurrence of `mark` that is met in `rest` has a backslash in
front of it. -/
inductive Unclosed (mark : List Char) : (front rest : List Char) → Prop
  | here {front rest : List Char} (absent : ¬ mark <:+: rest) : Unclosed mark front rest
  | pass {front before rest : List Char} (first : Text.FirstAt mark before rest)
      (escaped : (front ++ before).getLast? = some '\\')
      (next : Unclosed mark (front ++ (before ++ mark)) rest) :
      Unclosed mark front (before ++ (mark ++ rest))

/-- What a block encloses does not end in a backslash. -/
theorem Closes.getLast?_ne {mark behind front raw : List Char} (h : Closes mark behind front raw) :
    (front ++ raw).getLast? ≠ some '\\' := by
  induction h with
  | here _ plain => exact plain
  | pass _ _ _ ih => simpa using ih

/-! ### The search for the end, from mark to mark

`closing?` goes through the text character by character and counts down the characters of an escaped
mark. The two lemmas below turn that into the steps of the relations: cut at the next mark, and stop
there or go on behind it. -/

theorem closing?_skip (mark : List Char) (last : Char) (passed text : List Char) :
    closing? mark last passed.length (passed ++ text)
      = (closing? mark (passed.getLastD last) 0 text).map
        fun (before, behind) => (passed ++ before, behind) := by
  induction passed generalizing last with
  | nil => simp
  | cons c passed ih =>
      rw [List.length_cons, List.cons_append, closing?, ih, Option.map_map, List.getLastD_cons]
      rfl

theorem closing?_eq_splitFirst? {mark : List Char} (hne : mark ≠ []) (last : Char)
    (text : List Char) :
    closing? mark last 0 text
      = (Text.splitFirst? mark text).bind fun (before, behind) =>
        if before.getLastD last = '\\' then
          (closing? mark (mark.getLast hne) 0 behind).map
            fun (raw, behind) => (before ++ (mark ++ raw), behind)
        else some (before, behind) := by
  induction text generalizing last with
  | nil => simp [closing?, Text.splitFirst?, hne]
  | cons c rest ih =>
      rw [closing?, Text.splitFirst?]
      cases hb : Text.behind? mark (c :: rest) with
      | some behind =>
          simp only [Option.bind_some]
          by_cases hesc : last = '\\'
          · -- an escaped mark is skipped character by character, and its last one is remembered
            obtain ⟨d, tail, rfl⟩ := List.exists_cons_of_ne_nil hne
            obtain ⟨rfl, rfl⟩ := List.cons.inj (Text.behind?_eq_some_iff.1 hb)
            have hlast : (c :: tail).getLast hne = tail.getLastD c :=
              List.getLast_eq_getLastD hne
            have hnil : ([] : List Char).getLastD last = '\\' := hesc
            rw [if_pos hesc, if_pos hnil, List.length_cons, Nat.add_sub_cancel, hlast]
            rw [show tail.append behind = tail ++ behind from rfl, closing?_skip, Option.map_map]
            rfl
          · have hnil : ¬ ([] : List Char).getLastD last = '\\' := hesc
            rw [if_neg hesc, if_neg hnil]
      | none =>
          simp only
          rw [ih c]
          cases Text.splitFirst? mark rest with
          | none => rfl
          | some cut =>
              obtain ⟨before, behind⟩ := cut
              simp only [Option.map_some, Option.bind_some, List.getLastD_cons]
              split
              · rw [Option.map_map]
                rfl
              · rfl

/-- The character in front of a position, once by the search and once in the source. -/
theorem getLastD_eq_iff {front : List Char} {last : Char} (h : front.getLast? = some last)
    (before : List Char) (c : Char) :
    before.getLastD last = c ↔ (front ++ before).getLast? = some c := by
  rw [List.getLast?_append, h, List.getLastD_eq_getLast?]
  cases before.getLast? with
  | none => simp
  | some d => simp

/-- **The search finds the end of the block, or there is none.** -/
theorem closing?_spec {mark : List Char} (hne : mark ≠ []) (front : List Char) (last : Char)
    (text : List Char) (hlast : front.getLast? = some last) :
    (∀ raw behind, closing? mark last 0 text = some (raw, behind) → Closes mark behind front raw) ∧
      (closing? mark last 0 text = none → Unclosed mark front text) := by
  rw [closing?_eq_splitFirst? hne]
  cases hs : Text.splitFirst? mark text with
  | none =>
      refine ⟨fun raw behind h => ?_, fun _ => .here (Text.splitFirst?_eq_none_iff.1 hs)⟩
      cases h
  | some cut =>
      obtain ⟨before, behind⟩ := cut
      obtain ⟨htext, hf⟩ := Text.splitFirst?_eq_some_iff.1 hs
      simp only [Option.bind_some]
      by_cases hesc : before.getLastD last = '\\'
      · -- the mark is escaped, so the search goes on behind it, with the mark in front
        have hesc' := (getLastD_eq_iff hlast before '\\').1 hesc
        have hfront : (front ++ (before ++ mark)).getLast? = some (mark.getLast hne) := by
          simp [List.getLast?_append, List.getLast?_eq_some_getLast hne]
        have hlt : behind.length < text.length := by
          have := List.length_pos_iff.2 hne
          simp only [htext, List.length_append]
          omega
        obtain ⟨hsome, hnone⟩ := closing?_spec hne (front ++ (before ++ mark)) _ behind hfront
        rw [if_pos hesc, htext]
        constructor
        · intro raw rest h
          obtain ⟨⟨raw', rest'⟩, hc, he⟩ := Option.map_eq_some_iff.1 h
          obtain ⟨rfl, rfl⟩ := Prod.mk.inj he
          rw [eq_append_of_closing? hc] at hf
          exact .pass hf hesc' (hsome _ _ hc)
        · intro h
          exact .pass hf hesc' (hnone (Option.map_eq_none_iff.1 h))
      · rw [if_neg hesc]
        constructor
        · intro raw rest h
          obtain ⟨rfl, rfl⟩ := Prod.mk.inj (Option.some.inj h)
          exact .here hf fun h => hesc ((getLastD_eq_iff hlast before '\\').2 h)
        · intro h
          cases h
termination_by text.length

end Piece

/-! ## Portions of a source -/

/-- A piece of a source, the element that stands for it, and the fault found in it. -/
structure Portion where
  piece : List Char
  element : Element
  fault? : Option ParseFault

/-- The fault of a portion, reported on the line of its element. -/
def Portion.problem? (portion : Portion) : Option ParseProblem :=
  portion.fault?.map fun fault => ⟨portion.element.line, fault⟩

/-- The line on which the character behind `front` stands. -/
def lineBehind (front : List Char) : Nat := 1 + Text.lineBreaks front

/-- What a block says: without one slash at its start or else without one at its end. -/
def withoutSlash : List Char → List Char
  | '/' :: body => body
  | body => Text.dropTrailing '/' body

/-- **The rules of the language, piece by piece.** In the source `front ++ piece ++ behind` the
piece is one portion, with this element and this fault. -/
inductive Covers (delimiters : Delimiters) (front : List Char) :
    (piece behind : List Char) → Element → Option ParseFault → Prop
  /-- Text runs up to the next left delimiter. -/
  | text {piece rest : List Char}
      (first : Text.FirstAt delimiters.opening piece rest) :
      Covers delimiters front piece (delimiters.opening ++ rest)
        ⟨.text, String.ofList piece, lineBehind front⟩ none
  /-- Without another left delimiter, text runs to the end. -/
  | lastText {piece : List Char} (absent : ¬ delimiters.opening <:+: piece) :
      Covers delimiters front piece [] ⟨.text, String.ofList piece, lineBehind front⟩ none
  /-- A comment runs to the first asterisk and right delimiter behind its opening. -/
  | comment {body behind : List Char}
      (first : Text.FirstAt ('*' :: delimiters.closing) body behind) :
      Covers delimiters front
        (delimiters.opening ++ '*' :: (body ++ '*' :: delimiters.closing)) behind
        ⟨.comment, String.ofList body, lineBehind front⟩ none
  /-- A comment that is not closed runs to the end, which is worth a warning. -/
  | openComment {body : List Char} (absent : ¬ '*' :: delimiters.closing <:+: body) :
      Covers delimiters front (delimiters.opening ++ '*' :: body) []
        ⟨.comment, String.ofList body, lineBehind front⟩ (some .unterminatedComment)
  /-- A block that encloses nothing is text. -/
  | emptyBlock {behind : List Char} (plain : delimiters.closing.head? ≠ some '*') :
      Covers delimiters front (delimiters.opening ++ delimiters.closing) behind
        ⟨.text, String.ofList (delimiters.opening ++ delimiters.closing), lineBehind front⟩ none
  /-- Any other block is an expression or a tag. -/
  | block {raw behind : List Char} {kind : ElementKind} (nonempty : raw ≠ [])
      (plain : raw.head? ≠ some '*')
      (marked : kind = .expression ∨ ∃ form name, kind = .tag form name)
      (closes : Piece.Closes delimiters.closing behind (front ++ delimiters.opening) raw) :
      Covers delimiters front (delimiters.opening ++ raw ++ delimiters.closing) behind
        ⟨kind, String.ofList
          (withoutSlash (Text.replaceAll ('\\' :: delimiters.closing) delimiters.closing raw)),
          lineBehind front⟩ none
  /-- A block without an end is text together with the rest of the source, and is worth a
  warning. -/
  | openBlock {rest : List Char} (plain : rest.head? ≠ some '*')
      (unclosed : Piece.Unclosed delimiters.closing (front ++ delimiters.opening) rest) :
      Covers delimiters front (delimiters.opening ++ rest) []
        ⟨.text, String.ofList (delimiters.opening ++ rest), lineBehind front⟩
        (some .unterminatedTag)

/-- **A segmentation.** The portions follow each other behind `front`, none is empty, and only the
last one can have a fault. -/
inductive Segmented (delimiters : Delimiters) : (front : List Char) → List Portion → Prop
  | nil {front : List Char} : Segmented delimiters front []
  | cons {front : List Char} {portion : Portion} {rest : List Portion}
      (nonempty : portion.piece ≠ [])
      (covers : Covers delimiters front portion.piece (rest.flatMap (·.piece)) portion.element
        portion.fault?)
      (last : portion.fault? ≠ none → rest = [])
      (more : Segmented delimiters (front ++ portion.piece) rest) :
      Segmented delimiters front (portion :: rest)

namespace Piece

/-- What is wrong with a piece, without its line. -/
def fault? : Piece → Option ParseFault
  | openComment _ => some .unterminatedComment
  | openBlock _ => some .unterminatedTag
  | _ => none

theorem problem?_eq_map_fault? (line : Nat) (piece : Piece) :
    piece.problem? line = piece.fault?.map fun fault => ⟨line, fault⟩ := by
  cases piece <;> rfl

/-- The faults that a scan finds are mended on the spot. -/
theorem severity_of_problem? {line : Nat} {piece : Piece} {problem : ParseProblem}
    (h : piece.problem? line = some problem) : problem.severity = .warning := by
  cases piece with
  | openComment body =>
      obtain rfl := Option.some.inj h
      rfl
  | openBlock rest =>
      obtain rfl := Option.some.inj h
      rfl
  | text content | comment body | block raw => cases h

/-- The portion of a piece that starts on `line`. -/
def portion (delimiters : Delimiters) (line : Nat) (piece : Piece) : Portion :=
  ⟨piece.source delimiters, piece.element delimiters line, piece.fault?⟩

theorem line_element (delimiters : Delimiters) (line : Nat) (piece : Piece) :
    (piece.element delimiters line).line = line := by
  cases piece with
  | block raw =>
      simp only [element, elementOfBlock]
      split <;> rfl
  | _ => rfl

theorem problem?_portion (delimiters : Delimiters) (line : Nat) (piece : Piece) :
    (piece.portion delimiters line).problem? = piece.problem? line := by
  rw [problem?_eq_map_fault?, Portion.problem?, portion, line_element]

/-! ## The pieces of a scan -/

theorem formOf_snd (body : List Char) : (formOf body).2 = withoutSlash body := by
  unfold formOf
  split
  · rfl
  · rename_i hslash
    have hw : withoutSlash body = Text.dropTrailing '/' body := by
      unfold withoutSlash
      split
      · exact absurd rfl (hslash _)
      · rfl
    rw [hw, Text.dropTrailing]
    cases Text.beforeTrailing? '/' body with
    | none => rfl
    | some rest => rfl

theorem opening_append_closing (delimiters : Delimiters) :
    delimiters.left ++ delimiters.right
      = String.ofList (delimiters.opening ++ delimiters.closing) := by
  rw [String.ofList_append, Delimiters.opening, Delimiters.closing, String.ofList_toList,
    String.ofList_toList]

/-- The character in front of the body of a block is the last one of the left delimiter. -/
theorem getLast?_append_opening (delimiters : Delimiters) (front : List Char) :
    (front ++ delimiters.opening).getLast? = some (delimiters.opening.getLastD ' ') := by
  rw [List.getLast?_append, List.getLastD_eq_getLast?]
  cases h : delimiters.opening.getLast? with
  | none => exact absurd (List.getLast?_eq_none_iff.1 h) delimiters.opening_ne_nil
  | some c => rfl

theorem covers_block {delimiters : Delimiters} {front raw behind : List Char}
    (plain : (raw ++ delimiters.closing).head? ≠ some '*')
    (h : Closes delimiters.closing behind (front ++ delimiters.opening) raw) :
    Covers delimiters front ((block raw).source delimiters) behind
      ((block raw).element delimiters (lineBehind front)) none := by
  rw [element, elementOfBlock, source]
  by_cases hraw : raw = []
  · rw [if_pos hraw, hraw, opening_append_closing, List.append_nil]
    exact .emptyBlock (by simpa [hraw] using plain)
  · rw [if_neg hraw]
    simp only [formOf_snd]
    have hplain : raw.head? ≠ some '*' := by
      rwa [List.head?_append_of_ne_nil raw hraw] at plain
    refine .block hraw hplain ?_ h
    split
    · exact .inl rfl
    · exact .inr ⟨_, _, rfl⟩

/-- The piece behind a left delimiter is covered by its element. -/
theorem covers_behindOpening (delimiters : Delimiters) (front behind : List Char) :
    Covers delimiters front ((behindOpening delimiters behind).1.source delimiters)
      (behindOpening delimiters behind).2
      ((behindOpening delimiters behind).1.element delimiters (lineBehind front))
      (behindOpening delimiters behind).1.fault? := by
  have hlast := getLast?_append_opening delimiters front
  unfold behindOpening
  split
  · rename_i body
    cases hs : Text.splitFirst? ('*' :: delimiters.closing) body with
    | some cut =>
        obtain ⟨content, rest⟩ := cut
        have hsource : (comment content).source delimiters
            = delimiters.opening ++ '*' :: (content ++ '*' :: delimiters.closing) := by
          simp [source]
        simp only [hsource]
        exact .comment (Text.splitFirst?_eq_some_iff.1 hs).2
    | none => exact .openComment (Text.splitFirst?_eq_none_iff.1 hs)
  · -- no asterisk, so this is a block, and the search tells whether it ends
    rename_i hstar
    have hplain : behind.head? ≠ some '*' := fun h => by
      obtain ⟨body, rfl⟩ := List.head?_eq_some_iff.1 h
      exact hstar body rfl
    obtain ⟨hsome, hnone⟩ := closing?_spec delimiters.closing_ne_nil (front ++ delimiters.opening) _
      behind hlast
    cases hc : closing? delimiters.closing (delimiters.opening.getLastD ' ') 0 behind with
    | some found =>
        obtain ⟨raw, rest⟩ := found
        rw [eq_append_of_closing? hc, ← List.append_assoc,
          List.head?_append_of_ne_nil _ (by simp [delimiters.closing_ne_nil])] at hplain
        exact covers_block hplain (hsome _ _ hc)
    | none =>
        have h := Covers.openBlock hplain (hnone hc)
        rw [String.ofList_append, Delimiters.opening, String.ofList_toList] at h
        exact h

/-- A piece with a fault is the last one. -/
theorem snd_behindOpening_of_fault? {delimiters : Delimiters} {behind : List Char}
    (h : (behindOpening delimiters behind).1.fault? ≠ none) :
    (behindOpening delimiters behind).2 = [] := by
  unfold behindOpening at h ⊢
  split at h
  · split at h
    · exact absurd rfl h
    · rfl
  · split at h
    · exact absurd rfl h
    · rfl

theorem source_ne_nil_of_behindOpening (delimiters : Delimiters) (behind : List Char) :
    (behindOpening delimiters behind).1.source delimiters ≠ [] := by
  have hne := delimiters.opening_ne_nil
  unfold behindOpening
  split
  · split <;> simp [source, hne]
  · split <;> simp [source, hne]

theorem flatMap_piece_numbered (delimiters : Delimiters) (line : Nat) (pieces : List Piece) :
    ((numbered delimiters line pieces).map
        fun (line, piece) => piece.portion delimiters line).flatMap (·.piece)
      = pieces.flatMap (source delimiters) := by
  induction pieces generalizing line with
  | nil => rfl
  | cons piece rest ih =>
      rw [numbered, List.map_cons, List.flatMap_cons, List.flatMap_cons, ih]
      rfl

theorem lineBehind_append (front piece : List Char) :
    lineBehind front + Text.lineBreaks piece = lineBehind (front ++ piece) := by
  simp only [lineBehind, Text.lineBreaks, List.count_append]
  omega

/-- The portions that the pieces of a text become behind `front`. -/
def portions (delimiters : Delimiters) (front text : List Char) : List Portion :=
  (numbered delimiters (lineBehind front) (cut delimiters text)).map
    fun (line, piece) => piece.portion delimiters line

/-- One round of the scan: the pieces go on behind the first one, on the line that follows from
it. -/
theorem segmented_cons {delimiters : Delimiters} {front : List Char} {piece : Piece}
    {rest : List Piece} (nonempty : piece.source delimiters ≠ [])
    (covers : Covers delimiters front (piece.source delimiters) (rest.flatMap (source delimiters))
      (piece.element delimiters (lineBehind front)) piece.fault?)
    (last : piece.fault? ≠ none → rest = [])
    (more : Segmented delimiters (front ++ piece.source delimiters)
      ((numbered delimiters (lineBehind (front ++ piece.source delimiters)) rest).map
        fun (line, piece) => piece.portion delimiters line)) :
    Segmented delimiters front
      ((numbered delimiters (lineBehind front) (piece :: rest)).map
        fun (line, piece) => piece.portion delimiters line) := by
  rw [numbered, List.map_cons, lineBehind_append]
  refine .cons nonempty ?_ ?_ more
  · rw [flatMap_piece_numbered]
    exact covers
  · intro hfault
    rw [last hfault]
    rfl

/-- **Cutting makes a segmentation**, wherever in a source it starts. -/
theorem segmented_portions (delimiters : Delimiters) (front text : List Char) :
    Segmented delimiters front (portions delimiters front text) := by
  unfold portions
  fun_induction cut delimiters text generalizing front with
  | case1 => exact .nil
  | case2 text hne h =>
      refine segmented_cons hne ?_ (fun _ => rfl) .nil
      exact .lastText (Text.splitFirst?_eq_none_iff.1 h)
  | case3 text hne before behind h _ next ih =>
      obtain ⟨htext, hfirst⟩ := Text.splitFirst?_eq_some_iff.1 h
      have hnext : next.1.source delimiters ++ next.2 = delimiters.opening ++ behind :=
        source_behindOpening delimiters behind
      -- what starts at the left delimiter is a segmentation, whether text stands in front or not
      have hblock : ∀ front, Segmented delimiters front
          ((numbered delimiters (lineBehind front) (next.1 :: cut delimiters next.2)).map
            fun (line, piece) => piece.portion delimiters line) := by
        intro front
        refine segmented_cons (source_ne_nil_of_behindOpening delimiters behind) ?_ ?_ (ih _)
        · rw [flatMap_source_cut]
          exact covers_behindOpening delimiters front behind
        · intro hfault
          have hnil : next.2 = [] := snd_behindOpening_of_fault? hfault
          rw [hnil, cut, if_pos rfl]
      by_cases hb : before = []
      · rw [if_pos hb]
        exact hblock front
      · rw [if_neg hb, List.singleton_append]
        refine segmented_cons hb ?_ (fun hfault => absurd rfl hfault) (hblock _)
        rw [List.flatMap_cons, flatMap_source_cut, hnext]
        exact .text hfirst

end Piece

/-! ## The scan -/

/-- **A scan is a lossless segmentation of its source.** The source falls into non-empty portions,
one for each element in order; each is what the rules of the language say, on the line that follows
from the portions before it; and the problems are the faults of the portions, all of them
warnings. -/
theorem Element.scan_segments (delimiters : Delimiters) (source : String) :
    ∃ portions : List Portion,
      Segmented delimiters [] portions ∧
      portions.flatMap (·.piece) = source.toList ∧
      portions.map (·.element) = (Element.scan (some delimiters) source).elements ∧
      portions.filterMap (·.problem?) = (Element.scan (some delimiters) source).problems ∧
      ∀ problem ∈ (Element.scan (some delimiters) source).problems,
        problem.severity = .warning := by
  refine ⟨Piece.portions delimiters [] source.toList,
    Piece.segmented_portions delimiters [] source.toList, ?_, ?_, ?_, ?_⟩
  · rw [Piece.portions, Piece.flatMap_piece_numbered, Piece.flatMap_source_cut]
  · rw [Piece.portions, List.map_map]
    rfl
  · rw [Piece.portions, List.filterMap_map, Element.scan]
    refine List.filterMap_congr fun entry _ => ?_
    exact Piece.problem?_portion delimiters entry.1 entry.2
  · intro problem hmem
    obtain ⟨⟨line, piece⟩, -, hp⟩ := List.mem_filterMap.1 hmem
    exact Piece.severity_of_problem? hp

end TextTemplate
