import TextTemplate.Element.Scan
import TextTemplate.Proofs.Text.Search

set_option autoImplicit false

/-! # Cutting one piece off

`Piece.cut` goes on behind the piece it has found. So a source can be cut piece by piece:
`cut_append` takes the text in front of a left delimiter and the piece behind it off the source,
whatever follows, and `cut_of_not_infix` ends the work. -/

namespace TextTemplate.Piece

/-- Text in front of the next left delimiter, if there is any. -/
def leading (before : List Char) : List Piece := if before = [] then [] else [.text before]

/-- Without a left delimiter everything is text. -/
theorem cut_of_not_infix {delimiters : Delimiters} {text : List Char}
    (h : ¬ delimiters.opening <:+: text) : cut delimiters text = leading text := by
  rw [cut, leading]
  split
  · rfl
  · split
    · rfl
    · rename_i hs
      rw [Text.splitFirst?_eq_none_iff.2 h] at hs
      cases hs

/-- **The next piece is cut off**, and the rest of the source is cut by itself. -/
theorem cut_append {delimiters : Delimiters} {before behind rest : List Char} {piece : Piece}
    (hfirst : Text.FirstAt delimiters.opening before behind)
    (hpiece : behindOpening delimiters behind = (piece, rest)) :
    cut delimiters (before ++ (delimiters.opening ++ behind))
      = leading before ++ piece :: cut delimiters rest := by
  have hs := Text.splitFirst?_eq_some_iff.2 ⟨rfl, hfirst⟩
  rw [cut, if_neg (by simp [delimiters.opening_ne_nil])]
  split
  · rename_i hn
    rw [hs] at hn
    cases hn
  · rename_i before' behind' hs'
    rw [hs] at hs'
    obtain ⟨rfl, rfl⟩ := Prod.mk.inj (Option.some.inj hs')
    simp only [hpiece]
    rfl

/-- A comment behind a left delimiter. -/
theorem behindOpening_comment {delimiters : Delimiters} {body rest : List Char}
    (h : Text.FirstAt ('*' :: delimiters.closing) body rest) :
    behindOpening delimiters ('*' :: (body ++ ('*' :: delimiters.closing ++ rest)))
      = (.comment body, rest) := by
  simp only [behindOpening, Text.splitFirst?_eq_some_iff.2 ⟨rfl, h⟩]

/-- A block behind a left delimiter. -/
theorem behindOpening_block {delimiters : Delimiters} {c : Char} {behind raw rest : List Char}
    (hc : c ≠ '*')
    (h : closing? delimiters.closing (delimiters.opening.getLastD ' ') 0 (c :: behind)
      = some (raw, rest)) :
    behindOpening delimiters (c :: behind) = (.block raw, rest) := by
  unfold behindOpening
  split
  · rename_i hs
    exact absurd (List.cons.inj hs).1 hc
  · rw [h]

/-! ## Lines -/

theorem flatMap_source_leading (delimiters : Delimiters) (before : List Char) :
    (leading before).flatMap (source delimiters) = before := by
  unfold leading
  split
  · next h => rw [h, List.flatMap_nil]
  · simp [source]

/-- Behind some pieces, the lines are counted on from the line breaks in them. -/
theorem numbered_append (delimiters : Delimiters) (line : Nat) (pieces rest : List Piece) :
    numbered delimiters line (pieces ++ rest) = numbered delimiters line pieces ++
      numbered delimiters (line + Text.lineBreaks (pieces.flatMap (source delimiters))) rest := by
  induction pieces generalizing line with
  | nil => rfl
  | cons piece pieces ih =>
      rw [List.cons_append, numbered, ih, numbered, List.cons_append, List.flatMap_cons,
        Text.lineBreaks, Text.lineBreaks, Text.lineBreaks, List.count_append, Nat.add_assoc]

end TextTemplate.Piece
