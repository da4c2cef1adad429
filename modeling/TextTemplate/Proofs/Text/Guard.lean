import TextTemplate.Element.Scan
import TextTemplate.Proofs.Expression.QuotedText
import TextTemplate.Proofs.Text.Escape

set_option autoImplicit false

/-! # Guarding characters

To put any text into a template, one writes a backslash in front of the characters that would end
it: `guarded marks` does that for the characters in `marks`. A reader of the text takes the
backslashes away again. There are two such readers, the search for right delimiters of one
character, undone by `unescape`, and the reader of quoted texts; each of them gives back the text
that was guarded against it. -/

namespace TextTemplate.Text

/-- The text with a backslash in front of every character in `marks`. -/
def guarded (marks text : List Char) : List Char :=
  text.flatMap fun c => if c ∈ marks then ['\\', c] else [c]

variable {marks : List Char}

@[simp] theorem guarded_nil (marks : List Char) : guarded marks [] = [] := rfl

theorem guarded_cons_of_mem {c : Char} (h : c ∈ marks) (text : List Char) :
    guarded marks (c :: text) = '\\' :: c :: guarded marks text := by
  simp [guarded, h]

theorem guarded_cons_of_not_mem {c : Char} (h : c ∉ marks) (text : List Char) :
    guarded marks (c :: text) = c :: guarded marks text := by
  simp [guarded, h]

theorem guarded_append (marks text text' : List Char) :
    guarded marks (text ++ text') = guarded marks text ++ guarded marks text' :=
  List.flatMap_append

/-- A text without any of the characters needs no guard. -/
theorem guarded_eq_self {text : List Char} (h : ∀ c ∈ text, c ∉ marks) :
    guarded marks text = text := by
  induction text with
  | nil => rfl
  | cons c rest ih =>
      rw [guarded_cons_of_not_mem (h c List.mem_cons_self),
        ih fun d hd => h d (List.mem_cons_of_mem c hd)]

/-! ## Right delimiters of one character -/

/-- No guarded text starts with the character it is guarded against. -/
theorem head?_guarded_ne {mark : Char} (hm : mark ≠ '\\') (text : List Char) :
    (guarded [mark] text).head? ≠ some mark := by
  cases text with
  | nil => simp
  | cons c rest =>
      by_cases hc : c = mark
      · rw [guarded_cons_of_mem (by simp [hc])]
        simpa using hm.symm
      · rw [guarded_cons_of_not_mem (by simpa using hc)]
        simpa using hc

/-- **Unescaping gives back what was guarded.** -/
theorem unescape_guarded {mark : Char} (hm : mark ≠ '\\') (text : List Char) :
    unescape [mark] (guarded [mark] text) = text := by
  induction text with
  | nil => rw [guarded_nil, unescape_nil]
  | cons c rest ih =>
      by_cases hc : c = mark
      · subst hc
        rw [guarded_cons_of_mem (by simp)]
        have h : unescape [c] (['\\', c] ++ guarded [c] rest)
            = [c] ++ unescape [c] (guarded [c] rest) := unescape_append _
        rw [ih] at h
        exact h
      · rw [guarded_cons_of_not_mem (by simpa using hc)]
        -- a backslash of the text is not followed by a bare mark
        have hp : ¬ ['\\', mark] <+: c :: guarded [mark] rest := by
          intro hp
          obtain ⟨-, t, ht⟩ := List.cons_prefix_cons.1 hp
          apply head?_guarded_ne hm rest
          rw [← ht]
          rfl
        rw [unescape_cons hp, ih]

end TextTemplate.Text

namespace TextTemplate

open Text (guarded guarded_nil guarded_cons_of_mem guarded_cons_of_not_mem)

/-- **A block ends behind its guarded text**, unless that ends in a backslash, which would escape
the delimiter. -/
theorem Piece.closing?_guarded {mark last : Char} (hm : mark ≠ '\\') (text rest : List Char)
    (hlast : text.getLastD last ≠ '\\') :
    Piece.closing? [mark] last 0 (guarded [mark] text ++ mark :: rest)
      = some (guarded [mark] text, rest) := by
  induction text generalizing last with
  | nil =>
      have hl : last ≠ '\\' := hlast
      simp [Piece.closing?, Text.behind?, hl]
  | cons c text ih =>
      rw [List.getLastD_cons] at hlast
      have hnext := ih hlast
      by_cases hc : c = mark
      · subst hc
        -- the search passes the guard, and then the mark, which has the guard in front of it
        have hb : Text.behind? [c] ('\\' :: c :: (guarded [c] text ++ c :: rest)) = none := by
          simp [Text.behind?, hm]
        have hc : Text.behind? [c] (c :: (guarded [c] text ++ c :: rest))
            = some (guarded [c] text ++ c :: rest) := by
          simp [Text.behind?]
        rw [guarded_cons_of_mem (by simp), List.cons_append, List.cons_append, Piece.closing?, hb]
        rw [Piece.closing?, hc]
        simp [hnext]
      · have hb : Text.behind? [mark] (c :: (guarded [mark] text ++ mark :: rest)) = none := by
          simp [Text.behind?, Ne.symm hc]
        rw [guarded_cons_of_not_mem (by simpa using hc), List.cons_append, Piece.closing?, hb]
        simp [hnext]

/-- **A quoted text says what was guarded**, if its quotes are. -/
theorem Token.denotes_guarded {quote : Char} (hq : Token.isQuote quote = true) (text : List Char) :
    Token.Denotes quote (· ≠ '\n') (guarded ['\\', quote] text) text := by
  have hne : quote ≠ '\n' := by
    rintro rfl
    cases hq
  induction text with
  | nil => exact .nil
  | cons c text ih =>
      by_cases hc : c ∈ ['\\', quote]
      · have hn : c ≠ '\n' := by
          rcases List.mem_pair.1 hc with rfl | rfl
          · decide
          · exact hne
        rw [guarded_cons_of_mem hc]
        exact .escaped hn ih
      · obtain ⟨hback, hquote⟩ : c ≠ '\\' ∧ c ≠ quote := by simpa using hc
        rw [guarded_cons_of_not_mem hc]
        exact .plain hquote hback ih

end TextTemplate
