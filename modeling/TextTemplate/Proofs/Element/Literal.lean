import TextTemplate.Element.Layout
import TextTemplate.Proofs.Element.Cut
import TextTemplate.Proofs.Element.Segmentation
import TextTemplate.Proofs.Text.Escape

set_option autoImplicit false

/-! # Literal blocks and their source

A literal block is not copied from the source. Its elements are written out again: slashes and
escapes that the scan took away are put back. This file says when that gives the source of the
block.

`Piece.Restorable` is a condition on one piece of the source. A piece fails it in three ways: it is
a comment that is never closed, which comes back with an end; it is an expression with a slash at
its start or its end, which comes back without; or its right delimiters do not come back with the
same backslashes. By `flatMap_written_eq_iff` a block comes back as it was exactly if none of its
pieces fails: a loss in one piece is never made up for by another one.

Main statement: `literal_block_verbatim_iff`. -/

namespace TextTemplate

namespace Piece

/-! ## Pieces that come back as they were -/

/-- A text with the slash of its form. -/
def slashed : TagForm → List Char → List Char
  | .single, body => body ++ ['/']
  | .normal, body => body
  | .closing, body => '/' :: body

theorem slashed_formOf (body : List Char) : slashed (formOf body).1 (formOf body).2 = body := by
  unfold formOf
  split
  · rfl
  · rename_i hslash
    cases hb : Text.beforeTrailing? '/' body with
    | none => rfl
    | some rest =>
        unfold Text.beforeTrailing? at hb
        split at hb
        · rename_i hlast
          obtain rfl := Option.some.inj hb
          obtain ⟨start, rfl⟩ := List.getLast?_eq_some_iff.1 hlast
          show (start ++ ['/']).dropLast ++ ['/'] = start ++ ['/']
          rw [List.dropLast_concat]
        · cases hb

/-- The form of a block and what it says, read off what its delimiters enclose. -/
def reading (delimiters : Delimiters) (raw : List Char) : TagForm × List Char :=
  formOf (Text.unescape delimiters.closing raw)

/-- **When a piece comes back as it was.** A comment must be closed, an expression must not have a
slash at its start or its end, and the escapes of a block must be those that its text needs. -/
def Restorable (delimiters : Delimiters) : Piece → Prop
  | text _ | comment _ | openBlock _ => True
  | openComment _ => False
  | block raw =>
    raw = [] ∨
      (isExpression (reading delimiters raw).2 = true → (reading delimiters raw).1 = .normal) ∧
        slashed (reading delimiters raw).1
          (Text.escape delimiters.closing (reading delimiters raw).2) = raw

instance (delimiters : Delimiters) : DecidablePred (Restorable delimiters) := fun piece => by
  cases piece <;> unfold Restorable <;> infer_instance

/-- A piece as a literal block writes it out. -/
def rewritten (delimiters : Delimiters) (line : Nat) (piece : Piece) : List Char :=
  Element.written delimiters (piece.element delimiters line)

/-- What a literal block writes between the delimiters of a block. -/
def restored (delimiters : Delimiters) (raw : List Char) : List Char :=
  let body := Text.escape delimiters.closing (reading delimiters raw).2
  if isExpression (reading delimiters raw).2 then body else slashed (reading delimiters raw).1 body

theorem rewritten_block (delimiters : Delimiters) (line : Nat) {raw : List Char} (h : raw ≠ []) :
    rewritten delimiters line (block raw)
      = delimiters.opening ++ restored delimiters raw ++ delimiters.closing := by
  rw [rewritten, element, elementOfBlock, if_neg h, restored]
  have hr : formOf (Text.replaceAll ('\\' :: delimiters.closing) delimiters.closing raw)
      = ((reading delimiters raw).1, (reading delimiters raw).2) := rfl
  rw [hr]
  by_cases he : isExpression (reading delimiters raw).2 = true
  · simp [Element.written, he, Text.escape]
  · cases hf : (reading delimiters raw).1 <;> simp [Element.written, he, Text.escape, slashed]

theorem rewritten_block_nil (delimiters : Delimiters) (line : Nat) :
    rewritten delimiters line (block []) = delimiters.opening ++ delimiters.closing := by
  simp [rewritten, element, elementOfBlock, Element.written, Delimiters.opening, Delimiters.closing]

theorem rewritten_text (delimiters : Delimiters) (line : Nat) (content : List Char) :
    rewritten delimiters line (text content) = content := by
  simp [rewritten, element, Element.written]

theorem rewritten_comment (delimiters : Delimiters) (line : Nat) (body : List Char) :
    rewritten delimiters line (comment body) = (comment body).source delimiters := by
  simp [rewritten, element, Element.written, source]

theorem rewritten_openComment (delimiters : Delimiters) (line : Nat) (body : List Char) :
    rewritten delimiters line (openComment body)
      = (openComment body).source delimiters ++ '*' :: delimiters.closing := by
  simp [rewritten, element, Element.written, source]

theorem rewritten_openBlock (delimiters : Delimiters) (line : Nat) (rest : List Char) :
    rewritten delimiters line (openBlock rest) = (openBlock rest).source delimiters := by
  simp [rewritten, element, Element.written, source, Delimiters.opening]

/-- A restorable piece is written out as it stood in the source. -/
theorem rewritten_eq_source {delimiters : Delimiters} {piece : Piece} (line : Nat)
    (h : piece.Restorable delimiters) :
    rewritten delimiters line piece = piece.source delimiters := by
  cases piece with
  | text content => exact rewritten_text delimiters line content
  | comment body => exact rewritten_comment delimiters line body
  | openComment body => exact h.elim
  | openBlock rest => exact rewritten_openBlock delimiters line rest
  | block raw =>
      by_cases hraw : raw = []
      · rw [hraw, rewritten_block_nil, source, List.append_nil]
      · obtain ⟨hform, hslash⟩ := h.resolve_left hraw
        rw [rewritten_block delimiters line hraw, source, restored]
        have hbody : (if isExpression (reading delimiters raw).2 then
              Text.escape delimiters.closing (reading delimiters raw).2
            else slashed (reading delimiters raw).1
              (Text.escape delimiters.closing (reading delimiters raw).2)) = raw := by
          split
          · rename_i he
            rw [hform he] at hslash
            exact hslash
          · exact hslash
        rw [hbody]

/-! ## What is written out, counted

Unescaping and escaping only move backslashes, so any other character tells how much was lost or
added: the slashes that a block loses, and the asterisk that an open comment gains. -/

theorem count_slashed (form : TagForm) (body : List Char) (c : Char) :
    (slashed form body).count c = body.count c + if form ≠ .normal ∧ c = '/' then 1 else 0 := by
  cases form with
  | normal => simp [slashed]
  | single => by_cases hc : c = '/' <;> simp [slashed, hc, eq_comm]
  | closing => by_cases hc : c = '/' <;> simp [slashed, hc, eq_comm]

/-- A block has the characters of its text and of the slash of its form. -/
theorem count_raw (delimiters : Delimiters) (raw : List Char) {c : Char} (hc : c ≠ '\\') :
    raw.count c = (reading delimiters raw).2.count c
      + if (reading delimiters raw).1 ≠ .normal ∧ c = '/' then 1 else 0 := by
  rw [← count_slashed, reading, slashed_formOf, Text.count_unescape _ _ hc]

/-- What is written out has them too, but for the slash of an expression. -/
theorem count_restored (delimiters : Delimiters) (raw : List Char) {c : Char} (hc : c ≠ '\\') :
    (restored delimiters raw).count c = (reading delimiters raw).2.count c
      + if isExpression (reading delimiters raw).2 = false ∧ (reading delimiters raw).1 ≠ .normal
          ∧ c = '/' then 1 else 0 := by
  rw [restored]
  cases he : isExpression (reading delimiters raw).2 with
  | true => simp [Text.count_escape delimiters.closing_ne_nil _ hc]
  | false => simp [count_slashed, Text.count_escape delimiters.closing_ne_nil _ hc]

/-- Only an open comment and a block that encloses something can come back changed. -/
theorem restorable_or (delimiters : Delimiters) (piece : Piece) :
    piece.Restorable delimiters ∨ (∃ body, piece = openComment body) ∨
      ∃ raw, raw ≠ [] ∧ piece = block raw := by
  cases piece with
  | text content | comment body | openBlock rest => exact .inl trivial
  | openComment body => exact .inr (.inl ⟨body, rfl⟩)
  | block raw =>
      by_cases hraw : raw = []
      · exact .inl (.inl hraw)
      · exact .inr (.inr ⟨raw, hraw, rfl⟩)

theorem count_star_le (delimiters : Delimiters) (line : Nat) (piece : Piece) :
    (piece.source delimiters).count '*' ≤ (rewritten delimiters line piece).count '*' := by
  rcases restorable_or delimiters piece with h | ⟨body, rfl⟩ | ⟨raw, hraw, rfl⟩
  · exact Nat.le_of_eq (by rw [rewritten_eq_source line h])
  · rw [rewritten_openComment, List.count_append]
    omega
  · rw [rewritten_block delimiters line hraw, source]
    simp only [List.count_append]
    rw [count_raw delimiters raw (by decide), count_restored delimiters raw (by decide)]
    simp

/-- An open comment gains an asterisk. -/
theorem count_star_lt (delimiters : Delimiters) (line : Nat) (body : List Char) :
    ((openComment body).source delimiters).count '*'
      < (rewritten delimiters line (openComment body)).count '*' := by
  rw [rewritten_openComment, List.count_append, List.count_cons_self]
  omega

theorem count_slash_le (delimiters : Delimiters) (line : Nat) {piece : Piece}
    (h : ∀ body, piece ≠ openComment body) :
    (rewritten delimiters line piece).count '/' ≤ (piece.source delimiters).count '/' := by
  rcases restorable_or delimiters piece with hr | ⟨body, rfl⟩ | ⟨raw, hraw, rfl⟩
  · exact Nat.le_of_eq (by rw [rewritten_eq_source line hr])
  · exact absurd rfl (h body)
  · rw [rewritten_block delimiters line hraw, source]
    simp only [List.count_append]
    rw [count_raw delimiters raw (by decide), count_restored delimiters raw (by decide)]
    -- an expression loses the slash of its form, a tag keeps it
    cases isExpression (reading delimiters raw).2 with
    | true => simp
    | false => simp

/-- An expression with a slash loses it. -/
theorem count_slash_lt (delimiters : Delimiters) (line : Nat) {raw : List Char} (hraw : raw ≠ [])
    (hexpr : isExpression (reading delimiters raw).2 = true)
    (hform : (reading delimiters raw).1 ≠ .normal) :
    (rewritten delimiters line (block raw)).count '/'
      < ((block raw).source delimiters).count '/' := by
  rw [rewritten_block delimiters line hraw, source]
  simp only [List.count_append]
  rw [count_raw delimiters raw (by decide), count_restored delimiters raw (by decide)]
  simp [hexpr, hform]

/-! ## No piece makes up for another

Without open comments and lost slashes a piece is written out as it stood, or as something that
nothing behind it turns into the source. -/

/-- A block that keeps its slash, and whose rewriting can be continued to a continuation of the
source, is restorable. -/
theorem slashed_escape_eq {delimiters : Delimiters} {raw x y : List Char}
    (hlast : raw.getLast? ≠ some '\\')
    (h : slashed (reading delimiters raw).1
      (Text.escape delimiters.closing (reading delimiters raw).2) ++ x = raw ++ y) :
    slashed (reading delimiters raw).1 (Text.escape delimiters.closing (reading delimiters raw).2)
      = raw := by
  have hne := delimiters.closing_ne_nil
  have hread : slashed (reading delimiters raw).1 (reading delimiters raw).2
      = Text.unescape delimiters.closing raw := slashed_formOf _
  cases hform : (reading delimiters raw).1 with
  | normal =>
      rw [hform] at h hread
      simp only [slashed] at h hread ⊢
      rw [hread] at h ⊢
      exact Text.escape_unescape_eq_of_append hne h (.inl hlast)
  | single =>
      rw [hform] at h hread
      simp only [slashed] at h hread ⊢
      exact Text.escape_append_eq_of_append hne (by decide) hread.symm (by simpa using h)
  | closing =>
      rw [hform] at h hread
      simp only [slashed] at h hread ⊢
      cases raw with
      | nil => simp at hread
      | cons c rest =>
          obtain ⟨rfl, htail⟩ := List.cons.inj h
          -- the slash starts no escaped mark, so it is the rest that was unescaped
          have hp : ¬ '\\' :: delimiters.closing <+: '/' :: rest := by
            rintro ⟨t, ht⟩
            exact absurd (List.cons.inj ht).1 (by decide)
          rw [Text.unescape_cons hp] at hread
          rw [(List.cons.inj hread).2] at htail ⊢
          rw [Text.escape_unescape_eq_of_append hne htail]
          refine .inl fun hrest => hlast ?_
          rw [List.getLast?_cons, hrest]
          rfl

/-- **The rewriting of a piece, continued, is the source, continued, only if the piece is
restorable.** -/
theorem restorable_of_append {delimiters : Delimiters} {line : Nat} {piece : Piece}
    {x y : List Char}
    (hlast : ∀ raw, piece = block raw → raw.getLast? ≠ some '\\')
    (hstar : (rewritten delimiters line piece).count '*' = (piece.source delimiters).count '*')
    (hslash : (rewritten delimiters line piece).count '/' = (piece.source delimiters).count '/')
    (h : rewritten delimiters line piece ++ x = piece.source delimiters ++ y) :
    piece.Restorable delimiters := by
  cases piece with
  | text content | comment body | openBlock rest => trivial
  | openComment body => exact absurd hstar (Nat.ne_of_gt (count_star_lt delimiters line body))
  | block raw =>
      by_cases hraw : raw = []
      · exact .inl hraw
      · have hform : isExpression (reading delimiters raw).2 = true →
            (reading delimiters raw).1 = .normal := by
          intro hexpr
          by_contra hform
          exact absurd hslash (Nat.ne_of_lt (count_slash_lt delimiters line hraw hexpr hform))
        refine .inr ⟨hform, ?_⟩
        have hrestored : restored delimiters raw = slashed (reading delimiters raw).1
            (Text.escape delimiters.closing (reading delimiters raw).2) := by
          rw [restored]
          split
          · rename_i hexpr
            rw [hform hexpr]
            rfl
          · rfl
        rw [rewritten_block delimiters line hraw, source, hrestored, List.append_assoc,
          List.append_assoc, List.append_assoc, List.append_assoc] at h
        exact slashed_escape_eq (hlast raw rfl) (List.append_cancel_left h)

/-! ## The pieces of a block together -/

theorem count_flatMap_le {α : Type} {f g : α → List Char} {c : Char} {l : List α}
    (hle : ∀ x ∈ l, (f x).count c ≤ (g x).count c) :
    (l.flatMap f).count c ≤ (l.flatMap g).count c := by
  induction l with
  | nil => exact Nat.le_refl _
  | cons x l ih =>
      have hx := hle x List.mem_cons_self
      have hl := ih fun y hy => hle y (List.mem_cons_of_mem _ hy)
      rw [List.flatMap_cons, List.flatMap_cons, List.count_append, List.count_append]
      omega

/-- If every part has at most as many `c` as its partner, and all together have as many, then so has
each part. -/
theorem count_eq_of_count_flatMap_eq {α : Type} {f g : α → List Char} {c : Char} {l : List α}
    (hle : ∀ x ∈ l, (f x).count c ≤ (g x).count c)
    (h : (l.flatMap f).count c = (l.flatMap g).count c) :
    ∀ x ∈ l, (f x).count c = (g x).count c := by
  induction l with
  | nil => intro x hx; cases hx
  | cons x l ih =>
      have hx := hle x List.mem_cons_self
      have hle' : ∀ y ∈ l, (f y).count c ≤ (g y).count c :=
        fun y hy => hle y (List.mem_cons_of_mem _ hy)
      have hl := count_flatMap_le hle'
      rw [List.flatMap_cons, List.flatMap_cons, List.count_append, List.count_append] at h
      intro y hy
      rcases List.mem_cons.1 hy with rfl | hy
      · omega
      · exact ih hle' (by omega) y hy

/-- What a literal block writes for the pieces within it. -/
def rewriting (delimiters : Delimiters) (inside : List (Nat × Piece)) : List Char :=
  inside.flatMap fun entry => rewritten delimiters entry.1 entry.2

/-- The part of the source that the pieces were cut from. -/
def slice (delimiters : Delimiters) (inside : List (Nat × Piece)) : List Char :=
  inside.flatMap fun entry => entry.2.source delimiters

/-- **A literal block comes back as it was exactly if each of its pieces does.** -/
theorem rewriting_eq_slice_iff {delimiters : Delimiters} {inside : List (Nat × Piece)}
    (hlast : ∀ entry ∈ inside, ∀ raw, entry.2 = block raw → raw.getLast? ≠ some '\\') :
    rewriting delimiters inside = slice delimiters inside ↔
      ∀ entry ∈ inside, entry.2.Restorable delimiters := by
  constructor
  · intro h
    have hstar := count_eq_of_count_flatMap_eq (l := inside)
      (fun entry _ => count_star_le delimiters entry.1 entry.2) (congrArg (List.count '*') h.symm)
    -- the asterisks leave no open comment, and without one no piece gains a slash
    have hclosed : ∀ entry ∈ inside, ∀ body, entry.2 ≠ openComment body := by
      rintro ⟨line, piece⟩ hmem body rfl
      exact absurd (hstar _ hmem) (Nat.ne_of_lt (count_star_lt delimiters line body))
    have hslash := count_eq_of_count_flatMap_eq (l := inside)
      (fun entry hmem => count_slash_le delimiters entry.1 (hclosed entry hmem))
      (congrArg (List.count '/') h)
    clear hclosed
    -- the counts agree piece by piece, so the first piece must agree, and then the others
    induction inside with
    | nil => intro entry hmem; cases hmem
    | cons first rest ih =>
        have hfirst : first.2.Restorable delimiters :=
          restorable_of_append (hlast first List.mem_cons_self)
            (hstar first List.mem_cons_self).symm (hslash first List.mem_cons_self) h
        have hrest : rewriting delimiters rest = slice delimiters rest := by
          rw [rewriting, slice, List.flatMap_cons, List.flatMap_cons,
            rewritten_eq_source first.1 hfirst] at h
          exact List.append_cancel_left h
        intro entry hmem
        rcases List.mem_cons.1 hmem with rfl | hmem
        · exact hfirst
        · exact ih (fun e he => hlast e (List.mem_cons_of_mem _ he)) hrest
            (fun e he => hstar e (List.mem_cons_of_mem _ he))
            (fun e he => hslash e (List.mem_cons_of_mem _ he)) entry hmem
  · intro h
    refine List.flatMap_congr fun entry hmem => ?_
    exact rewritten_eq_source entry.1 (h entry hmem)

/-- What a block of a scan encloses does not end in a backslash. -/
theorem getLast?_ne_of_mem_cut {delimiters : Delimiters} {text raw : List Char}
    (h : block raw ∈ cut delimiters text) : raw.getLast? ≠ some '\\' := by
  fun_induction cut delimiters text with
  | case1 => cases h
  | case2 => simp at h
  | case3 text hne before behind hs _ next ih =>
      rcases List.mem_append.1 h with h | h
      · split at h <;> simp at h
      · rcases List.mem_cons.1 h with h | h
        · -- the piece that stands behind a left delimiter
          unfold next behindOpening at h
          split at h
          · split at h <;> cases h
          · -- the search ends a block at a mark that is not escaped
            cases hc : closing? delimiters.closing (delimiters.opening.getLastD ' ') 0 behind with
            | none =>
                rw [hc] at h
                cases h
            | some found =>
                obtain ⟨raw', rest⟩ := found
                rw [hc] at h
                obtain rfl := block.inj h
                have hcloses := (closing?_spec delimiters.closing_ne_nil delimiters.opening _ behind
                  (getLast?_append_opening delimiters [])).1 raw rest hc
                intro hlast
                apply hcloses.getLast?_ne
                rw [List.getLast?_append, hlast]
                rfl
        · exact ih h

theorem flatMap_source_numbered (delimiters : Delimiters) (line : Nat) (pieces : List Piece) :
    (numbered delimiters line pieces).flatMap (fun entry => entry.2.source delimiters)
      = pieces.flatMap (source delimiters) := by
  induction pieces generalizing line with
  | nil => rfl
  | cons piece rest ih => rw [numbered, List.flatMap_cons, List.flatMap_cons, ih]

theorem snd_mem_of_mem_numbered {delimiters : Delimiters} {line : Nat} {pieces : List Piece}
    {entry : Nat × Piece} (h : entry ∈ numbered delimiters line pieces) : entry.2 ∈ pieces := by
  induction pieces generalizing line with
  | nil => cases h
  | cons piece rest ih =>
      rw [numbered] at h
      rcases List.mem_cons.1 h with rfl | h
      · exact List.mem_cons_self
      · exact List.mem_cons_of_mem _ (ih h)

end Piece

/-! ## Stretches

A layout treats a literal block as one. So the pieces of a source are gathered into stretches: a
piece by itself, or a literal block from its opening tag to its end tag. The layout goes from
stretch to stretch, and looks no further than to the tag in front and the tag behind. -/

/-- A part of a source that a layout treats as one. Pieces stand with their lines. -/
inductive Stretch
  | single (entry : Nat × Piece)
  /-- A literal block; without an end tag it runs to the end of the source. -/
  | literal (opening : Nat × Piece) (inside : List (Nat × Piece)) (ending : Option (Nat × Piece))

namespace Stretch

/-- The element of a piece on its line. -/
def elementOf (delimiters : Delimiters) (entry : Nat × Piece) : Element :=
  entry.2.element delimiters entry.1

/-- The name of the literal block that an element opens, if it does. A single tag opens none. -/
def opened? (isLiteral : String → Bool) (element : Element) : Option String :=
  match element.kind with
  | .tag form name => if isLiteral name = true ∧ form ≠ .single then some name else none
  | _ => none

/-- Whether a piece is something else than the end tag `name`. -/
def staysInside (delimiters : Delimiters) (name : String) (entry : Nat × Piece) : Bool :=
  !Element.isEndOf name (elementOf delimiters entry)

theorem length_tail_dropWhile_le {α : Type} (p : α → Bool) (l : List α) :
    (l.dropWhile p).tail.length ≤ l.length :=
  Nat.le_trans (List.tail_sublist _).length_le (List.dropWhile_suffix p).length_le

/-- The stretches of consecutive pieces. -/
def gather (delimiters : Delimiters) (isLiteral : String → Bool) :
    List (Nat × Piece) → List Stretch
  | [] => []
  | entry :: rest =>
    match opened? isLiteral (elementOf delimiters entry) with
    | none => single entry :: gather delimiters isLiteral rest
    | some name =>
      literal entry (rest.takeWhile (staysInside delimiters name))
          (rest.dropWhile (staysInside delimiters name)).head? ::
        gather delimiters isLiteral (rest.dropWhile (staysInside delimiters name)).tail
termination_by entries => entries.length
decreasing_by
  · exact Nat.lt_succ_self _
  · exact Nat.lt_succ_of_le (length_tail_dropWhile_le _ _)

/-- The stretches of a source. -/
def ofSource (delimiters : Delimiters) (isLiteral : String → Bool) (source : String) :
    List Stretch :=
  gather delimiters isLiteral (Piece.numbered delimiters 1 (Piece.cut delimiters source.toList))

/-- The part of the source that a stretch covers. -/
def source (delimiters : Delimiters) : Stretch → List Char
  | single entry => Piece.slice delimiters [entry]
  | literal opening inside ending =>
    Piece.slice delimiters [opening] ++ Piece.slice delimiters inside ++
      Piece.slice delimiters ending.toList

/-- What the layout makes of a stretch, by whether tags come directly before and behind it. -/
def output (delimiters : Delimiters) (isLiteral : String → Bool) (afterTag beforeTag : Bool) :
    Stretch → List Element
  | single entry =>
    let element := elementOf delimiters entry
    match element.kind with
    | .comment => []
    | .text | .expression =>
      let text := Element.trimmed afterTag beforeTag element.text
      if text = "" then [] else [{ element with text }]
    | .tag _ name => if isLiteral name then [] else [element]
  | literal opening inside _ =>
    let text := String.ofList (Piece.rewriting delimiters inside)
    if text = "" then [] else [⟨.text, text, opening.1⟩]

/-- Whether a stretch starts with a tag. -/
def startsWithTag (delimiters : Delimiters) : Stretch → Bool
  | single entry => (elementOf delimiters entry).kind.isTag
  | literal _ _ _ => true

/-- Whether a stretch ends with a tag that stays in the output. -/
def endsWithTag (delimiters : Delimiters) (isLiteral : String → Bool) : Stretch → Bool
  | single entry => (elementOf delimiters entry).kind.name?.any fun name => !isLiteral name
  | literal _ _ _ => false

/-- The layout, stretch by stretch. -/
def layout (delimiters : Delimiters) (isLiteral : String → Bool) (afterTag : Bool) :
    List Stretch → List Element
  | [] => []
  | stretch :: rest =>
    stretch.output delimiters isLiteral afterTag (rest.head?.any (startsWithTag delimiters)) ++
      layout delimiters isLiteral (stretch.endsWithTag delimiters isLiteral) rest

/-! ### Nothing is lost -/

theorem slice_append (delimiters : Delimiters) (first second : List (Nat × Piece)) :
    Piece.slice delimiters (first ++ second)
      = Piece.slice delimiters first ++ Piece.slice delimiters second :=
  List.flatMap_append

theorem toList_head?_append_tail {α : Type} (l : List α) : l.head?.toList ++ l.tail = l := by
  cases l <;> rfl

/-- The stretches spell what the pieces spell. -/
theorem flatMap_source_gather (delimiters : Delimiters) (isLiteral : String → Bool)
    (entries : List (Nat × Piece)) :
    (gather delimiters isLiteral entries).flatMap (source delimiters)
      = Piece.slice delimiters entries := by
  fun_induction gather delimiters isLiteral entries with
  | case1 => rfl
  | case2 entry rest _ ih =>
      rw [List.flatMap_cons, ih, source, ← slice_append, List.singleton_append]
  | case3 entry rest name _ ih =>
      rw [List.flatMap_cons, ih, source, ← slice_append, ← slice_append, ← slice_append,
        List.append_assoc, List.append_assoc, toList_head?_append_tail,
        List.takeWhile_append_dropWhile, List.singleton_append]

theorem mem_of_mem_inside {delimiters : Delimiters} {isLiteral : String → Bool}
    {entries : List (Nat × Piece)} {opening : Nat × Piece} {inside : List (Nat × Piece)}
    {ending : Option (Nat × Piece)}
    (h : literal opening inside ending ∈ gather delimiters isLiteral entries) :
    ∀ entry ∈ inside, entry ∈ entries := by
  fun_induction gather delimiters isLiteral entries with
  | case1 => cases h
  | case2 entry rest _ ih =>
      rcases List.mem_cons.1 h with h | h
      · cases h
      · exact fun e he => List.mem_cons_of_mem _ (ih h e he)
  | case3 entry rest name _ ih =>
      rcases List.mem_cons.1 h with h | h
      · obtain ⟨-, rfl, -⟩ := literal.inj h
        exact fun e he => List.mem_cons_of_mem _ ((List.takeWhile_prefix _).subset he)
      · intro e he
        have htail := (List.tail_sublist _).subset (ih h e he)
        exact List.mem_cons_of_mem _ ((List.dropWhile_suffix _).subset htail)

/-! ### The layout goes from stretch to stretch -/

/-- The layout passes an element that opens no literal block. -/
theorem layoutFrom_of_opened?_none {delimiters : Delimiters} {isLiteral : String → Bool}
    {entry : Nat × Piece} (h : opened? isLiteral (elementOf delimiters entry) = none)
    (afterTag : Bool) (elements : List Element) :
    (Element.layoutFrom delimiters isLiteral afterTag
        (elementOf delimiters entry :: elements)).elements
      = (single entry).output delimiters isLiteral afterTag (elements.head?.any (·.kind.isTag))
        ++ (Element.layoutFrom delimiters isLiteral
          ((single entry).endsWithTag delimiters isLiteral) elements).elements := by
  rw [Element.layoutFrom, output, endsWithTag]
  unfold opened? at h
  cases hk : (elementOf delimiters entry).kind with
  | comment => simp [ElementKind.name?]
  | text | expression =>
      by_cases ht : Element.trimmed afterTag (elements.head?.any (·.kind.isTag))
          (elementOf delimiters entry).text = ""
      · simp [ElementKind.name?, ht]
      · simp [ElementKind.name?, ht]
  | tag form name =>
      simp only [hk] at h
      cases hl : isLiteral name with
      | false => simp [ElementKind.name?, hl]
      | true =>
          have hform : form = .single := by simpa [hl] using h
          simp [ElementKind.name?, hl, hform]

/-- The layout writes a literal block out and goes on behind its end tag. -/
theorem layoutFrom_of_opened?_some {delimiters : Delimiters} {isLiteral : String → Bool}
    {element : Element} {name : String} (h : opened? isLiteral element = some name)
    (afterTag : Bool) (elements : List Element) :
    (Element.layoutFrom delimiters isLiteral afterTag (element :: elements)).elements
      = (let text := String.ofList
            ((elements.takeWhile fun e => !Element.isEndOf name e).flatMap
              (Element.written delimiters))
          if text = "" then [] else [⟨.text, text, element.line⟩])
        ++ (Element.layoutFrom delimiters isLiteral false
          (elements.dropWhile fun e => !Element.isEndOf name e).tail).elements := by
  rw [Element.layoutFrom]
  unfold opened? at h
  cases hk : element.kind with
  | comment | text | expression =>
      rw [hk] at h
      cases h
  | tag form name' =>
      simp only [hk] at h
      obtain ⟨⟨hl, hform⟩, rfl⟩ : (isLiteral name' = true ∧ form ≠ .single) ∧ name' = name := by
        simpa using h
      simp only [hl, hform, Bool.not_true, Bool.false_eq_true, if_false]
      split
      · rename_i hd
        rw [hd, List.tail_nil, Element.layoutFrom, List.append_nil]
      · rename_i hd
        rw [hd, List.tail_cons]

theorem startsWithTag_gather (delimiters : Delimiters) (isLiteral : String → Bool)
    (entries : List (Nat × Piece)) :
    (gather delimiters isLiteral entries).head?.any (startsWithTag delimiters)
      = (entries.map (elementOf delimiters)).head?.any (·.kind.isTag) := by
  cases entries with
  | nil => rw [gather]; rfl
  | cons entry rest =>
      rw [gather]
      cases h : opened? isLiteral (elementOf delimiters entry) with
      | none => rfl
      | some name =>
          unfold opened? at h
          cases hk : (elementOf delimiters entry).kind with
          | comment | text | expression =>
              rw [hk] at h
              cases h
          | tag form name' => simp [startsWithTag, hk, ElementKind.isTag]

/-- **The layout of elements is the layout of their stretches.** -/
theorem elements_layoutFrom (delimiters : Delimiters) (isLiteral : String → Bool) (afterTag : Bool)
    (entries : List (Nat × Piece)) :
    (Element.layoutFrom delimiters isLiteral afterTag (entries.map (elementOf delimiters))).elements
      = layout delimiters isLiteral afterTag (gather delimiters isLiteral entries) := by
  fun_induction gather delimiters isLiteral entries generalizing afterTag with
  | case1 => rw [List.map_nil, Element.layoutFrom, layout]
  | case2 entry rest h ih =>
      rw [List.map_cons, layoutFrom_of_opened?_none h, layout, ih, startsWithTag_gather]
  | case3 entry rest name h ih =>
      rw [List.map_cons, layoutFrom_of_opened?_some h, layout, List.takeWhile_map,
        List.dropWhile_map, ← List.map_tail]
      have hwritten : ((rest.takeWhile (staysInside delimiters name)).map
            (elementOf delimiters)).flatMap (Element.written delimiters)
          = Piece.rewriting delimiters (rest.takeWhile (staysInside delimiters name)) :=
        List.flatMap_map _ _ _
      have hline : (elementOf delimiters entry).line = entry.1 := Piece.line_element _ _ _
      rw [output, endsWithTag, ← ih, ← hwritten, ← hline]
      rfl

end Stretch

/-! ## Literal blocks -/

/-- **When literal blocks are verbatim.** The stretches of a source spell it, and the layout of a
scan makes one text, or nothing, of each literal block. The characters of that text are those that
stand in the source between the opening tag and the end tag exactly if every piece between them is
restorable. -/
theorem Element.literal_block_verbatim_iff (delimiters : Delimiters) (isLiteral : String → Bool)
    (source : String) :
    (Stretch.ofSource delimiters isLiteral source).flatMap (Stretch.source delimiters)
        = source.toList ∧
      (Element.layout delimiters isLiteral
          (Element.scan (some delimiters) source).elements).elements
        = Stretch.layout delimiters isLiteral false (Stretch.ofSource delimiters isLiteral source) ∧
      ∀ opening inside ending,
        Stretch.literal opening inside ending ∈ Stretch.ofSource delimiters isLiteral source →
          (Piece.rewriting delimiters inside = Piece.slice delimiters inside ↔
            ∀ entry ∈ inside, entry.2.Restorable delimiters) := by
  refine ⟨?_, ?_, ?_⟩
  · rw [Stretch.ofSource, Stretch.flatMap_source_gather]
    have h := Piece.flatMap_source_numbered delimiters 1 (Piece.cut delimiters source.toList)
    rw [Piece.slice, h, Piece.flatMap_source_cut]
  · rw [Stretch.ofSource, ← Stretch.elements_layoutFrom]
    rfl
  · intro opening inside ending hmem
    refine Piece.rewriting_eq_slice_iff fun entry hentry raw hraw => ?_
    have hpiece := Piece.snd_mem_of_mem_numbered (Stretch.mem_of_mem_inside hmem entry hentry)
    exact Piece.getLast?_ne_of_mem_cut (hraw ▸ hpiece)

/-- **Literal blocks are not always verbatim**: the expression `$x` with a slash behind it comes
back without. -/
theorem Element.literal_block_not_verbatim :
    ¬ ∀ (delimiters : Delimiters) (isLiteral : String → Bool) (source : String)
        (opening : Nat × Piece) (inside : List (Nat × Piece)) (ending : Option (Nat × Piece)),
      Stretch.literal opening inside ending ∈ Stretch.ofSource delimiters isLiteral source →
        Piece.rewriting delimiters inside = Piece.slice delimiters inside := by
  intro h
  have hraw : Piece.cut .standard "\x7braw\x7d\x7b$x/\x7d\x7b/raw\x7d".toList
      = .block ['r', 'a', 'w'] :: Piece.cut .standard "\x7b$x/\x7d\x7b/raw\x7d".toList :=
    Piece.cut_append (Text.firstAt_nil _ "raw\x7d\x7b$x/\x7d\x7b/raw\x7d".toList) rfl
  have hexpression : Piece.cut .standard "\x7b$x/\x7d\x7b/raw\x7d".toList
      = .block ['$', 'x', '/'] :: Piece.cut .standard "\x7b/raw\x7d".toList :=
    Piece.cut_append (Text.firstAt_nil _ "$x/\x7d\x7b/raw\x7d".toList) rfl
  have hending : Piece.cut .standard "\x7b/raw\x7d".toList
      = .block ['/', 'r', 'a', 'w'] :: Piece.cut .standard [] :=
    Piece.cut_append (Text.firstAt_nil _ "/raw\x7d".toList) rfl
  have hend : Piece.cut .standard [] = [] := Piece.cut_of_not_infix (by decide)
  have hmem : Stretch.ofSource .standard (· == "raw") "\x7braw\x7d\x7b$x/\x7d\x7b/raw\x7d"
      = [.literal (1, .block ['r', 'a', 'w']) [(1, .block ['$', 'x', '/'])]
          (some (1, .block ['/', 'r', 'a', 'w']))] := by
    have hopened : Stretch.opened? (· == "raw")
        (Stretch.elementOf .standard (1, .block ['r', 'a', 'w'])) = some "raw" := by decide
    rw [Stretch.ofSource, hraw, hexpression, hending, hend]
    show Stretch.gather .standard (· == "raw") ((1, .block ['r', 'a', 'w']) ::
      [(1, .block ['$', 'x', '/']), (1, .block ['/', 'r', 'a', 'w'])]) = _
    rw [Stretch.gather, hopened]
    show Stretch.literal _ _ _ :: Stretch.gather .standard (· == "raw") [] = _
    rw [Stretch.gather]
    rfl
  have hlength := congrArg List.length
    (h _ _ _ _ _ _ (by rw [hmem]; exact List.mem_singleton_self _))
  exact absurd hlength (by decide)

end TextTemplate
