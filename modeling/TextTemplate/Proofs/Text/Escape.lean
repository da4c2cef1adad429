import TextTemplate.Proofs.Text.Search

set_option autoImplicit false

/-! # Escaping a mark

A mark is escaped by a backslash in front of it. `unescape` removes these backslashes and `escape`
puts one in front of every mark. In one order they are inverse to each other only up to overlaps:
`escape mark (unescape mark raw)` can differ from `raw`, for a mark such as `aa` that overlaps
itself, or for a mark that was not escaped in `raw`.

If it differs, it does so in a place that no continuation can make up for. That is what
`escape_unescape_eq_of_append` and its variant for a text that loses its last character say: as soon
as *some* continuations of the two texts agree, the texts themselves do. -/

namespace TextTemplate.Text

/-- Removes the backslash in front of every escaped `mark`. -/
def unescape (mark text : List Char) : List Char := replaceAll ('\\' :: mark) mark text

/-- Puts a backslash in front of every `mark`. -/
def escape (mark text : List Char) : List Char := replaceAll mark ('\\' :: mark) text

variable {mark : List Char}

/-! ## Steps -/

@[simp] theorem unescape_nil (mark : List Char) : unescape mark [] = [] := replaceAll_nil _ _

@[simp] theorem escape_nil (mark : List Char) : escape mark [] = [] := replaceAll_nil _ _

theorem unescape_append (rest : List Char) :
    unescape mark ('\\' :: mark ++ rest) = mark ++ unescape mark rest :=
  replaceAll_append (List.cons_ne_nil _ _) _ _

theorem unescape_cons {c : Char} {rest : List Char} (h : ¬ '\\' :: mark <+: c :: rest) :
    unescape mark (c :: rest) = c :: unescape mark rest :=
  replaceAll_cons _ h

theorem escape_append (hne : mark ≠ []) (rest : List Char) :
    escape mark (mark ++ rest) = '\\' :: mark ++ escape mark rest :=
  replaceAll_append hne _ _

theorem escape_cons {c : Char} {rest : List Char} (h : ¬ mark <+: c :: rest) :
    escape mark (c :: rest) = c :: escape mark rest :=
  replaceAll_cons _ h

/-- Induction along the escaped marks of a text. -/
theorem unescapeInduction (mark : List Char) {motive : List Char → Prop} (nil : motive [])
    (found : ∀ rest, motive rest → motive ('\\' :: mark ++ rest))
    (passed : ∀ c rest, ¬ '\\' :: mark <+: c :: rest → motive rest → motive (c :: rest))
    (text : List Char) : motive text :=
  replaceInduction (List.cons_ne_nil _ _) nil found passed text

/-! ## Sizes and counts -/

theorem length_unescape_le (mark text : List Char) :
    (unescape mark text).length ≤ text.length := by
  induction text using unescapeInduction mark with
  | nil => simp
  | found rest ih =>
      rw [unescape_append]
      simp only [List.length_append, List.length_cons]
      omega
  | passed c rest hp ih =>
      rw [unescape_cons hp]
      simp only [List.length_cons]
      omega

theorem unescape_ne_nil (hne : mark ≠ []) {text : List Char} (h : text ≠ []) :
    unescape mark text ≠ [] := by
  induction text using unescapeInduction mark with
  | nil => exact absurd rfl h
  | found rest ih =>
      rw [unescape_append]
      exact List.append_ne_nil_of_left_ne_nil hne _
  | passed c rest hp ih =>
      rw [unescape_cons hp]
      exact List.cons_ne_nil _ _

/-- A text that is not longer than the mark has no escaped mark in it. -/
theorem unescape_of_length_le {text : List Char} (h : text.length ≤ mark.length) :
    unescape mark text = text :=
  replaceAll_of_length_lt _ (Nat.lt_succ_of_le h)

/-- Only backslashes come and go. -/
theorem count_unescape (mark text : List Char) {c : Char} (hc : c ≠ '\\') :
    (unescape mark text).count c = text.count c :=
  count_replaceAll (List.cons_ne_nil _ _) (by rw [List.count_cons_of_ne hc.symm]) text

theorem count_escape (hne : mark ≠ []) (text : List Char) {c : Char} (hc : c ≠ '\\') :
    (escape mark text).count c = text.count c :=
  count_replaceAll hne (by rw [List.count_cons_of_ne hc.symm]) text

/-! ## No continuation makes up for a difference -/

/-- A row that is its own continuation consists of one character. -/
theorem eq_of_append_eq_cons {text : List Char} {c d : Char} (h : text ++ [d] = c :: text) :
    d = c ∧ ∀ e ∈ text, e = c := by
  induction text with
  | nil =>
      obtain ⟨rfl, -⟩ := List.cons.inj h
      exact ⟨rfl, fun e he => absurd he List.not_mem_nil⟩
  | cons e text ih =>
      obtain ⟨rfl, htail⟩ := List.cons.inj h
      obtain ⟨hd, hall⟩ := ih htail
      refine ⟨hd, fun f hf => ?_⟩
      rcases List.mem_cons.1 hf with rfl | hf
      · rfl
      · exact hall f hf

/-- Where `escape` puts a backslash that is not in the source, the rest of the source is shorter
than the mark. -/
theorem exists_mark_eq_append {c : Char} {rest y z : List Char} (hp : ¬ '\\' :: mark <+: c :: rest)
    (h : '\\' :: mark ++ z = c :: rest ++ y) :
    c = '\\' ∧ ∃ d t, mark = rest ++ d :: t ∧ y = d :: t ++ z := by
  obtain ⟨rfl, htail⟩ := List.cons.inj h
  have hm : ¬ mark <+: rest := fun hm => hp ((List.prefix_cons_inj _).2 hm)
  refine ⟨rfl, ?_⟩
  rcases List.append_eq_append_iff.1 htail with ⟨t, rfl, -⟩ | ⟨t, rfl, rfl⟩
  · exact absurd (List.prefix_append mark t) hm
  · cases t with
    | nil => exact absurd (by simp) hm
    | cons d t => exact ⟨d, t, rfl, rfl⟩

/-- **Escaping again what was unescaped gives the source or something that no continuation turns
into it.** The exception would be a backslash at the end that starts a mark made of backslashes. -/
theorem escape_unescape_eq_of_append (hne : mark ≠ []) {raw x y : List Char}
    (h : escape mark (unescape mark raw) ++ x = raw ++ y)
    (hplain : raw.getLast? ≠ some '\\' ∨ y.head? ≠ some '\\') :
    escape mark (unescape mark raw) = raw := by
  induction raw using unescapeInduction mark with
  | nil => simp
  | found rest ih =>
      rw [unescape_append, escape_append hne] at h ⊢
      rw [ih (by simpa using h)]
      refine hplain.imp_left fun hlast hrest => hlast ?_
      rw [List.getLast?_append, hrest]
      rfl
  | passed c rest hp ih =>
      rw [unescape_cons hp] at h ⊢
      by_cases hq : mark <+: c :: unescape mark rest
      · -- here a backslash is put where the source goes on with the mark itself
        exfalso
        obtain ⟨v, hv⟩ := hq
        rw [← hv, escape_append hne, List.append_assoc] at h
        obtain ⟨rfl, d, t, hmark, hy⟩ := exists_mark_eq_append hp h
        have hlen := length_unescape_le mark rest
        have hlv := congrArg List.length hv
        have hlm := congrArg List.length hmark
        simp only [List.length_append, List.length_cons] at hlv hlm
        obtain rfl : t = [] := List.length_eq_zero_iff.1 (by omega)
        obtain rfl : v = [] := List.length_eq_zero_iff.1 (by omega)
        rw [unescape_of_length_le (by omega), List.append_nil, hmark] at hv
        obtain ⟨rfl, -⟩ := eq_of_append_eq_cons hv
        rcases hplain with hlast | hhead
        · apply hlast
          rw [← hv, List.getLast?_append]
          rfl
        · apply hhead
          rw [hy]
          rfl
      · rw [escape_cons hq] at h ⊢
        rw [ih (List.cons.inj h).2]
        refine hplain.imp_left fun hlast hrest => hlast ?_
        rw [List.getLast?_cons, hrest]
        rfl

/-- The last character of an unescaped text belongs to what its non-empty rest becomes. -/
theorem exists_unescape_eq_append (hne : mark ≠ []) {rest pre b : List Char} {s : Char}
    (hrest : rest ≠ []) (hb : pre ++ unescape mark rest = b ++ [s]) :
    ∃ b', unescape mark rest = b' ++ [s] ∧ b = pre ++ b' := by
  rcases List.eq_nil_or_concat (unescape mark rest) with hnil | ⟨b', s', hconcat⟩
  · exact absurd hnil (unescape_ne_nil hne hrest)
  · rw [List.concat_eq_append] at hconcat
    rw [hconcat, ← List.append_assoc] at hb
    obtain ⟨hpre, hs⟩ := List.append_inj' hb rfl
    obtain rfl : s' = s := by simpa using hs
    exact ⟨b', hconcat, hpre.symm⟩

/-- **Escaping again what was unescaped**, for a text that loses its last character `s` in between
and gets it back behind. -/
theorem escape_append_eq_of_append (hne : mark ≠ []) {raw b x y : List Char} {s : Char}
    (hs : s ≠ '\\') (hb : unescape mark raw = b ++ [s])
    (h : escape mark b ++ s :: x = raw ++ y) : escape mark b ++ [s] = raw := by
  induction raw using unescapeInduction mark generalizing b with
  | nil => simp at hb
  | found rest ih =>
      rw [unescape_append] at hb
      by_cases hrest : rest = []
      · -- the mark itself loses its last character, and nothing is left to be escaped
        exfalso
        rw [hrest, unescape_nil, List.append_nil] at hb
        have hshort : escape mark b = b :=
          replaceAll_of_length_lt _ (by rw [hb]; simp)
        rw [hshort] at h
        have hpre : mark <+: '\\' :: mark ++ y := ⟨x, by simpa [hb, hrest] using h⟩
        obtain ⟨t, ht⟩ := List.prefix_of_prefix_length_le hpre
          (List.prefix_append ('\\' :: mark) y) (Nat.le_succ _)
        have hlen := congrArg List.length ht
        obtain ⟨d, rfl⟩ : ∃ d, t = [d] := List.length_eq_one_iff.1 (by
          simp only [List.length_append, List.length_cons] at hlen
          omega)
        have hall := (eq_of_append_eq_cons ht).2
        exact hs (hall s (by rw [hb]; simp))
      · obtain ⟨b', hb', rfl⟩ := exists_unescape_eq_append hne hrest hb
        rw [escape_append hne] at h ⊢
        rw [List.append_assoc, ih hb' (by simpa using h)]
  | passed c rest hp ih =>
      rw [unescape_cons hp] at hb
      by_cases hrest : rest = []
      · rw [hrest, unescape_nil] at hb
        obtain ⟨rfl, rfl⟩ : b = [] ∧ s = c := by
          cases b with
          | nil => simpa [eq_comm] using hb
          | cons d b => simp at hb
        simp [hrest]
      · have hb1 : [c] ++ unescape mark rest = b ++ [s] := hb
        obtain ⟨b', hb', rfl⟩ := exists_unescape_eq_append hne hrest hb1
        rw [List.singleton_append] at h ⊢
        by_cases hq : mark <+: c :: b'
        · -- a mark that comes up only by unescaping would need more characters than there are
          exfalso
          obtain ⟨v, hv⟩ := hq
          rw [← hv, escape_append hne, List.append_assoc] at h
          obtain ⟨-, d, t, hmark, -⟩ := exists_mark_eq_append hp h
          have hlen := length_unescape_le mark rest
          have hlb := congrArg List.length hb'
          have hlv := congrArg List.length hv
          have hlm := congrArg List.length hmark
          simp only [List.length_append, List.length_cons, List.length_nil] at hlb hlv hlm
          omega
        · rw [escape_cons hq] at h ⊢
          rw [List.cons_append, ih hb' (List.cons.inj h).2]

end TextTemplate.Text
