import Mathlib.Data.List.Infix
import TextTemplate.Text.Search

set_option autoImplicit false

/-! # What a search finds

The functions of `TextTemplate.Text.Search` are recursions on characters. Here they are described by
what they find: `splitFirst?` cuts at the first occurrence of its needle (`splitFirst?_eq_some_iff`)
and gives up only if there is none (`splitFirst?_eq_none_iff`), and `replaceAll` takes one of three
steps, depending on whether the needle stands at the start of the text. -/

namespace TextTemplate.Text

/-! ## Prefixes -/

theorem behind?_eq_some_iff {needle text rest : List Char} :
    behind? needle text = some rest ↔ text = needle ++ rest := by
  constructor
  · exact eq_append_of_behind?
  · rintro rfl
    induction needle with
    | nil => rfl
    | cons c needle ih => simpa [behind?] using ih

theorem behind?_eq_none_iff {needle text : List Char} :
    behind? needle text = none ↔ ¬ needle <+: text := by
  constructor
  · rintro h ⟨rest, rfl⟩
    rw [behind?_eq_some_iff.2 rfl] at h
    cases h
  · intro h
    cases hb : behind? needle text with
    | none => rfl
    | some rest => exact absurd ⟨rest, (behind?_eq_some_iff.1 hb).symm⟩ h

/-! ## First occurrences -/

/-- In `before ++ needle ++ behind` the needle behind `before` is its **first occurrence**: nowhere
does one start earlier. -/
def FirstAt (needle before behind : List Char) : Prop :=
  ∀ a b, before ++ (needle ++ behind) = a ++ (needle ++ b) → before.length ≤ a.length

theorem firstAt_nil (needle behind : List Char) : FirstAt needle [] behind :=
  fun _ _ _ => Nat.zero_le _

/-- A first occurrence stays the first one behind a character that starts none. -/
theorem firstAt_cons {needle before behind : List Char} {c : Char} :
    FirstAt needle (c :: before) behind ↔
      ¬ needle <+: c :: (before ++ (needle ++ behind)) ∧ FirstAt needle before behind := by
  constructor
  · intro h
    refine ⟨?_, fun a b hab => ?_⟩
    · rintro ⟨b, hb⟩
      have := h [] b (by simpa using hb.symm)
      simp at this
    · have := h (c :: a) b (by simp [hab])
      simpa using this
  · rintro ⟨hp, h⟩ a b hab
    cases a with
    | nil => exact absurd ⟨b, by simpa using hab.symm⟩ hp
    | cons d a =>
        have hab' := (List.cons.inj hab).2
        have := h a b hab'
        simp only [List.length_cons]
        omega

/-- **A cut is made at the first occurrence of the needle.** -/
theorem splitFirst?_eq_some_iff {needle text before behind : List Char} :
    splitFirst? needle text = some (before, behind) ↔
      text = before ++ (needle ++ behind) ∧ FirstAt needle before behind := by
  induction text generalizing before with
  | nil =>
      rw [splitFirst?]
      split
      · rename_i hn
        subst hn
        constructor
        · intro h
          obtain ⟨rfl, rfl⟩ := Prod.mk.inj (Option.some.inj h)
          exact ⟨rfl, firstAt_nil _ _⟩
        · rintro ⟨h, -⟩
          obtain ⟨rfl, rfl⟩ : before = [] ∧ behind = [] := by simpa using h
          rfl
      · rename_i hn
        constructor
        · intro h
          cases h
        · rintro ⟨h, -⟩
          exact absurd (by simpa using h : before = [] ∧ needle = [] ∧ behind = []).2.1 hn
  | cons c rest ih =>
      rw [splitFirst?]
      split
      · -- the needle stands at the start, so nothing is in front of its first occurrence
        rename_i behind' hb
        have ht := behind?_eq_some_iff.1 hb
        constructor
        · intro h
          obtain ⟨rfl, rfl⟩ := Prod.mk.inj (Option.some.inj h)
          exact ⟨by simpa using ht, firstAt_nil _ _⟩
        · rintro ⟨h, hf⟩
          cases before with
          | nil =>
              have : behind' = behind := by simpa [ht] using h
              rw [this]
          | cons d before =>
              have := hf [] behind' (by rw [← h, ht]; rfl)
              simp at this
      · -- the character is passed, and the first occurrence is that in the rest
        rename_i hb
        have hp := behind?_eq_none_iff.1 hb
        constructor
        · intro h
          obtain ⟨⟨before', behind'⟩, hs, he⟩ := Option.map_eq_some_iff.1 h
          obtain ⟨rfl, rfl⟩ := Prod.mk.inj he
          obtain ⟨rfl, hf⟩ := ih.1 hs
          exact ⟨rfl, firstAt_cons.2 ⟨hp, hf⟩⟩
        · rintro ⟨h, hf⟩
          cases before with
          | nil => exact absurd ⟨behind, by simpa using h.symm⟩ hp
          | cons d before =>
              obtain ⟨rfl, hr⟩ := List.cons.inj h
              rw [ih.2 ⟨hr, (firstAt_cons.1 hf).2⟩]
              rfl

/-- A search gives up only if the needle does not occur. -/
theorem splitFirst?_eq_none_iff {needle text : List Char} :
    splitFirst? needle text = none ↔ ¬ needle <:+: text := by
  induction text with
  | nil =>
      rw [splitFirst?]
      split
      · rename_i hn
        simp [hn]
      · rename_i hn
        simpa using hn
  | cons c rest ih =>
      rw [splitFirst?, List.infix_cons_iff, not_or]
      split
      · rename_i behind hb
        have ht := behind?_eq_some_iff.1 hb
        simp [ht]
      · rename_i hb
        rw [Option.map_eq_none_iff, ih]
        exact ⟨fun h => ⟨behind?_eq_none_iff.1 hb, h⟩, fun h => h.2⟩

/-- An occurrence is the first one if no other lies within what stands before its last character. -/
theorem firstAt_of_not_infix {needle before : List Char} (hne : needle ≠ [])
    (h : ¬ needle <:+: before ++ needle.dropLast) (behind : List Char) :
    FirstAt needle before behind := by
  intro a b hab
  by_contra hlt
  have hlen : (a ++ needle).length ≤ (before ++ needle.dropLast).length := by
    have := List.length_pos_iff.2 hne
    simp only [List.length_append, List.length_dropLast]
    omega
  -- both are starts of one text, so the occurrence further left lies within the longer one
  have hp : a ++ needle <+: before ++ (needle ++ behind) := ⟨b, by rw [hab, List.append_assoc]⟩
  have hq : before ++ needle.dropLast <+: before ++ (needle ++ behind) :=
    (List.prefix_append_right_inj before).2
      (needle.dropLast_prefix.trans (List.prefix_append needle behind))
  obtain ⟨t, ht⟩ := List.prefix_of_prefix_length_le hp hq hlen
  exact h ⟨a, t, ht⟩

theorem firstAt_singleton {mark : Char} {before : List Char} (h : mark ∉ before)
    (behind : List Char) : FirstAt [mark] before behind :=
  firstAt_of_not_infix (List.cons_ne_nil _ _)
    (by simpa [List.singleton_infix_iff] using h) behind

/-- A text that does not contain the mark has no part behind it. -/
theorem splitLast?_eq_none {mark : Char} {text : List Char} (h : mark ∉ text) :
    splitLast? mark text = none := by
  induction text with
  | nil => rfl
  | cons c rest ih =>
      rw [List.mem_cons, not_or] at h
      rw [splitLast?, ih h.2]
      exact if_neg (Ne.symm h.1)

/-- A text is cut at a mark if there is none behind it. -/
theorem splitLast?_append {mark : Char} {behind : List Char} (h : mark ∉ behind)
    (before : List Char) : splitLast? mark (before ++ mark :: behind) = some (before, behind) := by
  induction before with
  | nil => rw [List.nil_append, splitLast?, splitLast?_eq_none h, if_pos rfl]
  | cons c before ih => rw [List.cons_append, splitLast?, ih]

/-! ## Replacing -/

theorem replaceFrom_eq_drop (needle new : List Char) (skip : Nat) (text : List Char) :
    replaceFrom needle new skip text = replaceFrom needle new 0 (text.drop skip) := by
  induction skip generalizing text with
  | zero => rfl
  | succ skip ih =>
      cases text with
      | nil => simp [replaceFrom]
      | cons c rest => rw [replaceFrom, ih, List.drop_succ_cons]

@[simp] theorem replaceAll_nil (needle new : List Char) : replaceAll needle new [] = [] := by
  rw [replaceAll, replaceFrom]

/-- An occurrence at the start is replaced, and the search goes on behind it. -/
theorem replaceAll_append {needle : List Char} (hne : needle ≠ []) (new rest : List Char) :
    replaceAll needle new (needle ++ rest) = new ++ replaceAll needle new rest := by
  cases needle with
  | nil => exact absurd rfl hne
  | cons c tail =>
      have hp : (c :: tail).isPrefixOf (c :: (tail ++ rest)) = true :=
        List.isPrefixOf_iff_prefix.2 ⟨rest, rfl⟩
      rw [List.cons_append, replaceAll, replaceFrom, if_pos hp, replaceFrom_eq_drop]
      simp [replaceAll]

/-- A character that starts no occurrence stays. -/
theorem replaceAll_cons {needle : List Char} (new : List Char) {c : Char} {rest : List Char}
    (h : ¬ needle <+: c :: rest) :
    replaceAll needle new (c :: rest) = c :: replaceAll needle new rest := by
  have hp : ¬ needle.isPrefixOf (c :: rest) = true := fun hp => h (List.isPrefixOf_iff_prefix.1 hp)
  rw [replaceAll, replaceFrom, if_neg hp, replaceAll]

/-- Induction along a replacement: the needle stands at the start of the text, or the first
character is passed. -/
theorem replaceInduction {needle : List Char} (hne : needle ≠ []) {motive : List Char → Prop}
    (nil : motive []) (found : ∀ rest, motive rest → motive (needle ++ rest))
    (passed : ∀ c rest, ¬ needle <+: c :: rest → motive rest → motive (c :: rest))
    (text : List Char) : motive text := by
  by_cases hp : needle <+: text
  · obtain ⟨rest, rfl⟩ := hp
    exact found rest (replaceInduction hne nil found passed rest)
  · cases text with
    | nil => exact nil
    | cons c rest => exact passed c rest hp (replaceInduction hne nil found passed rest)
termination_by text.length
decreasing_by
  · subst text
    have := List.length_pos_iff.2 hne
    simp only [List.length_append]
    omega
  · subst text
    exact Nat.lt_succ_self _

/-- A text that is shorter than the needle stays as it is. -/
theorem replaceAll_of_length_lt {needle : List Char} (new : List Char) {text : List Char}
    (h : text.length < needle.length) : replaceAll needle new text = text := by
  induction text with
  | nil => rw [replaceAll_nil]
  | cons c rest ih =>
      have hp : ¬ needle <+: c :: rest := fun hp => absurd hp.length_le (Nat.not_le_of_lt h)
      rw [replaceAll_cons new hp, ih (Nat.lt_trans (Nat.lt_succ_self _) h)]

/-- A replacement by something with as many `c` keeps the number of `c`. -/
theorem count_replaceAll {needle new : List Char} (hne : needle ≠ []) {c : Char}
    (h : new.count c = needle.count c) (text : List Char) :
    (replaceAll needle new text).count c = text.count c := by
  induction text using replaceInduction hne with
  | nil => simp
  | found rest ih => rw [replaceAll_append hne, List.count_append, List.count_append, ih, h]
  | passed d rest hp ih => rw [replaceAll_cons new hp, List.count_cons, List.count_cons, ih]

/-! ## Ends of a text -/

theorem dropLeading_eq_self {mark : Char} {text : List Char} (h : text.head? ≠ some mark) :
    dropLeading mark text = text := by
  cases text with
  | nil => rfl
  | cons c rest =>
      have hc : c ≠ mark := fun heq => h (congrArg some heq)
      rw [dropLeading, if_neg hc]

theorem dropTrailing_eq_self {mark : Char} {text : List Char} (h : text.getLast? ≠ some mark) :
    dropTrailing mark text = text := by
  rw [dropTrailing, beforeTrailing?, if_neg h]
  rfl

end TextTemplate.Text
