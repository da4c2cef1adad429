import TextTemplate.Proofs.Expression.Numeral
import TextTemplate.Value.Path

set_option autoImplicit false

/-! # Steps into arrays, and paths

An array takes a text for a position if it is a row of digits, whatever its length and however many zeros it starts
with (`DenotesPosition`). The position is the value of the row as `Proofs/Expression/Numeral.lean` has it, with no
machine word in it. The array reads positions into machine words, and what matters is that a row which is too long
for that is given up and does not come back as a small number. An integer stands for its text, so it goes the same
way, and is no position if it starts with a minus sign.

A path fails at its first key that does not lead on (`FailsAt`). Of two paths in a row, the second one starts where
the first one leads, so its places are counted from the end of the first one.

Main statement: `array_steps_exact`. -/

namespace TextTemplate

open TextTemplate.Written (Digits)

/-! ## Positions -/

/-- **The position that a key denotes**: the key is a row of digits, and the position is its value. -/
def DenotesPosition (key : String) (position : Nat) : Prop :=
  ∃ digits : Digits, digits.text = key.toList ∧ Number.rowValue digits.text = position

/-- Positions are read as far as they fit in a machine word. -/
theorem indexOfKey?_eq_some_iff {key : String} {position : Nat} :
    indexOfKey? key = some position ↔ DenotesPosition key position ∧ position < UInt64.size := by
  unfold indexOfKey?
  dsimp only
  split
  · next h =>
    refine iff_of_false nofun ?_
    rintro ⟨⟨digits, htext, -⟩, -⟩
    have hall := List.all_eq_true.2 digits.isDigit
    simp [← htext, digits.ne_nil, hall] at h
  · next h =>
    obtain ⟨hne, hall⟩ : key.toList ≠ [] ∧ ∀ c ∈ key.toList, Text.isDigit c = true := by
      simpa using h
    rw [Number.valueOfDigits_eq_rowValue]
    constructor
    · intro hsome
      split at hsome
      · next hfits =>
        cases hsome
        exact ⟨⟨⟨key.toList, hne, hall⟩, rfl, rfl⟩, hfits⟩
      · cases hsome
    · rintro ⟨⟨digits, htext, rfl⟩, hfits⟩
      rw [← htext, if_pos hfits]

/-- The text of an integer denotes the integer, unless that is negative. -/
theorem denotesPosition_toString_iff {n : Int} {position : Nat} :
    DenotesPosition (toString n) position ↔ n = position := by
  rw [DenotesPosition, Number.toList_toString, Number.Numeral.text, Number.numeralOf]
  constructor
  · rintro ⟨digits, htext, rfl⟩
    by_cases hsign : n < 0
    · -- a minus sign is no digit
      have hminus : '-' ∈ digits.text := by
        rw [htext, decide_eq_true hsign]
        exact List.mem_cons_self
      exact absurd (digits.isDigit _ hminus) (by decide)
    · rw [decide_eq_false hsign] at htext
      have hvalue : Number.rowValue digits.text = n.natAbs :=
        (congrArg Number.rowValue htext).trans (Number.rowValue_toDigits n.natAbs)
      omega
  · rintro rfl
    have hsign : ¬ (position : Int) < 0 := Int.not_lt.2 (Int.natCast_nonneg position)
    refine ⟨Number.digitsOf position, ?_, Number.rowValue_toDigits position⟩
    rw [decide_eq_false hsign]
    rfl

namespace Value

section

variable {items : List Value} {key : Value} {name : String}

/-- **A key is an index into an array.** If it denotes a position of the array, it leads to the item there; if not,
it is reported by its name. -/
structure Indexes (items : List Value) (key : Value) (name : String) (Denotes : Nat → Prop) : Prop where
  step_eq_ok_iff : ∀ item, (array items).step key = .ok item ↔
    ∃ position, Denotes position ∧ items[position]? = some item
  step_eq_error_iff : ∀ problem, (array items).step key = .error problem ↔
    (¬ ∃ position, Denotes position ∧ position < items.length) ∧ problem = .noSuchArrayAttribute name

/-- The item of an array in the position that the name of a key denotes. -/
def itemAt? (items : List Value) (name : String) : Option Value :=
  (indexOfKey? name).bind fun position => items[position]?

theorem itemAt?_eq_some_iff {item : Value} :
    itemAt? items name = some item ↔
      ∃ position, (DenotesPosition name position ∧ position < UInt64.size) ∧ items[position]? = some item := by
  rw [itemAt?, Option.bind_eq_some_iff]
  simp only [indexOfKey?_eq_some_iff]

theorem step_array (items : List Value) (hkey : key.keyText = .ok name) :
    (array items).step key = (itemAt? items name).elim (.error (.noSuchArrayAttribute name)) .ok := by
  have hentry : (array items).step key = (array items).entry name := by
    rw [step, hkey]
    rfl
  rw [hentry, entry]
  unfold itemAt?
  cases (indexOfKey? name).bind fun position => items[position]? with
  | none => rfl
  | some item => rfl

/-- A key that has a name leads to the item there. -/
theorem step_array_eq_ok_iff {item : Value} (hkey : key.keyText = .ok name) :
    (array items).step key = .ok item ↔ itemAt? items name = some item := by
  rw [step_array items hkey]
  cases itemAt? items name with
  | none => exact iff_of_false nofun nofun
  | some found => exact ⟨fun h => congrArg some (Except.ok.inj h), fun h => congrArg Except.ok (Option.some.inj h)⟩

/-- The only thing that can go wrong with it is that there is no item. -/
theorem step_array_eq_error_iff {problem : RuntimeProblem} (hkey : key.keyText = .ok name) :
    (array items).step key = .error problem ↔
      itemAt? items name = none ∧ problem = .noSuchArrayAttribute name := by
  rw [step_array items hkey]
  cases itemAt? items name with
  | none => exact ⟨fun h => ⟨rfl, (Except.error.inj h).symm⟩, fun h => congrArg Except.error h.2.symm⟩
  | some found => exact iff_of_false nofun (fun h => nomatch h.1)

/-- So a key is an index if its items are those at the positions that it denotes. -/
theorem indexes_of_keyText {Denotes : Nat → Prop} (hkey : key.keyText = .ok name)
    (hitem : ∀ item, itemAt? items name = some item ↔
      ∃ position, Denotes position ∧ items[position]? = some item) : Indexes items key name Denotes := by
  refine ⟨fun item => (step_array_eq_ok_iff hkey).trans (hitem item),
    fun problem => (step_array_eq_error_iff hkey).trans (and_congr_left fun _ => ?_)⟩
  -- without an item there is no position, and the other way round
  rw [Option.eq_none_iff_forall_ne_some]
  constructor
  · rintro hnone ⟨position, hposition, hplace⟩
    exact hnone _ ((hitem _).2 ⟨position, hposition, List.getElem?_eq_getElem hplace⟩)
  · intro hnone item hsome
    obtain ⟨position, hposition, hplace⟩ := (hitem item).1 hsome
    exact hnone ⟨position, hposition, (List.getElem?_eq_some_iff.1 hplace).1⟩

/-- **A text is an index if it is a row of digits**, and of any length: what is too much for a machine word is behind
the last item. -/
theorem indexes_text (h : items.length ≤ UInt64.size) :
    Indexes items (text name) name (DenotesPosition name) := by
  refine indexes_of_keyText rfl fun item => itemAt?_eq_some_iff.trans ?_
  constructor
  · rintro ⟨position, ⟨hname, -⟩, hitem⟩
    exact ⟨position, hname, hitem⟩
  · rintro ⟨position, hname, hitem⟩
    have hplace := (List.getElem?_eq_some_iff.1 hitem).1
    exact ⟨position, ⟨hname, by omega⟩, hitem⟩

/-- **An integer is an index if it is not negative.** -/
theorem indexes_integer (items : List Value) (n : Int64) :
    Indexes items (integer n) (toString n.toInt) fun position => n.toInt = position := by
  refine indexes_of_keyText rfl fun item => itemAt?_eq_some_iff.trans (exists_congr fun position => ?_)
  rw [denotesPosition_toString_iff]
  refine and_congr_left fun _ => ⟨And.left, fun h => ⟨h, ?_⟩⟩
  have hlt := n.toInt_lt
  rw [UInt64.size]
  omega

end

/-! ## Paths -/

section

variable {value key next : Value} {path path' : List Value} {place : Nat} {problem cause : RuntimeProblem}

/-- **The path fails at a place**: the keys in front of it lead on, and the key there has a problem. -/
inductive FailsAt (problem : RuntimeProblem) : Value → List Value → Nat → Prop
  | first {value key : Value} {path : List Value} :
    value.step key = .error problem → FailsAt problem value (key :: path) 0
  | later {value key next : Value} {path : List Value} {place : Nat} :
    value.step key = .ok next → FailsAt problem next path place →
    FailsAt problem value (key :: path) (place + 1)

theorem failsAt_cons_of_error (h : value.step key = .error cause) :
    FailsAt problem value (key :: path) place ↔ cause = problem ∧ place = 0 := by
  constructor
  · rintro (hfirst | ⟨hnext, -⟩)
    · exact ⟨Except.error.inj (h.symm.trans hfirst), rfl⟩
    · cases h.symm.trans hnext
  · rintro ⟨rfl, rfl⟩
    exact .first h

theorem failsAt_cons_of_ok (h : value.step key = .ok next) :
    FailsAt problem value (key :: path) place ↔
      ∃ place', FailsAt problem next path place' ∧ place = place' + 1 := by
  constructor
  · rintro (hfirst | ⟨hnext, hfails⟩)
    · cases h.symm.trans hfirst
    · cases h.symm.trans hnext
      exact ⟨_, hfails, rfl⟩
  · rintro ⟨place', hfails, rfl⟩
    exact .later h hfails

/-- **The problem with a path is the one of the first key that does not lead on.** -/
theorem resolve_eq_error_iff :
    value.resolve path = .error problem ↔ ∃ place, FailsAt problem value path place := by
  induction path generalizing value with
  | nil => exact iff_of_false nofun nofun
  | cons key path ih =>
      rw [resolve]
      cases hstep : value.step key with
      | error cause =>
          simp only [failsAt_cons_of_error hstep]
          constructor
          · rintro ⟨⟩
            exact ⟨0, rfl, rfl⟩
          · rintro ⟨_, rfl, -⟩
            rfl
      | ok next =>
          simp only [failsAt_cons_of_ok hstep]
          refine ih.trans ⟨?_, ?_⟩
          · rintro ⟨place, hfails⟩
            exact ⟨place + 1, place, hfails, rfl⟩
          · rintro ⟨_, place, hfails, -⟩
            exact ⟨place, hfails⟩

/-- **Two paths in a row**: the second one is followed from where the first one leads. -/
theorem resolve_append (value : Value) (path path' : List Value) :
    value.resolve (path ++ path') = value.resolve path >>= fun reached => reached.resolve path' := by
  induction path generalizing value with
  | nil => rfl
  | cons key path ih =>
      rw [List.cons_append, resolve, resolve]
      cases value.step key with
      | error problem => rfl
      | ok next => exact ih next

/-- They fail where the first one fails, or behind it where the second one does. -/
theorem failsAt_append_iff :
    FailsAt problem value (path ++ path') place ↔
      FailsAt problem value path place ∨ ∃ reached place', value.resolve path = .ok reached ∧
        FailsAt problem reached path' place' ∧ place = path.length + place' := by
  induction path generalizing value place with
  | nil =>
      constructor
      · exact fun h => .inr ⟨value, place, rfl, h, (Nat.zero_add place).symm⟩
      · rintro (⟨⟨⟩⟩ | ⟨_, place', ⟨⟩, h, rfl⟩)
        rwa [List.length_nil, Nat.zero_add]
  | cons key path ih =>
      cases hstep : value.step key with
      | error cause =>
          rw [List.cons_append, failsAt_cons_of_error hstep, failsAt_cons_of_error hstep]
          refine ⟨.inl, ?_⟩
          rintro (h | ⟨reached, place', hreached, -⟩)
          · exact h
          · -- the first path leads nowhere
            rw [resolve, hstep] at hreached
            cases hreached
      | ok next =>
          rw [List.cons_append, failsAt_cons_of_ok hstep, failsAt_cons_of_ok hstep, resolve, hstep]
          simp only [ih, List.length_cons]
          constructor
          · rintro ⟨place, h | ⟨reached, place', hreached, h, rfl⟩, rfl⟩
            · exact .inl ⟨place, h, rfl⟩
            · exact .inr ⟨reached, place', hreached, h, by omega⟩
          · rintro (⟨place, h, rfl⟩ | ⟨reached, place', hreached, h, rfl⟩)
            · exact ⟨place, .inl h, rfl⟩
            · exact ⟨path.length + place', .inr ⟨reached, place', hreached, h, rfl⟩, by omega⟩

end

/-! ## The law of steps and paths -/

/-- **Steps into arrays are exact, and paths compose.** Into an array with no more items than there are machine words,
a text leads if and only if it is a row of digits whose value, of whatever size, is a position of the array; it leads
to the item there, and every other text is reported as it stands. An integer leads to the item at its position, if
there is one. Two paths in a row are the second one from where the first one leads. The problem with a path is the one
of its first key that does not lead on; of two paths in a row that is a key of the first one, or else one of the
second. -/
theorem array_steps_exact :
    (∀ (items : List Value) (name : String), items.length ≤ UInt64.size →
      Indexes items (text name) name (DenotesPosition name)) ∧
    (∀ (items : List Value) (n : Int64),
      Indexes items (integer n) (toString n.toInt) fun position => n.toInt = position) ∧
    (∀ (value : Value) (path path' : List Value),
      value.resolve (path ++ path') = value.resolve path >>= fun reached => reached.resolve path') ∧
    (∀ (problem : RuntimeProblem) (value : Value) (path : List Value),
      value.resolve path = .error problem ↔ ∃ place, FailsAt problem value path place) ∧
    ∀ (problem : RuntimeProblem) (value : Value) (path path' : List Value) (place : Nat),
      FailsAt problem value (path ++ path') place ↔
        FailsAt problem value path place ∨ ∃ reached place', value.resolve path = .ok reached ∧
          FailsAt problem reached path' place' ∧ place = path.length + place' :=
  ⟨fun _ _ => indexes_text, indexes_integer, resolve_append, fun _ _ _ => resolve_eq_error_iff,
    fun _ _ _ _ _ => failsAt_append_iff⟩

/-- Leading zeros do not matter, and two more than a machine word can count are not two. -/
theorem array_steps_exact_long :
    let items : List Value := [text "a", text "b", text "c"]
    items.length ≤ UInt64.size ∧ (array items).step (text "0002") = .ok (text "c") ∧
      (array items).step (text "18446744073709551618") =
        .error (.noSuchArrayAttribute "18446744073709551618") := by
  intro items
  have hlength : items.length ≤ UInt64.size := by decide
  have hvalue : Number.rowValue "18446744073709551618".toList = 18446744073709551618 := by decide
  have htwo : DenotesPosition "0002" 2 :=
    ⟨⟨"0002".toList, by decide, List.all_eq_true.1 (by decide)⟩, rfl, by decide⟩
  refine ⟨hlength, ((array_steps_exact.1 items _ hlength).step_eq_ok_iff _).2 ⟨2, htwo, rfl⟩,
    ((array_steps_exact.1 items _ hlength).step_eq_error_iff _).2 ⟨?_, rfl⟩⟩
  rintro ⟨position, ⟨digits, htext, rfl⟩, hplace⟩
  rw [htext, hvalue] at hplace
  exact absurd hplace (by decide)

end Value

end TextTemplate
