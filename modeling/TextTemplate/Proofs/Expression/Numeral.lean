import Mathlib.Data.Nat.Digits.Defs
import Mathlib.Data.Rat.Cast.Order
import TextTemplate.Proofs.Expression.Lexing
import TextTemplate.Proofs.Expression.Phrase
import TextTemplate.Proofs.Expression.Reading

set_option autoImplicit false

/-! # Numerals and the numbers they denote

A numeral has a value, which has nothing to do with machine words and doubles (`Numeral.value`). A numeral
without a point denotes the integer of that value, if that is one of 64 bits; every other numeral denotes the
nearest double. No other text denotes a number.

The parser does not see texts but lexemes: it takes a minus sign, digits, a point and digits one by one. What it
takes is a numeral, wherever in a body it starts to read, so it always has a number
(`exists_numeral_of_numeral?`). And an integer that is written out is read as the same integer
(`ofText?_text_integer`).

Main statement: `numerals_classified`. -/

namespace TextTemplate.Number

open TextTemplate.Written (Digits)

/-! ## Rows of digits -/

/-- The value of a digit. -/
def digitValue (c : Char) : Nat := c.toNat - '0'.toNat

/-- The value of a row of digits: the last one counts ones, the one in front of it tens, and so on. -/
def rowValue (row : List Char) : Nat := Nat.ofDigits 10 (row.reverse.map digitValue)

/-- Reading a row from the left gives its value. -/
theorem valueOfDigits_eq_rowValue (row : List Char) : Decimal.valueOfDigits row = rowValue row := by
  unfold Decimal.valueOfDigits rowValue
  -- the last digit is the one that is read last and the one that counts ones
  rw [List.foldl_eq_foldr_reverse]
  induction row.reverse with
  | nil => rfl
  | cons c rest ih =>
      rw [List.foldr_cons, ih, List.map_cons, Nat.ofDigits_cons, digitValue]
      omega

/-- The value of the digits that a number is written with is that number. -/
theorem rowValue_toDigits (n : Nat) : rowValue (Nat.toDigits 10 n) = n := by
  calc rowValue (Nat.toDigits 10 n)
      = Decimal.valueOfDigits (Nat.toDigits 10 n) := (valueOfDigits_eq_rowValue _).symm
    _ = Nat.ofDigitChars 10 (Nat.toDigits 10 n) 0 := Nat.ofDigitChars_eq_foldl.symm
    _ = n := Nat.ofDigitChars_ten_toDigits

/-! ## Numerals -/

/-- A numeral without its sign. -/
inductive Figures
  /-- Digits. -/
  | whole (digits : Digits)
  /-- Digits and a point, with digits behind it or without. -/
  | point (digits : Digits) (behind : List Char) (isDigit : ∀ c ∈ behind, Text.isDigit c = true)
  /-- A point and digits. -/
  | bare (digits : Digits)

namespace Figures

def text : Figures → List Char
  | whole digits => digits.text
  | point digits behind _ => digits.text ++ '.' :: behind
  | bare digits => '.' :: digits.text

/-- The digits behind the point. -/
def behind : Figures → List Char
  | whole _ => []
  | point _ behind _ => behind
  | bare digits => digits.text

/-- All digits, as if there were no point. -/
def row : Figures → List Char
  | whole digits | bare digits => digits.text
  | point digits behind _ => digits.text ++ behind

end Figures

/-- **A numeral**: a minus sign or none, and figures. -/
structure Numeral where
  negative : Bool
  figures : Figures

/-- A minus sign or none. -/
def signOf (negative : Bool) : List Char := if negative then ['-'] else []

namespace Numeral

def text (numeral : Numeral) : List Char := signOf numeral.negative ++ numeral.figures.text

/-- The value that the numeral would have without its point. -/
def units (numeral : Numeral) : Int :=
  if numeral.negative then -(rowValue numeral.figures.row : Int) else rowValue numeral.figures.row

/-- **The value of a numeral**: each digit behind the point makes it ten times smaller. -/
def value (numeral : Numeral) : ℚ := numeral.units / 10 ^ numeral.figures.behind.length

/-- The numeral denotes an integer of 64 bits: it has no point, and its value is in range. -/
def IsInt64 (numeral : Numeral) : Prop :=
  '.' ∉ numeral.text ∧ -2 ^ 63 ≤ numeral.value ∧ numeral.value < 2 ^ 63

/-- The double nearest to the value. -/
def nearest (numeral : Numeral) : Float :=
  let magnitude := Decimal.nearest (rowValue numeral.figures.row) (-numeral.figures.behind.length)
  if numeral.negative then -magnitude else magnitude

end Numeral

/-! ## What is a numeral

A numeral is read in two parts: digits as long as there are any, and whatever stands behind them. -/

/-- The number of the digits `front` with `rest` behind them. -/
def ofParts? (negative : Bool) (front rest : List Char) : Option Number :=
  match rest with
  | [] => if front = [] then none else some (whole negative front)
  | '.' :: behind =>
    if behind.all Text.isDigit && !(front ++ behind).isEmpty then
      some (realOf negative (Decimal.valueOfDigits (front ++ behind)) (-behind.length))
    else none
  | _ => none

/-- Behind the sign, a number is read part by part. -/
theorem ofText?_append (negative : Bool) (front rest : List Char)
    (hfront : ∀ c ∈ front, Text.isDigit c = true) (hrest : ∀ c ∈ rest.head?, Text.isDigit c = false)
    (hsign : (front ++ rest).head? ≠ some '-') :
    ofText? (String.ofList (signOf negative ++ (front ++ rest))) = ofParts? negative front rest := by
  have hhead : (signOf negative ++ (front ++ rest)).head? = some '-' ↔ negative = true := by
    cases negative with
    | false => exact iff_of_false hsign nofun
    | true => exact iff_of_true rfl rfl
  have hbody : (if negative = true then (signOf negative ++ (front ++ rest)).drop 1
      else signOf negative ++ (front ++ rest)) = front ++ rest := by
    cases negative with
    | false => rfl
    | true => rfl
  simp only [ofText?, String.toList_ofList, hhead, hbody, takeWhile_row hfront hrest,
    dropWhile_row hfront hrest, Bool.decide_eq_true]
  rfl

/-- The number that a numeral denotes. -/
def Numeral.number (numeral : Numeral) : Number :=
  match numeral.figures with
  | .whole digits => .whole numeral.negative digits.text
  | .point .. | .bare _ => .real numeral.nearest

/-- Digits do not start with a minus sign, whatever stands behind them. -/
theorem head?_digits_ne (digits : Digits) (rest : List Char) :
    (digits.text ++ rest).head? ≠ some '-' := by
  intro h
  rw [List.head?_append_of_ne_nil _ digits.ne_nil] at h
  exact absurd (digits.isDigit '-' (List.mem_of_head? h)) (by decide)

/-- **Every numeral denotes a number.** -/
theorem ofText?_numeral (numeral : Numeral) :
    ofText? (String.ofList numeral.text) = some numeral.number := by
  obtain ⟨negative, figures⟩ := numeral
  cases figures with
  | whole digits =>
      have hread := ofText?_append negative digits.text [] digits.isDigit nofun
        (head?_digits_ne digits [])
      rw [List.append_nil] at hread
      exact hread.trans (if_neg digits.ne_nil)
  | point digits behind isDigit =>
      have hpoint : ∀ c ∈ ('.' :: behind).head?, Text.isDigit c = false := by
        rintro _ ⟨rfl⟩
        rfl
      have hread := ofText?_append negative digits.text _ digits.isDigit hpoint (head?_digits_ne digits _)
      have hall := List.all_eq_true.2 isDigit
      refine hread.trans ((if_pos (by simp [hall, digits.ne_nil])).trans ?_)
      rw [valueOfDigits_eq_rowValue]
      rfl
  | bare digits =>
      have hpoint : ∀ c ∈ ('.' :: digits.text).head?, Text.isDigit c = false := by
        rintro _ ⟨rfl⟩
        rfl
      have hread := ofText?_append negative [] _ nofun hpoint (by simp)
      have hall := List.all_eq_true.2 digits.isDigit
      refine hread.trans ((if_pos (by simp [hall, digits.ne_nil])).trans ?_)
      rw [List.nil_append, valueOfDigits_eq_rowValue]
      rfl

/-- If the parts denote a number, then they are figures. -/
theorem exists_figures {negative : Bool} {front rest : List Char} {number : Number}
    (hfront : ∀ c ∈ front, Text.isDigit c = true) (h : ofParts? negative front rest = some number) :
    ∃ figures : Figures, figures.text = front ++ rest := by
  unfold ofParts? at h
  split at h
  · -- nothing behind the digits
    split at h
    · cases h
    · next hne => exact ⟨.whole ⟨front, hne, hfront⟩, (List.append_nil front).symm⟩
  · -- a point, and then digits in front of it or behind it
    next behind =>
    split at h
    · next hdigits =>
      obtain ⟨hall, hsome⟩ := Bool.and_eq_true_iff.1 hdigits
      have hbehind := List.all_eq_true.1 hall
      by_cases hempty : front = []
      · subst hempty
        have hne : behind ≠ [] := by simpa using hsome
        exact ⟨.bare ⟨behind, hne, hbehind⟩, rfl⟩
      · exact ⟨.point ⟨front, hempty, hfront⟩ behind hbehind, rfl⟩
    · cases h
  · cases h

/-- **Nothing but a numeral denotes a number.** -/
theorem exists_numeral_of_ofText? {text : String} {number : Number} (h : ofText? text = some number) :
    ∃ numeral : Numeral, numeral.text = text.toList := by
  by_cases hsign : text.toList.head? = some '-'
  · obtain ⟨body, hbody⟩ := List.head?_eq_some_iff.1 hsign
    have hread : ofParts? true (body.takeWhile Text.isDigit) (body.dropWhile Text.isDigit)
        = some number := by
      rw [← h]
      simp only [ofText?, hbody, List.head?_cons, decide_true, if_true, List.drop_one, List.tail_cons]
      rfl
    obtain ⟨figures, hfigures⟩ := exists_figures (fun c => List.mem_takeWhile_imp) hread
    refine ⟨⟨true, figures⟩, ?_⟩
    rw [Numeral.text, hfigures, List.takeWhile_append_dropWhile, hbody]
    rfl
  · -- without a sign, the whole text is split behind its digits
    have hread : ofParts? false (text.toList.takeWhile Text.isDigit) (text.toList.dropWhile Text.isDigit)
        = some number := by
      rw [← h]
      simp only [ofText?, hsign, decide_false, if_false]
      rfl
    obtain ⟨figures, hfigures⟩ := exists_figures (fun c => List.mem_takeWhile_imp) hread
    refine ⟨⟨false, figures⟩, ?_⟩
    rw [Numeral.text, hfigures, List.takeWhile_append_dropWhile]
    rfl

/-! ## Integers and doubles -/

namespace Numeral

variable {numeral : Numeral}

/-- Only figures that are whole have no point. -/
theorem exists_whole_of_not_mem (h : '.' ∉ numeral.text) :
    ∃ digits : Digits, numeral = ⟨numeral.negative, .whole digits⟩ := by
  obtain ⟨negative, figures⟩ := numeral
  cases figures with
  | whole digits => exact ⟨digits, rfl⟩
  | point digits behind _ => exact absurd (by simp [text, Figures.text]) h
  | bare digits => exact absurd (by simp [text, Figures.text]) h

theorem not_mem_of_whole (negative : Bool) (digits : Digits) :
    '.' ∉ text ⟨negative, .whole digits⟩ := by
  intro h
  rcases List.mem_append.1 h with h | h
  · cases negative with
    | false => cases h
    | true => exact absurd (List.mem_singleton.1 h) (by decide)
  · exact absurd (digits.isDigit '.' h) (by decide)

/-- Without a point, the value is the one of the digits with the sign. -/
theorem value_whole (negative : Bool) (digits : Digits) :
    value ⟨negative, .whole digits⟩ = units ⟨negative, .whole digits⟩ := by
  rw [value, Figures.behind, List.length_nil, pow_zero, div_one]

/-- Whole figures are in range if the value of their digits is. -/
theorem isInt64_whole (negative : Bool) (digits : Digits) :
    IsInt64 ⟨negative, .whole digits⟩ ↔
      -2 ^ 63 ≤ units ⟨negative, .whole digits⟩ ∧ units ⟨negative, .whole digits⟩ < 2 ^ 63 := by
  rw [IsInt64, value_whole]
  constructor
  · rintro ⟨-, hleast, hgreatest⟩
    exact ⟨by exact_mod_cast hleast, by exact_mod_cast hgreatest⟩
  · rintro ⟨hleast, hgreatest⟩
    exact ⟨not_mem_of_whole negative digits, by exact_mod_cast hleast, by exact_mod_cast hgreatest⟩

/-- What whole figures denote: an integer if it is in range, and the nearest double if not. -/
theorem number_whole (negative : Bool) (digits : Digits) :
    number ⟨negative, .whole digits⟩ =
      if -2 ^ 63 ≤ units ⟨negative, .whole digits⟩ ∧ units ⟨negative, .whole digits⟩ < 2 ^ 63 then
        .integer (Int64.ofInt (units ⟨negative, .whole digits⟩))
      else .real (nearest ⟨negative, .whole digits⟩) := by
  have hunits : (if negative then -(Decimal.valueOfDigits digits.text : Int)
      else Decimal.valueOfDigits digits.text) = units ⟨negative, .whole digits⟩ := by
    rw [valueOfDigits_eq_rowValue]
    rfl
  -- the reader compares with the least and the greatest integer
  have hbounds : (Int64.minValue.toInt ≤ units ⟨negative, .whole digits⟩ ∧
        units ⟨negative, .whole digits⟩ ≤ Int64.maxValue.toInt) ↔
      -2 ^ 63 ≤ units ⟨negative, .whole digits⟩ ∧ units ⟨negative, .whole digits⟩ < 2 ^ 63 := by
    rw [Int64.toInt_minValue, Int64.toInt_maxValue]
    omega
  have hreal : realOf negative (Decimal.valueOfDigits digits.text) 0 =
      .real (nearest ⟨negative, .whole digits⟩) := by
    rw [valueOfDigits_eq_rowValue]
    rfl
  calc number ⟨negative, .whole digits⟩
      = Number.whole negative digits.text := rfl
    _ = _ := by simp only [Number.whole, hunits, hbounds, hreal]

/-- **A numeral without a point and in range denotes the integer of its value.** -/
theorem number_of_isInt64 (h : numeral.IsInt64) :
    ∃ n : Int64, numeral.number = .integer n ∧ numeral.value = n.toInt := by
  obtain ⟨digits, hwhole⟩ := exists_whole_of_not_mem h.1
  rw [hwhole] at h ⊢
  have hfits := (isInt64_whole _ digits).1 h
  refine ⟨Int64.ofInt (units ⟨numeral.negative, .whole digits⟩), ?_, ?_⟩
  · rw [number_whole, if_pos hfits]
  · rw [value_whole, Int64.toInt_ofInt_of_le hfits.1 hfits.2]

/-- **Every other numeral denotes the nearest double.** -/
theorem number_of_not_isInt64 (h : ¬ numeral.IsInt64) : numeral.number = .real numeral.nearest := by
  obtain ⟨negative, figures⟩ := numeral
  cases figures with
  | whole digits => rw [number_whole, if_neg (fun hfits => h ((isInt64_whole _ digits).2 hfits))]
  | point digits behind _ => rfl
  | bare digits => rfl

theorem number_eq_integer_iff {n : Int64} :
    numeral.number = .integer n ↔ numeral.IsInt64 ∧ numeral.value = n.toInt := by
  by_cases h : numeral.IsInt64
  · obtain ⟨m, hnumber, hvalue⟩ := number_of_isInt64 h
    rw [hnumber, hvalue, Number.integer.injEq]
    constructor
    · rintro rfl
      exact ⟨h, rfl⟩
    · rintro ⟨-, heq⟩
      exact Int64.toInt_inj.1 (by exact_mod_cast heq)
  · rw [number_of_not_isInt64 h]
    exact iff_of_false nofun (fun h' => h h'.1)

theorem number_eq_real_iff {x : Float} :
    numeral.number = .real x ↔ ¬ numeral.IsInt64 ∧ numeral.nearest = x := by
  by_cases h : numeral.IsInt64
  · obtain ⟨m, hnumber, -⟩ := number_of_isInt64 h
    rw [hnumber]
    exact iff_of_false nofun (fun h' => h'.1 h)
  · rw [number_of_not_isInt64 h, Number.real.injEq]
    exact (and_iff_right h).symm

end Numeral

/-- What is read from a text is what its numeral denotes. -/
theorem ofText?_eq_some_iff {text : String} {number : Number} :
    ofText? text = some number ↔
      ∃ numeral : Numeral, numeral.text = text.toList ∧ numeral.number = number := by
  constructor
  · intro h
    obtain ⟨numeral, htext⟩ := exists_numeral_of_ofText? h
    have hread := ofText?_numeral numeral
    rw [htext, String.ofList_toList] at hread
    exact ⟨numeral, htext, Option.some.inj (hread.symm.trans h)⟩
  · rintro ⟨numeral, htext, rfl⟩
    rw [← String.ofList_toList (s := text), ← htext]
    exact ofText?_numeral numeral

/-! ## An integer that is written out -/

/-- The digits of a number. -/
def digitsOf (n : Nat) : Digits where
  text := Nat.toDigits 10 n
  ne_nil := Nat.toDigits_ne_nil
  isDigit := by
    intro c hc
    exact Nat.isDigit_of_mem_toDigits (by decide) (by decide) hc

/-- The numeral that an integer is written as. -/
def numeralOf (n : Int) : Numeral := ⟨decide (n < 0), .whole (digitsOf n.natAbs)⟩

theorem toList_toString (n : Int) : (toString n).toList = (numeralOf n).text := by
  cases n with
  | ofNat m =>
      have hsign : decide (Int.ofNat m < 0) = false := decide_eq_false (Int.not_lt.2 (Int.natCast_nonneg m))
      calc (toString (Int.ofNat m)).toList
          = (Nat.repr m).toList := rfl
        _ = Nat.toDigits 10 m := by simp
        _ = (numeralOf (Int.ofNat m)).text := by rw [Numeral.text, numeralOf, hsign]; rfl
  | negSucc m =>
      have hsign : decide (Int.negSucc m < 0) = true := decide_eq_true (Int.negSucc_lt_zero m)
      calc (toString (Int.negSucc m)).toList
          = ("-" ++ Nat.repr (m + 1)).toList := rfl
        _ = '-' :: Nat.toDigits 10 (m + 1) := by simp
        _ = (numeralOf (Int.negSucc m)).text := by rw [Numeral.text, numeralOf, hsign]; rfl

theorem units_numeralOf (n : Int) : (numeralOf n).units = n := by
  have hvalue : rowValue (numeralOf n).figures.row = n.natAbs := rowValue_toDigits n.natAbs
  have hsign : (numeralOf n).negative = true ↔ n < 0 := decide_eq_true_iff
  rw [Numeral.units, hvalue]
  simp only [hsign]
  split
  · omega
  · omega

/-- **An integer of 64 bits that is written out is read as itself.** -/
theorem ofText?_text_integer (n : Int64) : ofText? (Number.integer n).text = some (.integer n) := by
  have hvalue : (numeralOf n.toInt).value = n.toInt :=
    (Numeral.value_whole _ _).trans (congrArg _ (units_numeralOf n.toInt))
  have hfits : (numeralOf n.toInt).IsInt64 := by
    refine (Numeral.isInt64_whole _ _).2 ?_
    have hunits := units_numeralOf n.toInt
    rw [numeralOf] at hunits
    rw [hunits]
    exact ⟨n.le_toInt, n.toInt_lt⟩
  have hnumber := Numeral.number_eq_integer_iff.2 ⟨hfits, hvalue⟩
  exact ofText?_eq_some_iff.2 ⟨numeralOf n.toInt, (toList_toString n.toInt).symm, hnumber⟩

end TextTemplate.Number

namespace TextTemplate

/-! ## The numeral at the start of lexemes -/

namespace Token

/-- A character that is a token by itself is told by its token. -/
theorem eq_of_ofChar? {c : Char} :
    (ofChar? c = some .minus → c = '-') ∧ (ofChar? c = some .dot → c = '.') := by
  unfold ofChar?
  split
  all_goals exact ⟨by simp, by simp⟩

/-- Digits, a minus sign and a point are told by their tokens. -/
theorem text_of_token {lexeme : Lexeme} {text : List Char} (h : lexeme ∈ lexemesFrom 0 text) :
    (lexeme.token = .digits → lexeme.text ≠ [] ∧ ∀ c ∈ lexeme.text, Text.isDigit c = true) ∧
      (lexeme.token = .minus → lexeme.text = ['-']) ∧ (lexeme.token = .dot → lexeme.text = ['.']) := by
  obtain ⟨c, rest, -, rfl⟩ := exists_lexemeAt h
  unfold lexemeAt
  split
  · next hdigit =>
    refine ⟨fun _ => ⟨List.cons_ne_nil _ _, fun d hd => ?_⟩, nofun, nofun⟩
    rcases List.mem_cons.1 hd with rfl | hd
    · exact hdigit
    · exact List.mem_takeWhile_imp hd
  split
  · exact ⟨nofun, nofun, nofun⟩
  split
  · exact ⟨nofun, nofun, nofun⟩
  split
  · dsimp only
    split
    · exact ⟨nofun, nofun, nofun⟩
    · exact ⟨nofun, nofun, nofun⟩
  · -- one character: the token tells which one
    have hmark : ∀ token, token ≠ .junk → (ofChar? c).getD .junk = token → ofChar? c = some token := by
      intro token hjunk htoken
      cases hchar : ofChar? c with
      | none => exact absurd (by rw [← htoken, hchar]; rfl) hjunk
      | some other => rw [← htoken, hchar]; rfl
    refine ⟨fun htoken => absurd htoken (ofChar?_ne c).1, fun htoken => ?_, fun htoken => ?_⟩
    · rw [eq_of_ofChar?.1 (hmark _ (by decide) htoken)]
    · rw [eq_of_ofChar?.2 (hmark _ (by decide) htoken)]

end Token

namespace Parser

open TextTemplate.Written (Digits)

variable {text : String} {lexemes rest : List Lexeme} {taken : List Char}

/-- What is read as a fraction is nothing, or a point with digits behind it or without. -/
theorem exists_fraction {text : List Char} (h : ∀ lexeme ∈ lexemes, lexeme ∈ Token.lexemesFrom 0 text) :
    ∃ consumed, lexemes = consumed ++ (fraction lexemes).2 ∧
      consumed.flatMap (·.text) = (fraction lexemes).1 ∧
      ((fraction lexemes).1 = [] ∨ ∃ behind, (fraction lexemes).1 = '.' :: behind ∧
        ∀ c ∈ behind, Text.isDigit c = true) := by
  unfold fraction
  split
  · next point digits rest =>
    have hpoint := (Token.text_of_token (h _ List.mem_cons_self)).2.2 rfl
    have hdigits := (Token.text_of_token (h _ (List.mem_cons_of_mem _ List.mem_cons_self))).1 rfl
    dsimp only at hpoint hdigits
    subst hpoint
    exact ⟨[_, _], rfl, by simp, .inr ⟨digits, rfl, hdigits.2⟩⟩
  · next point rest _ =>
    have hpoint := (Token.text_of_token (h _ List.mem_cons_self)).2.2 rfl
    dsimp only at hpoint
    subst hpoint
    exact ⟨[_], rfl, by simp, .inr ⟨[], rfl, nofun⟩⟩
  · exact ⟨[], rfl, rfl, .inl rfl⟩

/-- Digits with a sign and a fraction are a numeral. -/
theorem exists_numeral_of_parts (negative : Bool) (digits : Digits) {fraction : List Char}
    (h : fraction = [] ∨ ∃ behind, fraction = '.' :: behind ∧ ∀ c ∈ behind, Text.isDigit c = true) :
    ∃ numeral : Number.Numeral,
      numeral.text = Number.signOf negative ++ (digits.text ++ fraction) := by
  rcases h with rfl | ⟨behind, rfl, hbehind⟩
  · refine ⟨⟨negative, .whole digits⟩, ?_⟩
    rw [List.append_nil]
    rfl
  · exact ⟨⟨negative, .point digits behind hbehind⟩, rfl⟩

/-- **What the parser takes as a numeral is a numeral**: the lexemes that it takes are cut off in front of the
rest, and they spell one. -/
theorem exists_numeral_of_numeral? (hlexemes : lexemes <:+ Token.tokenize text)
    (h : numeral? lexemes = some (taken, rest)) :
    ∃ (numeral : Number.Numeral) (consumed : List Lexeme), lexemes = consumed ++ rest ∧
      consumed.flatMap (·.text) = taken ∧ numeral.text = taken := by
  -- a token alone does not tell what its lexeme spells; in a body it does
  have hmem : ∀ lexeme ∈ lexemes, lexeme ∈ Token.lexemesFrom 0 text.toList :=
    fun lexeme hl => hlexemes.subset hl
  unfold numeral? at h
  split at h
  · next row behind =>
    obtain ⟨hne, hdigit⟩ := (Token.text_of_token (hmem _ List.mem_cons_self)).1 rfl
    obtain ⟨consumed, hrest, hspelled, hfraction⟩ :=
      exists_fraction (fun lexeme hl => hmem lexeme (List.mem_cons_of_mem _ hl))
    cases h
    obtain ⟨numeral, hnumeral⟩ := exists_numeral_of_parts false ⟨row, hne, hdigit⟩ hfraction
    refine ⟨numeral, ⟨.digits, row⟩ :: consumed, ?_, ?_, hnumeral⟩
    · rw [List.cons_append, ← hrest]
    · rw [List.flatMap_cons, hspelled]
  · next sign row behind =>
    have hsign := (Token.text_of_token (hmem _ List.mem_cons_self)).2.1 rfl
    dsimp only at hsign
    subst hsign
    obtain ⟨hne, hdigit⟩ :=
      (Token.text_of_token (hmem _ (List.mem_cons_of_mem _ List.mem_cons_self))).1 rfl
    obtain ⟨consumed, hrest, hspelled, hfraction⟩ := exists_fraction
      (fun lexeme hl => hmem lexeme (List.mem_cons_of_mem _ (List.mem_cons_of_mem _ hl)))
    cases h
    obtain ⟨numeral, hnumeral⟩ := exists_numeral_of_parts true ⟨row, hne, hdigit⟩ hfraction
    refine ⟨numeral, ⟨.minus, ['-']⟩ :: ⟨.digits, row⟩ :: consumed, ?_, ?_, ?_⟩
    · rw [List.cons_append, List.cons_append, ← hrest]
    · rw [List.flatMap_cons, List.flatMap_cons, hspelled, List.append_assoc]
    · rw [hnumeral, List.append_assoc]
      rfl
  · cases h

end Parser

namespace Number

theorem Numeral.count_point_le (numeral : Numeral) : numeral.text.count '.' ≤ 1 := by
  have hdigits : ∀ {row : List Char}, (∀ c ∈ row, Text.isDigit c = true) → row.count '.' = 0 := by
    intro row hrow
    exact List.count_eq_zero.2 (fun hmem => absurd (hrow '.' hmem) (by decide))
  have hsign : (signOf numeral.negative).count '.' = 0 := by
    cases numeral.negative with
    | false => rfl
    | true => rfl
  obtain ⟨negative, figures⟩ := numeral
  cases figures with
  | whole digits =>
      rw [text, List.count_append, hsign, Figures.text, hdigits digits.isDigit]
      omega
  | point digits behind isDigit =>
      rw [text, List.count_append, hsign, Figures.text, List.count_append, hdigits digits.isDigit,
        List.count_cons_self, hdigits isDigit]
  | bare digits =>
      rw [text, List.count_append, hsign, Figures.text, List.count_cons_self, hdigits digits.isDigit]

/-- **Numerals are classified exactly.** A text denotes a number if and only if it is a numeral: the integer of
its value if it has no point and the value is one of 64 bits, and the nearest double if not. Wherever in a body the
parser starts to read a number, what it takes is a numeral with at most one point, and the operand is the number
of that numeral. An integer that is written out is read as itself. -/
theorem numerals_classified :
    (∀ text : String, (ofText? text).isSome ↔ ∃ numeral : Numeral, numeral.text = text.toList) ∧
      (∀ (text : String) (n : Int64), ofText? text = some (.integer n) ↔
        ∃ numeral : Numeral, numeral.text = text.toList ∧ numeral.IsInt64 ∧ numeral.value = n.toInt) ∧
      (∀ (text : String) (x : Float), ofText? text = some (.real x) ↔
        ∃ numeral : Numeral, numeral.text = text.toList ∧ ¬ numeral.IsInt64 ∧ numeral.nearest = x) ∧
      (∀ (space body : String) (lexemes rest : List Lexeme) (taken : List Char),
        lexemes <:+ Token.tokenize body → Parser.numeral? lexemes = some (taken, rest) →
        ∃ (numeral : Numeral) (consumed : List Lexeme) (number : Number),
          lexemes = consumed ++ rest ∧ consumed.flatMap (·.text) = taken ∧
          numeral.text = taken ∧ taken.count '.' ≤ 1 ∧ ofText? (String.ofList taken) = some number ∧
          (Parser.expression space lexemes).value.operand = .number number) ∧
      ∀ n : Int64, ofText? (Number.integer n).text = some (.integer n) := by
  refine ⟨fun text => ?_, fun text n => ?_, fun text x => ?_, ?_, ofText?_text_integer⟩
  · rw [Option.isSome_iff_exists]
    constructor
    · rintro ⟨number, h⟩
      exact exists_numeral_of_ofText? h
    · rintro ⟨numeral, htext⟩
      exact ⟨_, ofText?_eq_some_iff.2 ⟨numeral, htext, rfl⟩⟩
  · rw [ofText?_eq_some_iff]
    simp only [Numeral.number_eq_integer_iff]
  · rw [ofText?_eq_some_iff]
    simp only [Numeral.number_eq_real_iff]
  · intro space body lexemes rest taken hlexemes htaken
    obtain ⟨numeral, consumed, hrest, hspelled, htext⟩ :=
      Parser.exists_numeral_of_numeral? hlexemes htaken
    have hread : ofText? (String.ofList taken) = some numeral.number :=
      htext ▸ ofText?_numeral numeral
    have hnumber : Parser.numberOf taken = numeral.number := by
      rw [Parser.numberOf, hread, Option.getD_some]
    refine ⟨numeral, consumed, numeral.number, hrest, hspelled, htext, ?_, hread, ?_⟩
    · exact htext ▸ numeral.count_point_le
    · rw [(Parser.expression_of_numeral? htaken).1, hnumber]

/-- The second point ends the numeral: `-12.3` is read, and it is a double. -/
theorem numerals_classified_second_point :
    ∃ rest, Parser.numeral? (Token.tokenize "-12.3.4|f") = some ("-12.3".toList, rest) ∧
      Token.tokenize "-12.3.4|f" <:+ Token.tokenize "-12.3.4|f" ∧
      ∃ (numeral : Numeral) (consumed : List Lexeme) (number : Number),
        Token.tokenize "-12.3.4|f" = consumed ++ rest ∧
        consumed.flatMap (·.text) = "-12.3".toList ∧ numeral.text = "-12.3".toList ∧
        "-12.3".toList.count '.' ≤ 1 ∧ ofText? (String.ofList "-12.3".toList) = some number ∧
        (Parser.expression "" (Token.tokenize "-12.3.4|f")).value.operand = .number number := by
  have htaken : Parser.numeral? (Token.tokenize "-12.3.4|f") = some ("-12.3".toList,
      [⟨.dot, ['.']⟩, ⟨.digits, ['4']⟩, ⟨.pipe, ['|']⟩, ⟨.word, ['f']⟩]) := by
    decide
  exact ⟨_, htaken, List.suffix_rfl,
    numerals_classified.2.2.2.1 "" "-12.3.4|f" _ _ _ List.suffix_rfl htaken⟩

end Number

end TextTemplate
