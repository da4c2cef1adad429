import TextTemplate.Proofs.Expression.Numeral
import TextTemplate.Proofs.Expression.Reading
import TextTemplate.Proofs.Text.Search

set_option autoImplicit false

/-! # The parts of what is written

Each part of an expression ends where the next one starts: what can stand behind a name, behind steps
and behind an expression is settled by its first character (`afterName`, `afterSteps`, `closers`), and
none of those characters could prolong the part before it. So names, paths, numerals and white space
are read up to what stands behind them, whatever that is. -/

namespace TextTemplate.Written

open TextTemplate.Parser
open TextTemplate.Token (lexemesFrom lexemeAt ofChar? lexemesFrom_cons lexemesFrom_mark
  lexemesFrom_digits lexemesFrom_blanks lexemesFrom_append flatMap_text_lexemesFrom
  head_token_of_startsIn head_token_ne head_token_ne_of_startsIn first_of_token)

/-! ## What can stand behind -/

/-- What can stand behind a phrase in a slot or in brackets. -/
def closers : List Char := [',', ')', ']', ' ', '\t', '\r', '\n']

/-- What can stand behind steps: an operator too. -/
def afterSteps : List Char := '|' :: closers

/-- What can stand behind a name: steps and arguments too. -/
def afterName : List Char := '.' :: '[' :: '(' :: afterSteps

variable {rest : List Char}

theorem afterSteps_subset : afterSteps ⊆ afterName := fun c hc => by
  simp [afterName, hc]

theorem isWordChar_head_of_startsIn (h : Text.StartsIn afterName rest) :
    ∀ c ∈ rest.head?, Text.isWordChar c = false :=
  h.head_eq_false (by rfl)

/-! ## Names -/

theorem Name.isPathChar (name : Name) : ∀ c ∈ name.text, Token.isPathChar c = true := by
  intro c hc
  rw [Token.isPathChar, name.isWordChar c hc, Bool.true_or]

/-- A name is read up to what stands behind it, whatever cannot be part of a name. -/
theorem Name.identifier_eq_of_head (name : Name) (h : ∀ c ∈ rest.head?, Text.isWordChar c = false) :
    identifier (lexemesFrom 0 (name.text ++ rest)) = name.string ∧
      afterIdentifier (lexemesFrom 0 (name.text ++ rest)) = lexemesFrom 0 rest := by
  have hall := isNamePart_of_mem_lexemesFrom name.isWordChar
  have hhead := isNamePart_head_eq_false h
  rw [lexemesFrom_append name.isPathChar h, identifier, afterIdentifier, takeWhile_row hall hhead,
    dropWhile_row hall hhead, Lexeme.textOf, flatMap_text_lexemesFrom]
  exact ⟨rfl, rfl⟩

theorem Name.identifier_eq (name : Name) (h : Text.StartsIn afterName rest) :
    identifier (lexemesFrom 0 (name.text ++ rest)) = name.string ∧
      afterIdentifier (lexemesFrom 0 (name.text ++ rest)) = lexemesFrom 0 rest :=
  name.identifier_eq_of_head (isWordChar_head_of_startsIn h)

theorem Path.isPathChar (path : Path) : ∀ c ∈ path.text, Token.isPathChar c = true := by
  intro c hc
  rcases List.mem_append.1 hc with hc | hc
  · obtain ⟨segment, -, hc⟩ := List.mem_flatMap.1 hc
    rcases List.mem_append.1 hc with hc | hc
    · exact segment.isPathChar c hc
    · rw [List.mem_singleton.1 hc]
      rfl
  · exact path.name.isPathChar c hc

/-- Segments with a colon behind each are segments with colons between them and one more behind. -/
theorem flatMap_segments {segments : List Name} (h : segments ≠ []) :
    segments.flatMap (fun segment => segment.text ++ [':']) =
      [':'].intercalate (segments.map Name.text) ++ [':'] := by
  induction segments with
  | nil => exact absurd rfl h
  | cons segment segments ih =>
      cases segments with
      | nil => simp [List.intercalate]
      | cons next segments =>
          rw [List.flatMap_cons, ih (List.cons_ne_nil _ _)]
          simp [List.intercalate]

/-- The last colon of a path separates the namespace from the name. Without a namespace there is no
colon. -/
theorem Path.splitLast?_eq (path : Path) :
    (Text.splitLast? ':' path.text = none ∧ path.text = path.name.text ∧
        path.namespaceName = none) ∨
      ∃ before, Text.splitLast? ':' path.text = some (before, path.name.text) ∧
        path.namespaceName = some (String.ofList before) := by
  have hcolon : ':' ∉ path.name.text := fun hc => absurd (path.name.isWordChar ':' hc) (by decide)
  unfold Path.namespaceName
  by_cases h : path.segments = []
  · have htext : path.text = path.name.text := by rw [Path.text, h]; rfl
    rw [htext, Text.splitLast?_eq_none hcolon, if_pos h]
    exact .inl ⟨rfl, rfl, rfl⟩
  · have htext : path.text =
        [':'].intercalate (path.segments.map Name.text) ++ ':' :: path.name.text := by
      rw [Path.text, flatMap_segments h, List.append_assoc]
      rfl
    -- what stands before the last colon are the segments, joined by the other colons
    have hstring : ":".intercalate (path.segments.map Name.string) =
        String.ofList ([':'].intercalate (path.segments.map Name.text)) := by
      rw [← String.toList_inj, String.toList_ofList, String.toList_intercalate, List.map_map]
      simp [Function.comp_def, Name.string]
    rw [htext, Text.splitLast?_append hcolon, if_neg h, hstring]
    exact .inr ⟨_, rfl, rfl⟩

/-- A name with its namespace is read up to what stands behind it. -/
theorem Path.path_eq (path : Path) (h : Text.StartsIn afterName rest) :
    Parser.path "" (lexemesFrom 0 (path.text ++ rest)) = (path.namespaceName, path.name.string) ∧
      afterPath (lexemesFrom 0 (path.text ++ rest)) = lexemesFrom 0 rest := by
  have hall := isPathPart_of_mem_lexemesFrom path.isPathChar
  have hhead : ∀ lexeme ∈ (lexemesFrom 0 rest).head?, isPathPart lexeme = false :=
    head_token_of_startsIn (p := fun token => isPathPart ⟨token, []⟩) h rfl
  rw [lexemesFrom_append path.isPathChar (isWordChar_head_of_startsIn h), Parser.path, afterPath,
    takeWhile_row hall hhead, dropWhile_row hall hhead, flatMap_text_lexemesFrom]
  refine ⟨?_, rfl⟩
  rcases path.splitLast?_eq with ⟨hsplit, htext, hspace⟩ | ⟨before, hsplit, hspace⟩
  · rw [hsplit, htext, hspace]
    rfl
  · rw [hsplit, hspace]
    rfl

/-! ## Numbers -/

theorem Digits.lexemesFrom_eq (digits : Digits) (h : Text.StartsIn afterName rest) :
    lexemesFrom 0 (digits.text ++ rest) = ⟨.digits, digits.text⟩ :: lexemesFrom 0 rest :=
  lexemesFrom_digits digits.ne_nil digits.isDigit (h.head_eq_false (by rfl))

/-- A numeral: digits with a minus sign or without, and a point with more digits or without. -/
structure Figure where
  negative : Bool
  digits : Digits
  /-- What stands behind the point, if there is one. -/
  fraction : Option (List Char)
  isDigit : ∀ behind ∈ fraction, ∀ c ∈ behind, Text.isDigit c = true

namespace Figure

/-- The minus sign, if there is one. -/
def sign (figure : Figure) : List Char := if figure.negative then ['-'] else []

/-- The point and what stands behind it. -/
def point (figure : Figure) : List Char := figure.fraction.elim [] ('.' :: ·)

def text (figure : Figure) : List Char := figure.sign ++ (figure.digits.text ++ figure.point)

/-- The number that is denoted: without a point an integer, if it fits into 64 bits, and else the
nearest double. -/
def number (figure : Figure) : Number :=
  match figure.fraction with
  | none => .whole figure.negative figure.digits.text
  | some behind => .realOf figure.negative (Decimal.valueOfDigits (figure.digits.text ++ behind))
      (-behind.length)

theorem isDigit_head_point (figure : Figure) : ∀ c ∈ figure.point.head?, Text.isDigit c = false := by
  unfold point
  cases figure.fraction with
  | none => exact nofun
  | some behind =>
      rintro _ ⟨rfl⟩
      rfl

/-- The point and the digits behind it are read up to what stands behind them. -/
theorem fraction_eq (figure : Figure) (h : Text.StartsIn afterSteps rest) :
    Parser.fraction (lexemesFrom 0 (figure.point ++ rest)) = (figure.point, lexemesFrom 0 rest) := by
  unfold point
  cases hfraction : figure.fraction with
  | none => exact fraction_of_head (head_token_ne_of_startsIn h rfl)
  | some behind =>
      rw [Option.elim_some, List.cons_append, lexemesFrom_mark (by rfl : ofChar? '.' = some .dot)]
      by_cases hempty : behind = []
      · -- a point alone: what stands behind it starts with no digit
        subst hempty
        have hdigit : ∀ lexeme ∈ (lexemesFrom 0 rest).head?, lexeme.token ≠ .digits :=
          head_token_ne_of_startsIn h rfl
        unfold Parser.fraction
        split
        · next heq =>
          obtain ⟨_, hrest⟩ := List.cons.inj heq
          rw [List.nil_append] at hrest
          rw [hrest] at hdigit
          exact absurd rfl (hdigit _ rfl)
        · next heq =>
          cases heq
          rfl
        · next hpoint => exact absurd rfl (hpoint _ _)
      · rw [lexemesFrom_digits hempty (figure.isDigit behind hfraction) (h.head_eq_false (by rfl))]
        rfl

/-- A numeral is read up to what stands behind it. -/
theorem numeral?_eq (figure : Figure) (h : Text.StartsIn afterSteps rest) :
    numeral? (lexemesFrom 0 (figure.text ++ rest)) = some (figure.text, lexemesFrom 0 rest) := by
  have hfraction := figure.fraction_eq h
  have hpoint : ∀ c ∈ (figure.point ++ rest).head?, Text.isDigit c = false := by
    cases hempty : figure.point with
    | nil => exact h.head_eq_false (by rfl)
    | cons c row =>
        rintro _ ⟨rfl⟩
        exact figure.isDigit_head_point c (by rw [hempty]; rfl)
  have hdigits := lexemesFrom_digits figure.digits.ne_nil figure.digits.isDigit hpoint
  rw [text, List.append_assoc, List.append_assoc, sign]
  cases figure.negative with
  | false =>
      rw [if_neg (by decide), List.nil_append, hdigits, numeral?, hfraction]
      rfl
  | true =>
      rw [if_pos rfl, List.cons_append, List.nil_append,
        lexemesFrom_mark (by rfl : ofChar? '-' = some .minus), hdigits, numeral?, hfraction,
        List.append_assoc]

/-- A figure is one of the numerals that denote numbers, and denotes the same. -/
theorem exists_numeral (figure : Figure) :
    ∃ numeral : Number.Numeral, numeral.text = figure.text ∧ numeral.number = figure.number := by
  obtain ⟨negative, digits, fraction, isDigit⟩ := figure
  cases fraction with
  | none =>
      refine ⟨⟨negative, .whole digits⟩, ?_, rfl⟩
      exact congrArg (Number.signOf negative ++ ·) (List.append_nil digits.text).symm
  | some behind =>
      refine ⟨⟨negative, .point digits behind (isDigit behind rfl)⟩, rfl, ?_⟩
      exact congrArg (Number.realOf negative · (-behind.length))
        (Number.valueOfDigits_eq_rowValue (digits.text ++ behind)).symm

/-- The number that is read is the one that is denoted. -/
theorem numberOf_eq (figure : Figure) : numberOf figure.text = figure.number := by
  obtain ⟨numeral, htext, hnumber⟩ := figure.exists_numeral
  rw [numberOf, ← htext, Number.ofText?_numeral, Option.getD_some, hnumber]

end Figure

/-! ## Words and keys -/

theorem Name.exists_cons (name : Name) :
    ∃ c tail, name.text = c :: tail ∧ Text.isWordChar c = true := by
  obtain ⟨c, tail, htext⟩ := List.exists_cons_of_ne_nil name.ne_nil
  exact ⟨c, tail, htext, name.isWordChar c (by rw [htext]; exact List.mem_cons_self)⟩

/-- The lexeme at the start of a name. -/
theorem Name.exists_first (name : Name) (rest : List Char) :
    ∃ first tail, lexemesFrom 0 (name.text ++ rest) = first :: tail ∧ isNamePart first = true := by
  obtain ⟨c, text, htext, hword⟩ := name.exists_cons
  rw [htext, List.cons_append, lexemesFrom_cons]
  exact ⟨_, _, rfl, isNamePart_lexemeAt hword _⟩

theorem Key.token_ne_digits (key : Key) (rest : List Char) :
    ∀ lexeme ∈ (lexemesFrom 0 (key.text ++ rest)).head?, lexeme.token ≠ .digits := by
  refine head_token_ne (fun c rest => (first_of_token c rest).1) ?_
  rw [List.head?_append_of_ne_nil _ key.ne_nil]
  exact key.not_digit

/-- A word is not taken for a numeral. -/
theorem Word.startsWord (word : Word) (h : Text.StartsIn afterName rest) :
    StartsWord (lexemesFrom 0 (word.text ++ rest)) := by
  have hhead : ∀ lexeme ∈ (lexemesFrom 0 (word.text ++ rest)).head?, isNamePart lexeme = true := by
    obtain ⟨first, tail, hfirst, hpart⟩ := word.exists_first rest
    rw [hfirst]
    rintro lexeme ⟨rfl⟩
    exact hpart
  refine ⟨hhead, ?_⟩
  obtain ⟨c, text, htext, hword⟩ := word.exists_cons
  have hdigit : Text.isDigit c = false := word.not_digit c (by rw [htext]; rfl)
  rw [htext, List.cons_append]
  by_cases hminus : c = '-'
  · -- what stands behind the minus sign is no digit, be it in the word or behind it
    have hnext : ∀ d ∈ (text ++ rest).head?, Text.isDigit d = false := by
      cases text with
      | nil => exact h.head_eq_false (by rfl)
      | cons d text =>
          have hnumeral := word.not_numeral (by rw [htext, hminus]; rfl)
          rw [htext] at hnumeral
          exact hnumeral
    rw [hminus, lexemesFrom_mark (by rfl : ofChar? '-' = some .minus)]
    exact numeral?_minus _ (head_token_ne (fun c rest => (first_of_token c rest).1) hnext)
  · -- a letter or an underscore, and so the lexeme is no numeral
    have hletter : (Text.isLetter c || decide (c = '_')) = true := by
      simpa [Text.isWordChar, hdigit, hminus] using hword
    rw [lexemesFrom_cons, lexemeAt, hdigit, if_neg (by decide), if_pos hletter]
    rfl

theorem Name.string_ne (name : Name) : name.string ≠ "" := by
  intro h
  rw [Name.string, String.ofList_eq_empty_iff] at h
  exact name.ne_nil h

theorem Name.token_ne_dollar (name : Name) (rest : List Char) :
    ∀ lexeme ∈ (lexemesFrom 0 (name.text ++ rest)).head?, lexeme.token ≠ .dollar := by
  obtain ⟨first, tail, hfirst, hpart⟩ := name.exists_first rest
  rw [hfirst]
  rintro lexeme ⟨rfl⟩ htoken
  rw [isNamePart, htoken] at hpart
  cases hpart

/-! ## References -/

/-- A variable is read together with what is read behind its name. -/
theorem Path.reads_reference (path : Path) {behind : List Char} {between last : List Lexeme}
    {attributes : List Attribute} {chain : List Operator} (h : Text.StartsIn afterName behind)
    (hsteps : (steps "" (lexemesFrom 0 behind)).Reads attributes between)
    (hchain : (operators "" between).Reads chain last) :
    (expression "" (lexemesFrom 0 ('$' :: (path.text ++ behind)))).Reads
      ⟨.reference ⟨path.namespaceName, path.name.string, attributes⟩, chain⟩ last := by
  obtain ⟨hpath, hafter⟩ := path.path_eq h
  rw [lexemesFrom_mark (by rfl : ofChar? '$' = some .dollar)]
  exact reads_expression_dollar hpath hafter hsteps hchain

/-! ## Slots -/

/-- White space is passed, up to something else. -/
theorem Blank.afterBlanks_eq (blank : Blank) {text : List Char}
    (h : ∀ c ∈ text.head?, Text.isTokenBlank c = false) :
    afterBlanks (lexemesFrom 0 (blank.text ++ text)) = lexemesFrom 0 text := by
  have hhead : ∀ lexeme ∈ (lexemesFrom 0 text).head?, isBlank lexeme = false := fun lexeme hl =>
    isBlank_eq_false (head_token_ne (fun c rest => (first_of_token c rest).2) h lexeme hl)
  obtain ⟨row, hrow, hlexemes⟩ : ∃ row, (∀ lexeme ∈ row, isBlank lexeme = true) ∧
      lexemesFrom 0 (blank.text ++ text) = row ++ lexemesFrom 0 text := by
    by_cases hne : blank.text = []
    · refine ⟨[], fun _ hl => absurd hl List.not_mem_nil, ?_⟩
      rw [hne]
      rfl
    · refine ⟨[⟨.blank, blank.text⟩], ?_, lexemesFrom_blanks hne blank.isTokenBlank h⟩
      rintro lexeme hl
      rw [List.mem_singleton.1 hl]
      rfl
  rw [afterBlanks, hlexemes, dropWhile_row hrow hhead]

/-- White space and a mark. -/
theorem Blank.afterBlanks_mark (blank : Blank) {c : Char} {token : Token}
    (htoken : ofChar? c = some token) (hc : Text.isTokenBlank c = false) (text : List Char) :
    afterBlanks (lexemesFrom 0 (blank.text ++ c :: text)) = ⟨token, [c]⟩ :: lexemesFrom 0 text := by
  rw [blank.afterBlanks_eq (by rintro _ ⟨rfl⟩; exact hc), lexemesFrom_mark htoken]

theorem Blank.startsIn (blank : Blank) {text : List Char} (h : Text.StartsIn closers text) :
    Text.StartsIn closers (blank.text ++ text) := by
  intro c hc
  rcases hblank : blank.text with _ | ⟨d, row⟩
  · rw [hblank] at hc
    exact h c hc
  · rw [hblank] at hc
    cases hc
    have hblank := blank.isTokenBlank c (by rw [hblank]; exact List.mem_cons_self)
    simp only [Text.isTokenBlank, Bool.or_eq_true, decide_eq_true_eq] at hblank
    rcases hblank with ((rfl | rfl) | rfl) | rfl
    all_goals decide

end TextTemplate.Written
