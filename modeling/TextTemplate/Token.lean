import TextTemplate.Text.Classes
import TextTemplate.Text.Search

set_option autoImplicit false

/-! # Tokens

The body of a tag is cut into lexemes before it is parsed: each lexeme is a token together with the characters
it was read from. At every position the longest token is taken, and a character that starts none is a lexeme of
its own, so that nothing is lost: `tokenize_flatMap_text` says that the lexemes spell the body.

A quoted text ends at its quote. A backslash in it keeps the next character from being the end, unless that
character is a line feed; a text that reaches a line feed behind a backslash, or the end of the body, is left
open. -/

namespace TextTemplate

/-- The kinds of tokens. -/
inductive Token
  | dollar
  | colon
  | dot
  | leftBracket
  | rightBracket
  | pipe
  | leftParen
  | rightParen
  | comma
  | equals
  | minus
  /-- A row of decimal digits. -/
  | digits
  /-- A letter or an underscore with the letters, digits, underscores and minus signs behind it. -/
  | word
  /-- A quoted text with both quotes; the escapes are removed from `content`. -/
  | quoted (content : List Char)
  /-- A quoted text without its closing quote. -/
  | openQuoted (content : List Char)
  /-- White space. -/
  | blank
  /-- A character that starts no token. -/
  | junk
deriving BEq, DecidableEq, Repr

/-- A token and the characters it was read from. -/
structure Lexeme where
  token : Token
  text : List Char
deriving BEq, DecidableEq, Repr

namespace Token

/-! ## Quoted texts -/

/-- What was read behind an opening quote: the characters taken, the text they denote, and whether the closing
quote is among them. -/
structure QuotedRun where
  taken : List Char
  content : List Char
  closed : Bool
deriving Repr

/-- Puts characters in front of a run. -/
def QuotedRun.prepend (run : QuotedRun) (taken : List Char) (c : Char) : QuotedRun :=
  { run with taken := taken ++ run.taken, content := c :: run.content }

/-- Reads behind an opening `quote`. -/
def quotedRun (quote : Char) : List Char → QuotedRun
  | [] => ⟨[], [], false⟩
  | [c] =>
    if c = quote then ⟨[c], [], true⟩
    else if c = '\\' then ⟨[], [], false⟩
    else ⟨[c], [c], false⟩
  | c :: d :: rest =>
    if c = quote then ⟨[c], [], true⟩
    else if c ≠ '\\' then (quotedRun quote (d :: rest)).prepend [c] c
    -- the backslash is left to be junk, and the line feed to be white space
    else if d = '\n' then ⟨[], [], false⟩
    else (quotedRun quote rest).prepend [c, d] d

/-! ## Tokenizing -/

/-- The token of a character that is one by itself. -/
def ofChar? : Char → Option Token
  | '$' => some dollar
  | ':' => some colon
  | '.' => some dot
  | '[' => some leftBracket
  | ']' => some rightBracket
  | '|' => some pipe
  | '(' => some leftParen
  | ')' => some rightParen
  | ',' => some comma
  | '=' => some equals
  | '-' => some minus
  | _ => none

/-- Whether `c` opens a quoted text. -/
def isQuote (c : Char) : Bool := c = '"' || c = '\''

/-- The longest lexeme at the start of `c :: rest`. -/
def lexemeAt (c : Char) (rest : List Char) : Lexeme :=
  if Text.isDigit c then ⟨digits, c :: rest.takeWhile Text.isDigit⟩
  else if Text.isLetter c || c = '_' then ⟨word, c :: rest.takeWhile Text.isWordChar⟩
  else if Text.isTokenBlank c then ⟨blank, c :: rest.takeWhile Text.isTokenBlank⟩
  else if isQuote c then
    let run := quotedRun c rest
    ⟨if run.closed then quoted run.content else openQuoted run.content, c :: run.taken⟩
  else ⟨(ofChar? c).getD junk, [c]⟩

/-- The lexemes behind the first `skip` characters. -/
def lexemesFrom : (skip : Nat) → List Char → List Lexeme
  | _, [] => []
  | skip + 1, _ :: rest => lexemesFrom skip rest
  | 0, c :: rest => lexemeAt c rest :: lexemesFrom ((lexemeAt c rest).text.length - 1) rest

/-- The lexemes of a body. -/
def tokenize (body : String) : List Lexeme := lexemesFrom 0 body.toList

/-! ## Nothing is lost -/

theorem taken_prefix_quotedRun (quote : Char) (text : List Char) :
    (quotedRun quote text).taken <+: text := by
  fun_induction quotedRun quote text with
  | case1 => exact List.prefix_rfl
  | case2 | case3 | case4 => simp
  | case5 d rest => exact ⟨d :: rest, rfl⟩
  | case6 c d rest h h' ih => exact (List.prefix_cons_inj c).2 ih
  | case7 c d rest => exact List.nil_prefix
  | case8 c d rest h h' hd ih =>
    exact (List.prefix_cons_inj c).2 ((List.prefix_cons_inj d).2 ih)

/-- A lexeme is not empty, and it is read from the start of the text. -/
theorem exists_text_lexemeAt (c : Char) (rest : List Char) :
    ∃ tail, (lexemeAt c rest).text = c :: tail ∧ tail <+: rest := by
  unfold lexemeAt
  split
  · exact ⟨_, rfl, List.takeWhile_prefix _⟩
  split
  · exact ⟨_, rfl, List.takeWhile_prefix _⟩
  split
  · exact ⟨_, rfl, List.takeWhile_prefix _⟩
  split
  · exact ⟨_, rfl, taken_prefix_quotedRun c rest⟩
  · exact ⟨[], rfl, List.nil_prefix⟩

theorem lexemesFrom_eq_drop (skip : Nat) (text : List Char) :
    lexemesFrom skip text = lexemesFrom 0 (text.drop skip) := by
  induction skip generalizing text with
  | zero => rfl
  | succ skip ih => cases text <;> simp [lexemesFrom, ih]

theorem lexemesFrom_cons (c : Char) (rest : List Char) :
    lexemesFrom 0 (c :: rest) =
      lexemeAt c rest :: lexemesFrom 0 (rest.drop ((lexemeAt c rest).text.length - 1)) := by
  rw [lexemesFrom, lexemesFrom_eq_drop]

/-- The lexemes spell the text. -/
theorem flatMap_text_lexemesFrom (text : List Char) :
    (lexemesFrom 0 text).flatMap (·.text) = text := by
  match text with
  | [] => rfl
  | c :: rest =>
    obtain ⟨tail, ht, hp⟩ := exists_text_lexemeAt c rest
    rw [lexemesFrom_cons, List.flatMap_cons, flatMap_text_lexemesFrom, ht]
    simpa using (List.prefix_iff_eq_append.1 hp)
termination_by text.length
decreasing_by
  rw [List.length_drop, List.length_cons]
  omega

theorem tokenize_flatMap_text (body : String) :
    (tokenize body).flatMap (·.text) = body.toList :=
  flatMap_text_lexemesFrom body.toList

end Token

/-! ## Positions -/

namespace Lexeme

/-- The number of bytes that a text takes in UTF-8. -/
def byteLength (text : List Char) : Nat := (String.ofList text).utf8ByteSize

/-- The bytes at which each lexeme starts and ends, the first one starting at `start`. -/
def spansFrom (start : Nat) : List Lexeme → List (Nat × Nat)
  | [] => []
  | lexeme :: rest =>
    let stop := start + byteLength lexeme.text
    (start, stop) :: spansFrom stop rest

/-- The bytes at which each lexeme of a body starts and ends. -/
def spans (lexemes : List Lexeme) : List (Nat × Nat) := spansFrom 0 lexemes

/-- The text that lexemes spell. -/
def textOf (lexemes : List Lexeme) : String := String.ofList (lexemes.flatMap (·.text))

end Lexeme

end TextTemplate
