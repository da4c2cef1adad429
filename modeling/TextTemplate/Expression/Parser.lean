import TextTemplate.Expression
import TextTemplate.Problem
import TextTemplate.Token

set_option autoImplicit false

/-! # Parsing expressions and tags

A recursive descent over the lexemes of one body. It never fails: a fault is noted, and parsing stops or skips
a lexeme. Every step returns the lexemes that are left together with a proof that they are a suffix of those it
was given (`Parsed.suffix`), which bounds the recursion; the loops over attributes, operators and arguments
each take at least one lexeme a round.

The grammar, in which an identifier is a row of letters, digits, underscores and minus signs:

    expression := operand ("|" operator)*
    operand    := "$" variable | quoted text | number | word "(" arguments | word
    variable   := identifier (":" identifier)* attribute*
    attribute  := "." step | "[" step "]"
    step       := "$" … | digits | identifier
    operator   := identifier ["(" arguments]
    tag        := identifier (blank identifier "=" expression)* [blank [identifier]]
-/

namespace TextTemplate

/-- What was read from the start of `input`, the lexemes left, and the faults found on the way. -/
structure Parsed (α : Type) (input : List Lexeme) where
  value : α
  rest : List Lexeme
  faults : List ParseFault
  suffix : rest <:+ input

namespace Parser

/-! ## Names, blanks and numbers -/

/-- Whether a lexeme can be part of an identifier. -/
def isNamePart (lexeme : Lexeme) : Bool :=
  match lexeme.token with
  | .word | .digits | .minus => true
  | _ => false

/-- Whether a lexeme can be part of a name with its namespace. -/
def isPathPart (lexeme : Lexeme) : Bool :=
  isNamePart lexeme || lexeme.token == .colon

/-- Whether a lexeme is white space. -/
def isBlank (lexeme : Lexeme) : Bool := lexeme.token == .blank

/-- The identifier at the start, possibly empty. -/
def identifier (lexemes : List Lexeme) : String := Lexeme.textOf (lexemes.takeWhile isNamePart)

/-- What follows the identifier at the start. -/
def afterIdentifier (lexemes : List Lexeme) : List Lexeme := lexemes.dropWhile isNamePart

/-- What follows the white space at the start. -/
def afterBlanks (lexemes : List Lexeme) : List Lexeme := lexemes.dropWhile isBlank

/-- The namespace and the name of a variable: the last colon separates them. A default namespace goes in front
of the one that is written. -/
def path (space : String) (lexemes : List Lexeme) : Option String × String :=
  let written := lexemes.takeWhile isPathPart |>.flatMap (·.text)
  let (explicit, name) :=
    match Text.splitLast? ':' written with
    | some (before, behind) => (some (String.ofList before), String.ofList behind)
    | none => (none, String.ofList written)
  let full :=
    if space = "" then explicit
    else
      match explicit with
      | some explicit => some s!"{space}:{explicit}"
      | none => some space
  (full, name)

/-- What follows the name of a variable. -/
def afterPath (lexemes : List Lexeme) : List Lexeme := lexemes.dropWhile isPathPart

/-- The point of a numeral and the digits behind it, and what follows. -/
def fraction : List Lexeme → List Char × List Lexeme
  | ⟨.dot, point⟩ :: ⟨.digits, digits⟩ :: rest => (point ++ digits, rest)
  | ⟨.dot, point⟩ :: rest => (point, rest)
  | rest => ([], rest)

/-- The numeral at the start and what follows it: an optional minus sign, digits, and at most one point with
optional digits. -/
def numeral? : List Lexeme → Option (List Char × List Lexeme)
  | ⟨.digits, digits⟩ :: rest => some (digits ++ (fraction rest).1, (fraction rest).2)
  | ⟨.minus, sign⟩ :: ⟨.digits, digits⟩ :: rest =>
    some (sign ++ digits ++ (fraction rest).1, (fraction rest).2)
  | _ => none

/-- The number that a numeral denotes. -/
def numberOf (numeral : List Char) : Number :=
  (Number.ofText? (String.ofList numeral)).getD (.integer 0)

theorem afterIdentifier_suffix (lexemes : List Lexeme) : afterIdentifier lexemes <:+ lexemes :=
  List.dropWhile_suffix _

theorem afterBlanks_suffix (lexemes : List Lexeme) : afterBlanks lexemes <:+ lexemes :=
  List.dropWhile_suffix _

theorem afterPath_suffix (lexemes : List Lexeme) : afterPath lexemes <:+ lexemes :=
  List.dropWhile_suffix _

theorem fraction_suffix (lexemes : List Lexeme) : (fraction lexemes).2 <:+ lexemes := by
  unfold fraction
  split
  · exact ⟨[_, _], rfl⟩
  · exact ⟨[_], rfl⟩
  · exact List.suffix_rfl

theorem numeral?_suffix {lexemes rest : List Lexeme} {numeral : List Char}
    (h : numeral? lexemes = some (numeral, rest)) : rest <:+ lexemes := by
  unfold numeral? at h
  split at h
  · cases h
    exact (fraction_suffix _).trans ⟨[_], rfl⟩
  · cases h
    exact (fraction_suffix _).trans ⟨[_, _], rfl⟩
  · cases h

/-- The bracket that closes an index, and what follows; a missing one is noted. -/
def closeIndex (lexemes : List Lexeme) : Parsed Unit lexemes :=
  match lexemes with
  | ⟨.rightBracket, _⟩ :: rest => ⟨(), rest, [], ⟨[_], rfl⟩⟩
  | rest => ⟨(), rest, [.unclosedIndex], List.suffix_rfl⟩

/-- Whether a parenthesis opens at the start. -/
def isCall (lexemes : List Lexeme) : Bool :=
  match lexemes with
  | ⟨.leftParen, _⟩ :: _ => true
  | _ => false

/-! ## Expressions -/

mutual

/-- The expression at the start. -/
def expression (space : String) (input : List Lexeme) : Parsed Expression input :=
  match input with
  | ⟨.dollar, _⟩ :: rest =>
    have := (afterPath_suffix rest).length_le
    match steps space (afterPath rest) with
    | ⟨attributes, behind, faults, suffix⟩ =>
      have := suffix.length_le
      let chain := operators space behind
      have fits := suffix.trans (afterPath_suffix rest)
      ⟨⟨.reference ⟨(path space rest).1, (path space rest).2, attributes⟩, chain.value⟩, chain.rest,
        faults ++ chain.faults, chain.suffix.trans (fits.trans (List.suffix_cons _ rest))⟩
  | ⟨.quoted content, _⟩ :: rest =>
    let chain := operators space rest
    ⟨⟨.text (String.ofList content), chain.value⟩, chain.rest, chain.faults,
      chain.suffix.trans (List.suffix_cons _ rest)⟩
  | ⟨.openQuoted content, _⟩ :: rest =>
    let chain := operators space rest
    ⟨⟨.text (String.ofList content), chain.value⟩, chain.rest, .unterminatedString :: chain.faults,
      chain.suffix.trans (List.suffix_cons _ rest)⟩
  | input =>
    match h : numeral? input with
    | some (numeral, rest) =>
      have := (numeral?_suffix h).length_le
      let chain := operators space rest
      ⟨⟨.number (numberOf numeral), chain.value⟩, chain.rest, chain.faults,
        chain.suffix.trans (numeral?_suffix h)⟩
    | none =>
      have fits := afterIdentifier_suffix input
      have := fits.length_le
      if identifier input ≠ "" ∧ isCall (afterIdentifier input) then
        match invocation space (identifier input) (afterIdentifier input) with
        | ⟨list, behind, faults, suffix⟩ =>
          have := suffix.length_le
          let chain := operators space behind
          ⟨⟨.call, ⟨identifier input, list⟩ :: chain.value⟩, chain.rest, faults ++ chain.faults,
            chain.suffix.trans (suffix.trans fits)⟩
      else
        let chain := operators space (afterIdentifier input)
        ⟨⟨.word (identifier input), chain.value⟩, chain.rest, chain.faults, chain.suffix.trans fits⟩
termination_by 3 * input.length + 1

/-- The steps into a value at the start. -/
def steps (space : String) (input : List Lexeme) : Parsed (List Attribute) input :=
  match input with
  | ⟨.dot, _⟩ :: rest =>
    match step space rest with
    | ⟨first, behind, faults, suffix⟩ =>
      have := suffix.length_le
      let more := steps space behind
      ⟨first :: more.value, more.rest, faults ++ more.faults,
        more.suffix.trans (suffix.trans (List.suffix_cons _ rest))⟩
  | ⟨.leftBracket, _⟩ :: rest =>
    match step space rest with
    | ⟨first, behind, faults, suffix⟩ =>
      have := suffix.length_le
      have := (closeIndex behind).suffix.length_le
      let more := steps space (closeIndex behind).rest
      have fits := (closeIndex behind).suffix.trans suffix
      ⟨first :: more.value, more.rest, faults ++ ((closeIndex behind).faults ++ more.faults),
        more.suffix.trans (fits.trans (List.suffix_cons _ rest))⟩
  | input => ⟨[], input, [], List.suffix_rfl⟩
termination_by 3 * input.length

/-- One step, behind its point or bracket. -/
def step (space : String) (input : List Lexeme) : Parsed Attribute input :=
  match input with
  | ⟨.dollar, text⟩ :: rest =>
    let key := expression space (⟨.dollar, text⟩ :: rest)
    ⟨.computed key.value, key.rest, key.faults, key.suffix⟩
  | ⟨.digits, digits⟩ :: rest =>
    ⟨.index (String.ofList digits), rest, [], List.suffix_cons _ rest⟩
  | input => ⟨.key (identifier input), afterIdentifier input, [], afterIdentifier_suffix input⟩
termination_by 3 * input.length + 2

/-- The chain of operators at the start. -/
def operators (space : String) (input : List Lexeme) : Parsed (List Operator) input :=
  match input with
  | ⟨.pipe, _⟩ :: rest =>
    have := (afterIdentifier_suffix rest).length_le
    match invocation space (identifier rest) (afterIdentifier rest) with
    | ⟨list, behind, faults, suffix⟩ =>
      have := suffix.length_le
      let more := operators space behind
      have fits := suffix.trans (afterIdentifier_suffix rest)
      ⟨⟨identifier rest, list⟩ :: more.value, more.rest, faults ++ more.faults,
        more.suffix.trans (fits.trans (List.suffix_cons _ rest))⟩
  | input => ⟨[], input, [], List.suffix_rfl⟩
termination_by 3 * input.length

/-- What follows the name of `operator`: its arguments, if a parenthesis opens there. -/
def invocation (space operator : String) (input : List Lexeme) : Parsed (List Expression) input :=
  match input with
  | ⟨.leftParen, _⟩ :: rest =>
    let list := arguments space operator rest
    ⟨list.value, list.rest, list.faults, list.suffix.trans (List.suffix_cons _ rest)⟩
  | input => ⟨[], input, [], List.suffix_rfl⟩
termination_by 3 * input.length

/-- The arguments of `operator`, behind the opening parenthesis. An empty slot is a null expression. -/
def arguments (space operator : String) (input : List Lexeme) : Parsed (List Expression) input :=
  match h : afterBlanks input with
  | [] => ⟨[], [], [.parameterTerminator operator ""], List.nil_suffix⟩
  | ⟨.rightParen, _⟩ :: rest =>
    ⟨[], rest, [], (List.suffix_cons _ rest).trans (h ▸ afterBlanks_suffix input)⟩
  | ⟨.comma, text⟩ :: rest =>
    have fits : ⟨.comma, text⟩ :: rest <:+ input := h ▸ afterBlanks_suffix input
    have : rest.length < input.length := fits.length_le
    let more := arguments space operator rest
    ⟨.null :: more.value, more.rest, more.faults,
      more.suffix.trans ((List.suffix_cons _ rest).trans fits)⟩
  | start =>
    have fits : start <:+ input := h ▸ afterBlanks_suffix input
    have := fits.length_le
    let first := expression space start
    match h : afterBlanks first.rest with
    | [] => ⟨[first.value], [], first.faults ++ [.parameterTerminator operator ""], List.nil_suffix⟩
    | ⟨.rightParen, text⟩ :: rest =>
      have fits' : ⟨.rightParen, text⟩ :: rest <:+ input :=
        (h ▸ afterBlanks_suffix first.rest).trans (first.suffix.trans fits)
      ⟨[first.value], rest, first.faults, (List.suffix_cons _ rest).trans fits'⟩
    | ⟨.comma, text⟩ :: rest =>
      have fits' : ⟨.comma, text⟩ :: rest <:+ input :=
        (h ▸ afterBlanks_suffix first.rest).trans (first.suffix.trans fits)
      have : rest.length < input.length := fits'.length_le
      let more := arguments space operator rest
      ⟨first.value :: more.value, more.rest, first.faults ++ more.faults,
        more.suffix.trans ((List.suffix_cons _ rest).trans fits')⟩
    | ⟨token, text⟩ :: rest =>
      have fits' : ⟨token, text⟩ :: rest <:+ input :=
        (h ▸ afterBlanks_suffix first.rest).trans (first.suffix.trans fits)
      have : rest.length < input.length := fits'.length_le
      let more := arguments space operator rest
      ⟨first.value :: more.value, more.rest,
        first.faults ++ .parameterTerminator operator (String.ofList (text.take 1)) :: more.faults,
        more.suffix.trans ((List.suffix_cons _ rest).trans fits')⟩
termination_by 3 * input.length + 2
decreasing_by all_goals omega

end

/-! ## Tags -/

/-- The parameters of `tag` at the start, added to those read before. A malformed parameter ends the list, and
so does a name without a value at the very end of the body. -/
def parameters (space tag : String) (input : List Lexeme) (before : Arguments) :
    Parsed Arguments input :=
  match input with
  | [] => ⟨before, [], [], List.suffix_rfl⟩
  | first :: behind =>
    if !isBlank first then
      ⟨before, first :: behind, [.expectedWhitespace (Lexeme.textOf (first :: behind))],
        List.suffix_rfl⟩
    else
      have fits := (afterIdentifier_suffix (afterBlanks (first :: behind))).trans
        (afterBlanks_suffix (first :: behind))
      match h : afterIdentifier (afterBlanks (first :: behind)) with
      | [] => ⟨before, [], [], List.nil_suffix⟩
      | next :: rest =>
        let name := identifier (afterBlanks (first :: behind))
        if name = "" ∨ next.token ≠ .equals then
          ⟨before, next :: rest, [.invalidParameter tag (Lexeme.textOf (next :: rest))], h ▸ fits⟩
        else
          let value := expression space rest
          have fits' : next :: rest <:+ first :: behind := h ▸ fits
          have : (expression space rest).rest.length < (first :: behind).length :=
            Nat.lt_of_le_of_lt value.suffix.length_le fits'.length_le
          let more := parameters space tag value.rest (before.set name value.value)
          ⟨more.value, more.rest, value.faults ++ more.faults,
            more.suffix.trans (value.suffix.trans ((List.suffix_cons _ rest).trans fits'))⟩
termination_by input.length
decreasing_by exact this

/-- The name of a tag and its parameters. -/
def tag (space : String) (input : List Lexeme) : Parsed (String × Arguments) input :=
  let list := parameters space (identifier input) (afterIdentifier input) ∅
  ⟨(identifier input, list.value), list.rest, list.faults,
    list.suffix.trans (afterIdentifier_suffix input)⟩

/-! ## A cursor

A body that is read step by step, by whoever wants to read it. -/

/-- A body and the part of it that is still to be read. -/
structure Cursor where
  whole : List Lexeme
  rest : List Lexeme
  suffix : rest <:+ whole

namespace Cursor

/-- The cursor at the start of a body. -/
def ofBody (body : String) : Cursor := ⟨Token.tokenize body, Token.tokenize body, List.suffix_rfl⟩

/-- The cursor behind what was parsed. -/
def moveTo {α : Type} (cursor : Cursor) (parsed : Parsed α cursor.rest) : Cursor :=
  ⟨cursor.whole, parsed.rest, parsed.suffix.trans cursor.suffix⟩

/-- Whether everything has been read. -/
def isAtEnd (cursor : Cursor) : Bool := cursor.rest.isEmpty

/-- The text that is still to be read. -/
def ahead (cursor : Cursor) : String := Lexeme.textOf cursor.rest

/-- The lexemes that have been read. -/
def passedLexemes (cursor : Cursor) : List Lexeme :=
  cursor.whole.take (cursor.whole.length - cursor.rest.length)

/-- The text that has been read. -/
def passed (cursor : Cursor) : String := Lexeme.textOf cursor.passedLexemes

/-- The byte at which the unread text starts. -/
def offset (cursor : Cursor) : Nat :=
  Lexeme.byteLength (cursor.passedLexemes.flatMap (·.text))

theorem passedLexemes_append_rest (cursor : Cursor) :
    cursor.passedLexemes ++ cursor.rest = cursor.whole :=
  List.suffix_iff_eq_append.1 cursor.suffix

end Cursor

/-- The identifier at the start, as a step of a cursor. -/
def takeIdentifier (input : List Lexeme) : Parsed String input :=
  ⟨identifier input, afterIdentifier input, [], afterIdentifier_suffix input⟩

/-- Passes the white space at the start and tells whether there was any. -/
def skipBlanks (input : List Lexeme) : Parsed Bool input :=
  ⟨input.head?.any isBlank, afterBlanks input, [], afterBlanks_suffix input⟩

end Parser

end TextTemplate
