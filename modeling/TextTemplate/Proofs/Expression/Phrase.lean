import TextTemplate.Expression.Parser
import TextTemplate.Proofs.Text.Guard

set_option autoImplicit false

/-! # Phrases

A phrase is an expression together with the way it is written. It starts with a variable, a quoted
text, an integer, a word or a call, and a chain of operators follows. What a phrase is made of carries
the proof that it may be written there, so every phrase has a text and denotes an expression; white
space around arguments and zeros in front of an integer are all that an expression does not tell about
its phrase. -/

namespace TextTemplate.Written

/-! ## Words and numbers -/

/-- White space around an argument, or none. -/
structure Blank where
  text : List Char
  isTokenBlank : ∀ c ∈ text, Text.isTokenBlank c = true

/-- A name: letters, digits, underscores and minus signs. -/
structure Name where
  text : List Char
  ne_nil : text ≠ []
  isWordChar : ∀ c ∈ text, Text.isWordChar c = true

/-- A name that does not start with a digit. -/
structure Key extends Name where
  not_digit : ∀ c ∈ text.head?, Text.isDigit c = false

/-- A name that starts neither with a digit nor with a minus sign and a digit. -/
structure Word extends Key where
  not_numeral : text.head? = some '-' → ∀ c ∈ text.tail.head?, Text.isDigit c = false

/-- A row of digits. -/
structure Digits where
  text : List Char
  ne_nil : text ≠ []
  isDigit : ∀ c ∈ text, Text.isDigit c = true

/-- The value of digits with a sign in front of them. -/
def Digits.value (digits : Digits) (negative : Bool) : Int :=
  if negative then -(Decimal.valueOfDigits digits.text : Int) else Decimal.valueOfDigits digits.text

/-- An integer of 64 bits. -/
structure Numeral where
  negative : Bool
  digits : Digits
  fits : Int64.minValue.toInt ≤ digits.value negative ∧
    digits.value negative ≤ Int64.maxValue.toInt

namespace Numeral

def text (numeral : Numeral) : List Char :=
  if numeral.negative then '-' :: numeral.digits.text else numeral.digits.text

/-- The number that is denoted. -/
def number (numeral : Numeral) : Number :=
  .integer (Int64.ofInt (numeral.digits.value numeral.negative))

end Numeral

/-- The name of a variable and the segments of its namespace. -/
structure Path where
  segments : List Name
  name : Name

/-- The name as a string. -/
def Name.string (name : Name) : String := String.ofList name.text

namespace Path

def text (path : Path) : List Char :=
  path.segments.flatMap (fun segment => segment.text ++ [':']) ++ path.name.text

/-- The namespace that is written, if one is. -/
def namespaceName (path : Path) : Option String :=
  if path.segments = [] then none else some (":".intercalate (path.segments.map Name.string))

end Path

/-! ## Phrases -/

mutual

/-- An operand and the operators behind it. -/
inductive Phrase
  /-- `$path` and the steps into its value. -/
  | reference (path : Path) (steps : Steps) (chain : Chain)
  /-- A text between double quotes. -/
  | quoted (content : String) (chain : Chain)
  | integer (numeral : Numeral) (chain : Chain)
  | word (word : Word) (chain : Chain)
  /-- `name(slots)` -/
  | call (name : Word) (slots : Slots) (chain : Chain)

/-- Steps into a value. -/
inductive Steps
  | nil
  /-- `.key` -/
  | key (key : Key) (rest : Steps)
  /-- `.digits` -/
  | index (digits : Digits) (rest : Steps)
  /-- `[$path…]`, with steps and operators of its own. -/
  | computed (path : Path) (steps : Steps) (chain : Chain) (rest : Steps)

/-- Operators one after the other. -/
inductive Chain
  | nil
  /-- `|name` -/
  | operator (name : Name) (rest : Chain)
  /-- `|name(slots)` -/
  | call (name : Name) (slots : Slots) (rest : Chain)

/-- Arguments, each with a comma behind it, and the closing parenthesis. -/
inductive Slots
  | close (blank : Blank)
  /-- A slot without an argument. -/
  | null (blank : Blank) (rest : Slots)
  | argument (before : Blank) (phrase : Phrase) (after : Blank) (rest : Slots)

end

/-! ## What is written -/

mutual

def Phrase.text : Phrase → List Char
  | .reference path steps chain => '$' :: (path.text ++ (steps.text ++ chain.text))
  | .quoted content chain =>
    '"' :: (Text.guarded ['\\', '"'] content.toList ++ '"' :: chain.text)
  | .integer numeral chain => numeral.text ++ chain.text
  | .word word chain => word.text ++ chain.text
  | .call name slots chain => name.text ++ '(' :: (slots.text ++ chain.text)

def Steps.text : Steps → List Char
  | .nil => []
  | .key key rest => '.' :: (key.text ++ rest.text)
  | .index digits rest => '.' :: (digits.text ++ rest.text)
  | .computed path steps chain rest =>
    '[' :: '$' :: (path.text ++ (steps.text ++ (chain.text ++ ']' :: rest.text)))

def Chain.text : Chain → List Char
  | .nil => []
  | .operator name rest => '|' :: (name.text ++ rest.text)
  | .call name slots rest => '|' :: (name.text ++ '(' :: (slots.text ++ rest.text))

def Slots.text : Slots → List Char
  | .close blank => blank.text ++ [')']
  | .null blank rest => blank.text ++ ',' :: rest.text
  | .argument before phrase after rest =>
    before.text ++ (phrase.text ++ (after.text ++ ',' :: rest.text))

end

/-! ## What is meant -/

mutual

/-- The expression that a phrase denotes. -/
def Phrase.expression : Phrase → Expression
  | .reference path steps chain =>
    ⟨.reference ⟨path.namespaceName, path.name.string, steps.attributes⟩, chain.operators⟩
  | .quoted content chain => ⟨.text content, chain.operators⟩
  | .integer numeral chain => ⟨.number numeral.number, chain.operators⟩
  | .word word chain => ⟨.word word.string, chain.operators⟩
  | .call name slots chain => ⟨.call, ⟨name.string, slots.expressions⟩ :: chain.operators⟩

def Steps.attributes : Steps → List Attribute
  | .nil => []
  | .key key rest => .key key.string :: rest.attributes
  | .index digits rest => .index (String.ofList digits.text) :: rest.attributes
  | .computed path steps chain rest =>
    .computed ⟨.reference ⟨path.namespaceName, path.name.string, steps.attributes⟩,
      chain.operators⟩ :: rest.attributes

def Chain.operators : Chain → List Operator
  | .nil => []
  | .operator name rest => ⟨name.string, []⟩ :: rest.operators
  | .call name slots rest => ⟨name.string, slots.expressions⟩ :: rest.operators

def Slots.expressions : Slots → List Expression
  | .close _ => []
  | .null _ rest => .null :: rest.expressions
  | .argument _ phrase _ rest => phrase.expression :: rest.expressions

end

end TextTemplate.Written
