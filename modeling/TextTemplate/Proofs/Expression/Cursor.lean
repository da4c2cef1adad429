import Mathlib.Data.List.Forall2
import TextTemplate.Proofs.Expression.Loop
import TextTemplate.Proofs.Expression.Name

set_option autoImplicit false

/-! # The cursor of the parser

The parser works on lexemes, and everything it says about a body is put in bytes: where a fault is, what has been
read and what is left. That rests on two things. The spans of the lexemes lie one behind the other and cover the
body, each on the boundaries of characters (`contiguous_spans`, `occupies_spans`). And whatever the parser is
asked to read, its position only grows, up to the number of lexemes (`Cursor.sound_answerAll`,
`Cursor.position_le_answerAll`).

Main statement: `Parser.cursor_invariant`. -/

namespace TextTemplate

/-! ## Spans -/

namespace Lexeme

/-- Spans one behind the other, from `start` to `finish`; none is empty. -/
inductive Contiguous : (start : Nat) → List (Nat × Nat) → (finish : Nat) → Prop
  | nil (place : Nat) : Contiguous place [] place
  | cons {start stop finish : Nat} {spans : List (Nat × Nat)} (h : start < stop)
    (more : Contiguous stop spans finish) : Contiguous start ((start, stop) :: spans) finish

/-- A lexeme stands in a body at this span, and both ends of the span are boundaries of characters. -/
structure Occupies (body : String) (lexeme : Lexeme) (span : Nat × Nat) : Prop where
  exists_around : ∃ before behind : String, body = before ++ String.ofList lexeme.text ++ behind ∧
    span = (before.utf8ByteSize, (before ++ String.ofList lexeme.text).utf8ByteSize)
  isValid_start : String.Pos.Raw.IsValid body ⟨span.1⟩
  isValid_stop : String.Pos.Raw.IsValid body ⟨span.2⟩

theorem byteLength_append (text text' : List Char) :
    byteLength (text ++ text') = byteLength text + byteLength text' := by
  rw [byteLength, String.ofList_append, String.utf8ByteSize_append]
  rfl

theorem byteLength_pos {text : List Char} (h : text ≠ []) : 0 < byteLength text := by
  refine Nat.pos_of_ne_zero fun hzero => h ?_
  rw [byteLength, String.utf8ByteSize_eq_zero_iff, String.ofList_eq_empty_iff] at hzero
  exact hzero

/-- The end of a part in front is a boundary of characters. -/
theorem isValid_of_append {body before behind : String} (h : body = before ++ behind) :
    String.Pos.Raw.IsValid body ⟨before.utf8ByteSize⟩ := by
  rw [h]
  exact String.Pos.Raw.isValid_rawEndPos.append_right behind

/-- The spans of lexemes that are not empty cover what the lexemes spell. -/
theorem contiguous_spansFrom {lexemes : List Lexeme} (h : ∀ lexeme ∈ lexemes, lexeme.text ≠ []) :
    ∀ start, Contiguous start (spansFrom start lexemes)
      (start + byteLength (lexemes.flatMap (·.text))) := by
  induction lexemes with
  | nil => exact fun start => .nil start
  | cons lexeme rest ih =>
      intro start
      obtain ⟨hlexeme, hrest⟩ := List.forall_mem_cons.1 h
      have hstop : start < start + byteLength lexeme.text := Nat.lt_add_of_pos_right (byteLength_pos hlexeme)
      rw [List.flatMap_cons, byteLength_append, ← Nat.add_assoc]
      exact .cons hstop (ih hrest _)

/-- In a body that starts with `front`, the lexemes behind it stand at their spans. -/
theorem occupies_spansFrom {body : String} {lexemes : List Lexeme} :
    ∀ {front : List Char}, body.toList = front ++ lexemes.flatMap (·.text) →
      List.Forall₂ (Occupies body) lexemes (spansFrom (byteLength front) lexemes) := by
  -- what stands in front grows by each lexeme, and the next one starts where it ends
  induction lexemes with
  | nil => exact fun _ => .nil
  | cons lexeme rest ih =>
      intro front h
      rw [List.flatMap_cons, ← List.append_assoc] at h
      have hbody : body = String.ofList front ++ String.ofList lexeme.text ++ textOf rest := by
        rw [textOf, ← String.ofList_append, ← String.ofList_append, ← h, String.ofList_toList]
      have hstop : byteLength front + byteLength lexeme.text = byteLength (front ++ lexeme.text) :=
        (byteLength_append _ _).symm
      rw [spansFrom, hstop]
      refine .cons ⟨⟨_, _, hbody, ?_⟩, ?_, ?_⟩ (ih h)
      · rw [byteLength, byteLength, String.ofList_append]
      · exact isValid_of_append (hbody.trans (String.append_assoc ..))
      · dsimp only
        rw [byteLength, String.ofList_append]
        exact isValid_of_append hbody

end Lexeme

namespace Token

/-- **The spans of a body lie one behind the other and cover it**, and none is empty. -/
theorem contiguous_spans (body : String) :
    Lexeme.Contiguous 0 (Lexeme.spans (tokenize body)) body.utf8ByteSize := by
  have hne : ∀ lexeme ∈ tokenize body, lexeme.text ≠ [] := by
    intro lexeme hl
    obtain ⟨c, rest, -, rfl⟩ := exists_lexemeAt hl
    obtain ⟨tail, htext, -⟩ := exists_text_lexemeAt c rest
    rw [htext]
    exact List.cons_ne_nil _ _
  have hspans := Lexeme.contiguous_spansFrom hne 0
  rw [tokenize_flatMap_text, Nat.zero_add, Lexeme.byteLength, String.ofList_toList] at hspans
  exact hspans

/-- **Each lexeme of a body stands at its span.** -/
theorem occupies_spans (body : String) :
    List.Forall₂ (Lexeme.Occupies body) (tokenize body) (Lexeme.spans (tokenize body)) := by
  have hbody : body.toList = [] ++ (tokenize body).flatMap (·.text) := (tokenize_flatMap_text body).symm
  exact Lexeme.occupies_spansFrom hbody

end Token

/-! ## Positions -/

namespace Parser

/-- What a parser can be asked to read. -/
inductive Request
  | expression
  | tag
  | identifier
  | blanks

namespace Cursor

/-- The number of lexemes that have been read. -/
def position (cursor : Cursor) : Nat := cursor.passedLexemes.length

/-- The cursor behind what was asked for. -/
def answer (space : String) (cursor : Cursor) : Request → Cursor
  | .expression => cursor.moveTo (expression space cursor.rest)
  | .tag => cursor.moveTo (tag space cursor.rest)
  | .identifier => cursor.moveTo (takeIdentifier cursor.rest)
  | .blanks => cursor.moveTo (skipBlanks cursor.rest)

/-- The cursor behind some requests, one after the other. -/
def answerAll (space : String) (cursor : Cursor) (requests : List Request) : Cursor :=
  requests.foldl (answer space) cursor

/-- **What holds of a cursor in a body at all times**: the position does not pass the last lexeme; what has been read
and what is left make up the body; and the offset is the boundary of characters where the next lexeme starts, or
the end of the body. -/
structure Sound (body : String) (cursor : Cursor) : Prop where
  position_le : cursor.position ≤ (Token.tokenize body).length
  passed_append_ahead : cursor.passed ++ cursor.ahead = body
  offset_eq : cursor.offset =
    ((Lexeme.spans (Token.tokenize body))[cursor.position]?.map Prod.fst).getD body.utf8ByteSize
  size_passed : cursor.passed.utf8ByteSize = cursor.offset
  isValid_offset : String.Pos.Raw.IsValid body ⟨cursor.offset⟩

variable {body space : String} {cursor : Cursor}

theorem position_add_length (cursor : Cursor) :
    cursor.position + cursor.rest.length = cursor.whole.length := by
  rw [position, ← List.length_append, passedLexemes_append_rest]

/-- What is read is not given back. -/
theorem position_le_moveTo {α : Type} (cursor : Cursor) (parsed : Parsed α cursor.rest) :
    cursor.position ≤ (cursor.moveTo parsed).position := by
  have hbefore := cursor.position_add_length
  have hbehind := (cursor.moveTo parsed).position_add_length
  have hrest : (cursor.moveTo parsed).rest.length ≤ cursor.rest.length := parsed.suffix.length_le
  have hwhole : (cursor.moveTo parsed).whole = cursor.whole := rfl
  rw [hwhole] at hbehind
  omega

theorem whole_answer (space : String) (cursor : Cursor) (request : Request) :
    (cursor.answer space request).whole = cursor.whole := by
  cases request with
  | expression | tag | identifier | blanks => rfl

theorem position_le_answer (space : String) (cursor : Cursor) (request : Request) :
    cursor.position ≤ (cursor.answer space request).position := by
  cases request with
  | expression | tag | identifier | blanks => exact position_le_moveTo cursor _

theorem whole_answerAll (space : String) (cursor : Cursor) (requests : List Request) :
    (cursor.answerAll space requests).whole = cursor.whole := by
  induction requests generalizing cursor with
  | nil => rfl
  | cons request requests ih => exact (ih _).trans (whole_answer space cursor request)

/-- The position grows with the requests. -/
theorem position_le_answerAll (space : String) (cursor : Cursor) (requests : List Request) :
    cursor.position ≤ (cursor.answerAll space requests).position := by
  induction requests generalizing cursor with
  | nil => exact Nat.le_refl _
  | cons request requests ih => exact (position_le_answer space cursor request).trans (ih _)

/-- The span behind some lexemes starts where they end. -/
theorem spansFrom_getElem? (passed rest : List Lexeme) :
    ∀ start, ((Lexeme.spansFrom start (passed ++ rest))[passed.length]?.map Prod.fst).getD
        (start + Lexeme.byteLength ((passed ++ rest).flatMap (·.text)))
      = start + Lexeme.byteLength (passed.flatMap (·.text)) := by
  induction passed with
  | nil =>
      intro start
      cases rest with
      | nil => rfl
      | cons lexeme rest => rfl
  | cons lexeme passed ih =>
      intro start
      rw [List.cons_append, List.flatMap_cons, List.flatMap_cons, Lexeme.byteLength_append,
        Lexeme.byteLength_append, ← Nat.add_assoc, ← Nat.add_assoc, ← ih]
      rfl

/-- **A cursor in a body is sound.** -/
theorem sound_of_whole (h : cursor.whole = Token.tokenize body) : cursor.Sound body := by
  have hbody : cursor.passed ++ cursor.ahead = body := by
    calc cursor.passed ++ cursor.ahead
        = Lexeme.textOf (cursor.passedLexemes ++ cursor.rest) := by
          rw [passed, ahead, Lexeme.textOf, Lexeme.textOf, Lexeme.textOf, List.flatMap_append,
            String.ofList_append]
      _ = Lexeme.textOf (Token.tokenize body) := by rw [passedLexemes_append_rest, h]
      _ = body := by rw [Lexeme.textOf, Token.tokenize_flatMap_text, String.ofList_toList]
  have hposition := cursor.position_add_length
  have hoffset := spansFrom_getElem? cursor.passedLexemes cursor.rest 0
  rw [passedLexemes_append_rest, h, Token.tokenize_flatMap_text, Nat.zero_add, Nat.zero_add] at hoffset
  -- the offset is the length of what was read, so only its place among the spans has to be shown
  refine ⟨?_, hbody, ?_, rfl, Lexeme.isValid_of_append hbody.symm⟩
  · rw [← h]
    omega
  · rw [offset, ← hoffset, Lexeme.byteLength, String.ofList_toList]
    rfl

end Cursor

/-- **The cursor of the parser.** The spans of every body are contiguous, lie on boundaries of characters and
cover the body. After any requests, one after the other, the position has not passed the last lexeme, what was
read and what is left make up the body, and further requests never take the position back. And every round of the
loops of the parser ends the loop or takes a lexeme, so that all of them come to an end, on whatever lexemes. -/
theorem cursor_invariant (body space operator tag : String) :
    Lexeme.Contiguous 0 (Lexeme.spans (Token.tokenize body)) body.utf8ByteSize ∧
      List.Forall₂ (Lexeme.Occupies body) (Token.tokenize body) (Lexeme.spans (Token.tokenize body)) ∧
      (∀ requests more : List Request,
        ((Cursor.ofBody body).answerAll space requests).Sound body ∧
          ((Cursor.ofBody body).answerAll space requests).position ≤
            ((Cursor.ofBody body).answerAll space (requests ++ more)).position) ∧
      Runs (argumentRound space operator) (argumentsFrom space operator) ∧
      Runs (stepRound space) (stepsFrom space) ∧
      Runs (operatorRound space) (operatorsFrom space) ∧
      Runs (parameterRound space tag) (parametersFrom space tag) := by
  refine ⟨Token.contiguous_spans body, Token.occupies_spans body, fun requests more => ⟨?_, ?_⟩,
    runs_arguments space operator, runs_steps space, runs_operators space, runs_parameters space tag⟩
  · exact Cursor.sound_of_whole (Cursor.whole_answerAll space (Cursor.ofBody body) requests)
  · rw [Cursor.answerAll, Cursor.answerAll, List.foldl_append]
    exact Cursor.position_le_answerAll space _ more

end Parser

end TextTemplate
