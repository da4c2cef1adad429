import TextTemplate.Proofs.Expression.Spelling

set_option autoImplicit false

/-! # Phrases are read as what they mean

A phrase is one way to write the expression that it denotes: what is written spells that expression
(`Phrase.spells`), and so it is read as that.

Main statement: `Phrase.complete_expression`. -/

namespace TextTemplate.Written

open TextTemplate.Token (lexemesFrom denotes_guarded)

/-! ## Integers -/

/-- An integer as a numeral. -/
def Numeral.figure (numeral : Numeral) : Figure := ⟨numeral.negative, numeral.digits, none, nofun⟩

theorem Numeral.text_figure (numeral : Numeral) : numeral.figure.text = numeral.text := by
  rw [Figure.text, Figure.sign, Figure.point, Numeral.text, Numeral.figure, Option.elim_none,
    List.append_nil]
  split
  · rfl
  · rfl

theorem Numeral.number_figure (numeral : Numeral) : numeral.figure.number = numeral.number :=
  if_pos numeral.fits

/-! ## Phrases -/

mutual

/-- **A phrase spells what it means.** -/
theorem Phrase.spells : ∀ phrase : Phrase, Spells (· ≠ '\n') phrase.text phrase.expression
  | .reference path steps chain => by
      rw [Phrase.text, Phrase.expression]
      exact .reference path (steps.spells chain.spells)
  | .quoted content chain => by
      have hcontent := denotes_guarded (by rfl : Token.isQuote '"' = true) content.toList
      have h := Spells.quoted (by rfl) hcontent chain.spells
      rw [String.ofList_toList] at h
      rw [Phrase.text, Phrase.expression]
      exact h
  | .integer numeral chain => by
      have h := Spells.number numeral.figure chain.spells
      rw [numeral.text_figure, numeral.number_figure] at h
      rw [Phrase.text, Phrase.expression]
      exact h
  | .word word chain => by
      rw [Phrase.text, Phrase.expression]
      exact .word word chain.spells
  | .call name slots chain => by
      rw [Phrase.text, Phrase.expression]
      exact .call name slots.spells chain.spells

theorem Steps.spells : ∀ (steps : Steps) {text : List Char} {operators : List Operator},
    SpellsChain (· ≠ '\n') text operators →
    SpellsSteps (· ≠ '\n') (steps.text ++ text) steps.attributes operators
  | .nil, text, operators, h => by
      rw [Steps.text, Steps.attributes, List.nil_append]
      exact .chain h
  | .key key more, text, operators, h => by
      rw [Steps.text, Steps.attributes, List.cons_append, List.append_assoc]
      exact .point (.key key) (more.spells h)
  | .index digits more, text, operators, h => by
      rw [Steps.text, Steps.attributes, List.cons_append, List.append_assoc]
      exact .point (.index digits) (more.spells h)
  | .computed path steps chain more, text, operators, h => by
      have hkey := Spells.reference path (steps.spells chain.spells)
      have hcomputed := SpellsSteps.computed hkey (more.spells h)
      rw [List.append_assoc, List.append_assoc] at hcomputed
      rw [Steps.text, Steps.attributes, List.cons_append, List.cons_append, List.append_assoc,
        List.append_assoc, List.append_assoc, List.cons_append]
      exact hcomputed

theorem Chain.spells : ∀ chain : Chain, SpellsChain (· ≠ '\n') chain.text chain.operators
  | .nil => by
      rw [Chain.text, Chain.operators]
      exact .nil
  | .operator name more => by
      rw [Chain.text, Chain.operators]
      exact .operator name more.spells
  | .call name slots more => by
      rw [Chain.text, Chain.operators]
      exact .call name slots.spells more.spells

theorem Slots.spells : ∀ slots : Slots, SpellsSlots (· ≠ '\n') slots.text slots.expressions
  | .close blank => by
      rw [Slots.text, Slots.expressions]
      exact .close blank
  | .null blank more => by
      rw [Slots.text, Slots.expressions]
      exact .null blank more.spells
  | .argument before phrase after more => by
      rw [Slots.text, Slots.expressions]
      exact .argument before after phrase.spells more.spells

end

/-- **A phrase is read as what it means**, up to what stands behind it. -/
theorem Phrase.reads (phrase : Phrase) {rest : List Char} (h : Text.StartsIn closers rest) :
    (Parser.expression "" (lexemesFrom 0 (phrase.text ++ rest))).Reads phrase.expression
      (lexemesFrom 0 rest) :=
  phrase.spells.reads h

/-- **The parser accepts its grammar and builds the intended tree.** Whatever the phrase, its text is
read to the end as the expression that the phrase denotes, without a fault. -/
theorem Phrase.complete_expression (phrase : Phrase) :
    (Parser.expression "" (Token.tokenize (String.ofList phrase.text))).Complete
      phrase.expression := by
  have hread := phrase.reads (Text.startsIn_nil closers)
  rw [List.append_nil] at hread
  rw [Token.tokenize, String.toList_ofList]
  exact hread.complete

example :
    let a : Name := ⟨['a'], List.cons_ne_nil _ _, List.all_eq_true.1 rfl⟩
    let zero : Digits := ⟨['0'], List.cons_ne_nil _ _, List.all_eq_true.1 rfl⟩
    let slots : Slots := .null ⟨[], List.all_eq_true.1 rfl⟩ (.close ⟨[' '], List.all_eq_true.1 rfl⟩)
    let steps : Steps := .index zero (.computed ⟨[], a⟩ .nil .nil .nil)
    (Phrase.reference ⟨[a], a⟩ steps (.call a slots .nil)).text = "$a:a.0[$a]|a(, )".toList :=
  rfl

end TextTemplate.Written
