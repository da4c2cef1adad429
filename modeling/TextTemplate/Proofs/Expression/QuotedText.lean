import TextTemplate.Token

set_option autoImplicit false

/-! # Quoted texts

A quoted text is meant to end at the next quote of its kind that has no backslash in front of it, or
with the body, and to denote what stands in between without the backslashes that protect a character
(`Denotes`, `EndsAtQuote`). The lexer stops short of that at a backslash that has a line feed behind
it or nothing at all: such a backslash protects nothing, and the text is left open in front of it.

Main statement: `endsAtQuote_iff`. The lexeme at a quote is the one that is meant exactly when no
such backslash stands in the text (`looseBackslash`). -/

namespace TextTemplate.Token

variable {quote : Char} {escapable : Char → Prop} {text written content behind : List Char}

/-! ## What is written between quotes -/

/-- What is written behind an opening `quote`, short of a closing one, and the text that it denotes.
A backslash makes the character behind it part of the text, if that is `escapable`. -/
inductive Denotes (quote : Char) (escapable : Char → Prop) : List Char → List Char → Prop
  | nil : Denotes quote escapable [] []
  | plain {c : Char} {written content : List Char} : c ≠ quote → c ≠ '\\' →
      Denotes quote escapable written content → Denotes quote escapable (c :: written) (c :: content)
  | escaped {c : Char} {written content : List Char} : escapable c →
      Denotes quote escapable written content →
      Denotes quote escapable ('\\' :: c :: written) (c :: content)

/-- What is written up to the end of the body, without a closing quote. A backslash with nothing
behind it is dropped like any other. -/
def Unclosed (quote : Char) (text content : List Char) : Prop :=
  Denotes quote (fun _ => True) text content ∨
    ∃ written, text = written ++ ['\\'] ∧ Denotes quote (fun _ => True) written content

/-- The lexeme at `quote`, with `text` behind it, is the quoted text that is meant: it ends **at the
first quote without a backslash**, or with the body, and then it is the last lexeme. -/
structure EndsAtQuote (quote : Char) (text : List Char) (lexeme : Lexeme) (after : List Lexeme) :
    Prop where
  closed : ∀ written content behind, Denotes quote (fun _ => True) written content →
    text = written ++ quote :: behind → lexeme = ⟨.quoted content, quote :: (written ++ [quote])⟩
  unclosed : (∀ written content behind, Denotes quote (fun _ => True) written content →
    text ≠ written ++ quote :: behind) →
      ∃ content, Unclosed quote text content ∧ lexeme = ⟨.openQuoted content, quote :: text⟩
  last : ∀ content, lexeme.token = .openQuoted content → after = []

/-- Whether a backslash with a line feed or nothing behind it stands in front of the closing
quote. -/
def looseBackslash (quote : Char) : List Char → Bool
  | [] => false
  | [c] => c = '\\'
  | c :: d :: rest =>
    if c = quote then false
    else if c ≠ '\\' then looseBackslash quote (d :: rest)
    else d = '\n' || looseBackslash quote rest

theorem ne_backslash_of_isQuote (hquote : isQuote quote = true) : quote ≠ '\\' := by
  rintro rfl
  cases hquote

/-- A text comes to its closing quote, or else to the end of the body. -/
theorem closed_or_unclosed (hquote : quote ≠ '\\') : ∀ text : List Char,
    (∃ written content behind, Denotes quote (fun _ => True) written content ∧
        text = written ++ quote :: behind) ∨ ∃ content, Unclosed quote text content
  | [] => .inr ⟨[], .inl .nil⟩
  | [c] => by
      by_cases hc : c = quote
      · exact .inl ⟨[], [], [], .nil, by rw [hc]; rfl⟩
      · by_cases hslash : c = '\\'
        · exact .inr ⟨[], .inr ⟨[], by rw [hslash]; rfl, .nil⟩⟩
        · exact .inr ⟨[c], .inl (.plain hc hslash .nil)⟩
  | c :: d :: rest => by
      by_cases hc : c = quote
      · exact .inl ⟨[], [], d :: rest, .nil, by rw [hc]; rfl⟩
      · by_cases hslash : c = '\\'
        · subst hslash
          rcases closed_or_unclosed hquote rest with ⟨written, content, behind, hw, rfl⟩ |
            ⟨content, hw | ⟨written, rfl, hw⟩⟩
          · exact .inl ⟨'\\' :: d :: written, d :: content, behind, .escaped trivial hw, rfl⟩
          · exact .inr ⟨d :: content, .inl (.escaped trivial hw)⟩
          · exact .inr ⟨d :: content, .inr ⟨'\\' :: d :: written, rfl, .escaped trivial hw⟩⟩
        · rcases closed_or_unclosed hquote (d :: rest) with ⟨written, content, behind, hw, htext⟩ |
            ⟨content, hw | ⟨written, htext, hw⟩⟩
          · rw [htext]
            exact .inl ⟨c :: written, c :: content, behind, .plain hc hslash hw, rfl⟩
          · exact .inr ⟨c :: content, .inl (.plain hc hslash hw)⟩
          · rw [htext]
            exact .inr ⟨c :: content, .inr ⟨c :: written, rfl, .plain hc hslash hw⟩⟩

/-! ## What the lexer reads -/

theorem quotedRun_plain {c : Char} (hc : c ≠ quote) (hslash : c ≠ '\\') (rest : List Char) :
    quotedRun quote (c :: rest) = (quotedRun quote rest).prepend [c] c := by
  cases rest with
  | nil => simp only [quotedRun, if_neg hc, if_neg hslash]; rfl
  | cons d rest => rw [quotedRun, if_neg hc, if_pos hslash]

theorem quotedRun_escaped {c : Char} (hquote : quote ≠ '\\') (hc : c ≠ '\n') (rest : List Char) :
    quotedRun quote ('\\' :: c :: rest) = (quotedRun quote rest).prepend ['\\', c] c := by
  rw [quotedRun, if_neg hquote.symm, if_neg (by simp), if_neg hc]

theorem quotedRun_quote (rest : List Char) :
    quotedRun quote (quote :: rest) = ⟨[quote], [], true⟩ := by
  cases rest with
  | nil => rw [quotedRun, if_pos rfl]
  | cons d rest => rw [quotedRun, if_pos rfl]

theorem quotedRun_loose (hquote : quote ≠ '\\') (hbehind : ∀ c ∈ behind.head?, c = '\n') :
    quotedRun quote ('\\' :: behind) = ⟨[], [], false⟩ := by
  cases behind with
  | nil => rw [quotedRun, if_neg hquote.symm, if_pos rfl]
  | cons c behind => rw [quotedRun, if_neg hquote.symm, if_neg (by simp), if_pos (hbehind c rfl)]

/-- **What is written without loose backslashes is read as what it denotes**, whatever follows. -/
theorem quotedRun_append (hquote : quote ≠ '\\') (h : Denotes quote (· ≠ '\n') written content)
    (rest : List Char) : quotedRun quote (written ++ rest) =
      ⟨written ++ (quotedRun quote rest).taken, content ++ (quotedRun quote rest).content,
        (quotedRun quote rest).closed⟩ := by
  induction h with
  | nil => rfl
  | plain hc hslash _ ih => rw [List.cons_append, quotedRun_plain hc hslash, ih]; rfl
  | escaped hc _ ih => rw [List.cons_append, List.cons_append, quotedRun_escaped hquote hc, ih]; rfl

theorem looseBackslash_plain {c : Char} (hc : c ≠ quote) (hslash : c ≠ '\\') (rest : List Char) :
    looseBackslash quote (c :: rest) = looseBackslash quote rest := by
  cases rest with
  | nil => exact decide_eq_false hslash
  | cons d rest => rw [looseBackslash, if_neg hc, if_pos hslash]

theorem looseBackslash_escaped (hquote : quote ≠ '\\') (c : Char) (rest : List Char) :
    looseBackslash quote ('\\' :: c :: rest) = (decide (c = '\n') || looseBackslash quote rest) := by
  rw [looseBackslash, if_neg hquote.symm, if_neg (by simp)]

/-- If no backslash is loose, then none escapes a line feed. -/
theorem Denotes.firm (hquote : quote ≠ '\\') (h : Denotes quote escapable written content)
    {rest : List Char} (hloose : looseBackslash quote (written ++ rest) = false) :
    Denotes quote (· ≠ '\n') written content ∧ looseBackslash quote rest = false := by
  induction h with
  | nil => exact ⟨.nil, hloose⟩
  | plain hc hslash _ ih =>
      rw [List.cons_append, looseBackslash_plain hc hslash] at hloose
      exact ⟨.plain hc hslash (ih hloose).1, (ih hloose).2⟩
  | escaped _ _ ih =>
      rw [List.cons_append, List.cons_append, looseBackslash_escaped hquote,
        Bool.or_eq_false_iff] at hloose
      obtain ⟨hc, hloose⟩ := hloose
      exact ⟨.escaped (of_decide_eq_false hc) (ih hloose).1, (ih hloose).2⟩

/-- The text up to its first loose backslash. -/
theorem exists_loose (hquote : quote ≠ '\\') : ∀ {text : List Char},
    looseBackslash quote text = true → ∃ written content behind,
      Denotes quote (· ≠ '\n') written content ∧ text = written ++ '\\' :: behind ∧
        ∀ c ∈ behind.head?, c = '\n'
  | [], h => by cases h
  | [c], h => by
      rw [looseBackslash, decide_eq_true_eq] at h
      exact ⟨[], [], [], .nil, by rw [h]; rfl, nofun⟩
  | c :: d :: rest, h => by
      rw [looseBackslash] at h
      split at h
      · cases h
      · next hc =>
        split at h
        · next hslash =>
          obtain ⟨written, content, behind, hw, htext, hbehind⟩ := exists_loose hquote h
          rw [htext]
          exact ⟨c :: written, c :: content, behind, .plain hc hslash hw, rfl, hbehind⟩
        · next hslash =>
          obtain rfl : c = '\\' := Decidable.not_not.1 hslash
          by_cases hd : d = '\n'
          · exact ⟨[], [], d :: rest, .nil, rfl, by rintro _ ⟨rfl⟩; exact hd⟩
          · have hrest : looseBackslash quote rest = true := by simpa [hd] using h
            obtain ⟨written, content, behind, hw, rfl, hbehind⟩ := exists_loose hquote hrest
            exact ⟨'\\' :: d :: written, d :: content, behind, .escaped hd hw, rfl, hbehind⟩

/-! ## The lexeme at a quote -/

theorem lexemeAt_quote (hquote : isQuote quote = true) (rest : List Char) :
    lexemeAt quote rest =
      ⟨if (quotedRun quote rest).closed then .quoted (quotedRun quote rest).content
        else .openQuoted (quotedRun quote rest).content, quote :: (quotedRun quote rest).taken⟩ := by
  have hcases : quote = '"' ∨ quote = '\'' := by simpa [isQuote] using hquote
  rw [lexemeAt]
  rcases hcases with rfl | rfl
  all_goals
    rw [if_neg (by decide), if_neg (by decide), if_neg (by decide), if_pos (by decide)]

theorem lexemeAt_closed (hquote : isQuote quote = true)
    (h : Denotes quote (· ≠ '\n') written content) (behind : List Char) :
    lexemeAt quote (written ++ quote :: behind) =
      ⟨.quoted content, quote :: (written ++ [quote])⟩ := by
  rw [lexemeAt_quote hquote, quotedRun_append (ne_backslash_of_isQuote hquote) h, quotedRun_quote,
    List.append_nil]
  rfl

theorem lexemeAt_unclosed (hquote : isQuote quote = true)
    (h : Denotes quote (· ≠ '\n') text content) :
    lexemeAt quote text = ⟨.openQuoted content, quote :: text⟩ := by
  have hrun := quotedRun_append (ne_backslash_of_isQuote hquote) h []
  rw [List.append_nil] at hrun
  rw [lexemeAt_quote hquote, hrun]
  simp [quotedRun]

theorem lexemeAt_loose (hquote : isQuote quote = true)
    (h : Denotes quote (· ≠ '\n') written content) (hbehind : ∀ c ∈ behind.head?, c = '\n') :
    lexemeAt quote (written ++ '\\' :: behind) = ⟨.openQuoted content, quote :: written⟩ := by
  have hne := ne_backslash_of_isQuote hquote
  rw [lexemeAt_quote hquote, quotedRun_append hne h, quotedRun_loose hne hbehind, List.append_nil,
    List.append_nil]
  rfl

/-- Without a loose backslash a quoted text is read to its quote, or else to the end. -/
theorem lexemeAt_of_firm (hquote : isQuote quote = true)
    (hfirm : looseBackslash quote text = false) :
    (∃ written content behind, Denotes quote (fun _ => True) written content ∧
        text = written ++ quote :: behind ∧
          lexemeAt quote text = ⟨.quoted content, quote :: (written ++ [quote])⟩) ∨
      ∃ content, Unclosed quote text content ∧
        lexemeAt quote text = ⟨.openQuoted content, quote :: text⟩ := by
  have hne := ne_backslash_of_isQuote hquote
  rcases closed_or_unclosed hne text with ⟨written, content, behind, hw, rfl⟩ | ⟨content, hun⟩
  · exact .inl ⟨written, content, behind, hw, rfl,
      lexemeAt_closed hquote (hw.firm hne hfirm).1 behind⟩
  · refine .inr ⟨content, hun, ?_⟩
    rcases hun with hw | ⟨written, rfl, hw⟩
    · exact lexemeAt_unclosed hquote (hw.firm hne (by rwa [List.append_nil])).1
    · -- a backslash at the end would be a loose one
      exact absurd (hw.firm hne hfirm).2 (by simp [looseBackslash])

/-- The lexemes from some position on are those of the text from there on. -/
theorem lexemesFrom_flatMap {before after : List Lexeme} (h : lexemesFrom 0 text = before ++ after) :
    lexemesFrom 0 (after.flatMap (·.text)) = after := by
  induction before generalizing text with
  | nil => rw [← List.nil_append after, ← h, flatMap_text_lexemesFrom]
  | cons lexeme before ih =>
      cases text with
      | nil => cases h
      | cons c rest =>
          rw [lexemesFrom_cons] at h
          exact ih (List.cons.inj h).2

/-- **A quoted text ends where it is meant to, unless a backslash in it is loose.** At every position
of every body where a quoted text starts: the lexeme ends at the first quote without a backslash, or
with the body, exactly if no backslash before that has a line feed or nothing behind it. With such a
backslash the text is left open in front of it, the backslash is junk, and the body goes on. -/
theorem endsAtQuote_iff {body : String} {before after : List Lexeme} {lexeme : Lexeme}
    (hbody : tokenize body = before ++ lexeme :: after) (hquote : isQuote quote = true)
    (htext : (lexeme :: after).flatMap (·.text) = quote :: text) :
    (EndsAtQuote quote text lexeme after ↔ looseBackslash quote text = false) ∧
      ∀ written content behind, Denotes quote (· ≠ '\n') written content →
        text = written ++ '\\' :: behind → (∀ c ∈ behind.head?, c = '\n') →
          lexeme = ⟨.openQuoted content, quote :: written⟩ ∧
            after = ⟨.junk, ['\\']⟩ :: lexemesFrom 0 behind := by
  have hne := ne_backslash_of_isQuote hquote
  have hlexemes := lexemesFrom_flatMap hbody
  rw [htext, lexemesFrom_cons] at hlexemes
  obtain ⟨rfl, rfl⟩ := List.cons.inj hlexemes
  have hloose : ∀ written content behind, Denotes quote (· ≠ '\n') written content →
      text = written ++ '\\' :: behind → (∀ c ∈ behind.head?, c = '\n') →
        lexemeAt quote text = ⟨.openQuoted content, quote :: written⟩ ∧
          lexemesFrom 0 (text.drop ((lexemeAt quote text).text.length - 1)) =
            ⟨.junk, ['\\']⟩ :: lexemesFrom 0 behind := by
    rintro written content behind hw rfl hbehind
    rw [lexemeAt_loose hquote hw hbehind]
    refine ⟨rfl, ?_⟩
    rw [List.length_cons, Nat.add_sub_cancel, List.drop_left, lexemesFrom_cons]
    rfl
  refine ⟨⟨fun hends => ?_, fun hfirm => ⟨?_, fun hopen => ?_, fun content htoken => ?_⟩⟩, hloose⟩
  · -- a text that is left open in front of a backslash is not the last lexeme
    rw [Bool.eq_false_iff]
    intro hnot
    obtain ⟨written, content, behind, hw, heq, hbehind⟩ := exists_loose hne hnot
    obtain ⟨hlexeme, hafter⟩ := hloose written content behind hw heq hbehind
    have hlast := hends.last content (by rw [hlexeme])
    cases hafter.symm.trans hlast
  · rintro written content behind hw rfl
    exact lexemeAt_closed hquote (hw.firm hne hfirm).1 behind
  · rcases lexemeAt_of_firm hquote hfirm with ⟨written, content, behind, hw, heq, -⟩ | hun
    · exact absurd heq (hopen written content behind hw)
    · exact hun
  · rcases lexemeAt_of_firm hquote hfirm with ⟨written, _, behind, -, -, hlexeme⟩ | ⟨_, -, hlexeme⟩
    · rw [hlexeme] at htoken
      cases htoken
    · rw [hlexeme, List.length_cons, Nat.add_sub_cancel, List.drop_length]
      rfl

/-- Both kinds of characters behind a backslash, and a line feed without one. -/
theorem endsAtQuote_closed :
    (tokenize "$a|f('it\\'s\n\\\\')" =
        [⟨.dollar, ['$']⟩, ⟨.word, ['a']⟩, ⟨.pipe, ['|']⟩, ⟨.word, ['f']⟩, ⟨.leftParen, ['(']⟩] ++
          ⟨.quoted "it's\n\\".toList, "'it\\'s\n\\\\'".toList⟩ :: [⟨.rightParen, [')']⟩]) ∧
      EndsAtQuote '\'' "it\\'s\n\\\\')".toList
        ⟨.quoted "it's\n\\".toList, "'it\\'s\n\\\\'".toList⟩ [⟨.rightParen, [')']⟩] := by
  have hbody : tokenize "$a|f('it\\'s\n\\\\')" =
      [⟨.dollar, ['$']⟩, ⟨.word, ['a']⟩, ⟨.pipe, ['|']⟩, ⟨.word, ['f']⟩, ⟨.leftParen, ['(']⟩] ++
        ⟨.quoted "it's\n\\".toList, "'it\\'s\n\\\\'".toList⟩ :: [⟨.rightParen, [')']⟩] := by
    decide +kernel
  exact ⟨hbody, (endsAtQuote_iff hbody rfl (by decide +kernel)).1.2 (by decide +kernel)⟩

/-- **A line feed behind a backslash ends a quoted text too early**: it is left open, and the body goes
on with the backslash. -/
theorem not_endsAtQuote_lineFeed :
    (tokenize "\"a\\\nb\"" =
        ⟨.openQuoted ['a'], ['"', 'a']⟩ :: [⟨.junk, ['\\']⟩, ⟨.blank, ['\n']⟩, ⟨.word, ['b']⟩,
          ⟨.openQuoted [], ['"']⟩]) ∧
      ¬ EndsAtQuote '"' "a\\\nb\"".toList ⟨.openQuoted ['a'], ['"', 'a']⟩
        [⟨.junk, ['\\']⟩, ⟨.blank, ['\n']⟩, ⟨.word, ['b']⟩, ⟨.openQuoted [], ['"']⟩] := by
  refine ⟨by decide +kernel, fun h => ?_⟩
  cases h.last ['a'] rfl

end TextTemplate.Token
