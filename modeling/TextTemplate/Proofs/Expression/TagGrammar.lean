import TextTemplate.Proofs.Data.Table
import TextTemplate.Proofs.Expression.DefaultSpace
import TextTemplate.Proofs.Expression.Firm

set_option autoImplicit false

/-! # Tags

A tag is a name and parameters, each with white space in front of it, a key, an equals sign and a text
that spells an expression. White space may follow, and so may a name without a value, which is
dropped.

Main statements: `Tag.complete_tag_iff`, that a tag is read as what is written unless a quoted text in
it has a backslash in front of a line feed, and `Tag.blanks_ignored_iff`, that then white space behind
it makes no difference unless it stands behind a name without a value. Both are about what is read
behind the parameters, whatever that is (`Tag.sameAs`). -/

namespace TextTemplate

theorem Parsed.SameAs.map {α β : Type} {input input' : List Lexeme} {parsed : Parsed α input}
    {parsed' : Parsed α input'} (h : parsed.SameAs parsed') (f : α → β) :
    (parsed.map f).SameAs (parsed'.map f) :=
  ⟨congrArg f h.value_eq, h.rest_eq, h.faults_eq⟩

theorem Parsed.Reads.map {α β : Type} {input rest : List Lexeme} {parsed : Parsed α input} {value : α}
    (h : parsed.Reads value rest) (f : α → β) : (parsed.map f).Reads (f value) rest :=
  ⟨congrArg f h.value_eq, h.rest_eq, h.faults_eq⟩

theorem Parser.sameAs_tag {space name : String} {input tail : List Lexeme}
    (hname : identifier input = name) (htail : afterIdentifier input = tail) :
    (tag space input).SameAs ((parameters space name tail ∅).map (Prod.mk name)) := by
  subst hname htail
  exact ⟨rfl, rfl, rfl⟩

namespace Written

open TextTemplate.Parser
open TextTemplate.Token (lexemesFrom ofChar? lexemesFrom_mark lexemesFrom_blanks)

/-! ## What is written -/

/-- White space, and not none. -/
structure Gap extends Blank where
  ne_nil : text ≠ []

/-- A key and a value, with white space in front. -/
structure Parameter where
  gap : Gap
  key : Name
  written : List Char
  value : Expression
  spells : Spells (fun _ => True) written value

namespace Parameter

def text (parameter : Parameter) : List Char :=
  parameter.gap.text ++ (parameter.key.text ++ '=' :: parameter.written)

/-- No quoted text in the value has a backslash in front of a line feed. -/
def Firm (parameter : Parameter) : Prop := Spells (· ≠ '\n') parameter.written parameter.value

end Parameter

/-- A name without a value, with white space in front. -/
structure BareName where
  gap : Gap
  name : Name

def BareName.text (bare : BareName) : List Char := bare.gap.text ++ bare.name.text

/-- A name and parameters. -/
structure Tag where
  name : Name
  parameters : List Parameter

namespace Tag

def text (tag : Tag) : List Char := tag.name.text ++ tag.parameters.flatMap Parameter.text

/-- The parameters bound one after the other, below a default namespace. -/
def arguments (space : String) (tag : Tag) : Arguments :=
  .ofList (tag.parameters.map fun parameter =>
    (parameter.key.string, parameter.value.inSpace space))

/-- No quoted text in a value has a backslash in front of a line feed. -/
def Firm (tag : Tag) : Prop := ∀ parameter ∈ tag.parameters, parameter.Firm

end Tag

/-! ## Readings -/

variable {space : String} {rest : List Char}

/-- What spells an expression is read below a default namespace, too. -/
theorem Spells.reads_inSpace {text : List Char} {e : Expression} (h : Spells (· ≠ '\n') text e)
    (hrest : Text.StartsIn closers rest) :
    (expression space (lexemesFrom 0 (text ++ rest))).Reads (e.inSpace space)
      (lexemesFrom 0 rest) := by
  obtain ⟨hv, hr, hf⟩ := h.reads hrest
  rw [expression_eq_inSpace]
  exact ⟨congrArg (Expression.inSpace space) hv, hr, hf⟩

theorem Blank.startsIn_text (blank : Blank) : Text.StartsIn closers blank.text := by
  have h := blank.startsIn (Text.startsIn_nil closers)
  rwa [List.append_nil] at h

theorem Gap.startsIn (gap : Gap) (rest : List Char) : Text.StartsIn closers (gap.text ++ rest) := by
  intro c hc
  rw [List.head?_append_of_ne_nil _ gap.ne_nil] at hc
  exact gap.toBlank.startsIn_text c hc

/-- White space in front of something else is a lexeme of its own. -/
theorem Gap.lexemesFrom_eq (gap : Gap) {rest : List Char}
    (h : ∀ c ∈ rest.head?, Text.isTokenBlank c = false) :
    lexemesFrom 0 (gap.text ++ rest) = ⟨.blank, gap.text⟩ :: lexemesFrom 0 rest ∧
      afterBlanks (⟨.blank, gap.text⟩ :: lexemesFrom 0 rest) = lexemesFrom 0 rest := by
  have hlexemes := lexemesFrom_blanks gap.ne_nil gap.isTokenBlank h
  refine ⟨hlexemes, ?_⟩
  rw [← hlexemes]
  exact gap.afterBlanks_eq h

/-- No name starts with white space. -/
theorem Name.isTokenBlank_head (name : Name) (rest : List Char) :
    ∀ c ∈ (name.text ++ rest).head?, Text.isTokenBlank c = false := by
  obtain ⟨c, tail, htext, hword⟩ := name.exists_cons
  rw [htext]
  rintro _ ⟨rfl⟩
  exact isTokenBlank_of_not_mem_closers (not_mem_closers_of_isWordChar hword)

/-- What stands behind the key is a mark of its own. -/
theorem isWordChar_head_equals (rest : List Char) :
    ∀ c ∈ ('=' :: rest).head?, Text.isWordChar c = false := by
  rintro _ ⟨rfl⟩
  rfl

theorem Parameter.text_append (parameter : Parameter) (rest : List Char) :
    parameter.text ++ rest = parameter.gap.text ++
      (parameter.key.text ++ '=' :: (parameter.written ++ rest)) := by
  rw [Parameter.text, List.append_assoc, List.append_assoc, List.cons_append]

/-- **A parameter is read and bound**, and what stands behind it is read as if it had been bound
before. -/
theorem Parameter.sameAs {parameter : Parameter} (hfirm : parameter.Firm) (tag : String)
    (h : Text.StartsIn closers rest) (before : Arguments) :
    (parameters space tag (lexemesFrom 0 (parameter.text ++ rest)) before).SameAs
      (parameters space tag (lexemesFrom 0 rest)
        (before.set parameter.key.string (parameter.value.inSpace space))) := by
  have hequals := isWordChar_head_equals (parameter.written ++ rest)
  obtain ⟨hlexemes, hafter⟩ := parameter.gap.lexemesFrom_eq
    (parameter.key.isTokenBlank_head ('=' :: (parameter.written ++ rest)))
  obtain ⟨hname, htail⟩ := parameter.key.identifier_eq_of_head hequals
  rw [lexemesFrom_mark (by rfl : ofChar? '=' = some .equals)] at htail
  rw [parameter.text_append, hlexemes]
  rw [← hafter] at hname htail
  exact sameAs_parameters_cons rfl hname parameter.key.string_ne htail (hfirm.reads_inSpace h)

/-- A parameter that is recognized has no backslash in front of a line feed, and what stands behind
it is recognized too. -/
theorem Parameter.firm (parameter : Parameter) (h : Text.StartsIn closers rest)
    (hrec : Recognized (parameter.text ++ rest)) : parameter.Firm ∧ Recognized rest := by
  rw [parameter.text_append] at hrec
  have hkey := hrec.blank (parameter.key.isTokenBlank_head _)
  have hvalue := (hkey.name (isWordChar_head_equals _)).mark (by rfl)
  have hfirm := parameter.spells.firm h hvalue
  exact ⟨hfirm, hvalue.behind (suffix_of_reads_expression (hfirm.reads h))⟩

theorem startsIn_parameters (list : List Parameter) (h : Text.StartsIn closers rest) :
    Text.StartsIn closers (list.flatMap Parameter.text ++ rest) := by
  cases list with
  | nil => exact h
  | cons parameter list =>
      rw [List.flatMap_cons, Parameter.text, List.append_assoc, List.append_assoc]
      exact parameter.gap.startsIn _

/-- **Parameters are read and bound one after the other.** By induction over the parameters, with what
has been bound before as the invariant. -/
theorem sameAs_parameters {list : List Parameter} (hfirm : ∀ parameter ∈ list, parameter.Firm)
    (tag : String) (h : Text.StartsIn closers rest) (before : Arguments) :
    (parameters space tag (lexemesFrom 0 (list.flatMap Parameter.text ++ rest)) before).SameAs
      (parameters space tag (lexemesFrom 0 rest) (before.setAll (list.map fun parameter =>
        (parameter.key.string, parameter.value.inSpace space)))) := by
  induction list generalizing before with
  | nil => exact ⟨rfl, rfl, rfl⟩
  | cons parameter list ih =>
      obtain ⟨hfirst, hmore⟩ := List.forall_mem_cons.1 hfirm
      rw [List.flatMap_cons, List.append_assoc]
      exact (Parameter.sameAs hfirst tag (startsIn_parameters list h) before).trans (ih hmore _)

theorem firm_parameters {list : List Parameter} (h : Text.StartsIn closers rest)
    (hrec : Recognized (list.flatMap Parameter.text ++ rest)) :
    ∀ parameter ∈ list, parameter.Firm := by
  induction list with
  | nil => exact nofun
  | cons parameter list ih =>
      rw [List.flatMap_cons, List.append_assoc] at hrec
      obtain ⟨hfirst, hmore⟩ := parameter.firm (startsIn_parameters list h) hrec
      exact List.forall_mem_cons.2 ⟨hfirst, ih hmore⟩

namespace Tag

theorem isWordChar_head (tag : Tag) (h : Text.StartsIn closers rest) :
    ∀ c ∈ (tag.parameters.flatMap Parameter.text ++ rest).head?, Text.isWordChar c = false :=
  (startsIn_parameters tag.parameters h).head_eq_false (by rfl)

/-- A tag is read up to what stands behind its parameters. -/
theorem sameAs {tag : Tag} (hfirm : tag.Firm) (space : String) (h : Text.StartsIn closers rest) :
    (Parser.tag space (lexemesFrom 0 (tag.text ++ rest))).SameAs
      ((Parser.parameters space tag.name.string (lexemesFrom 0 rest) (tag.arguments space)).map
        (Prod.mk tag.name.string)) := by
  obtain ⟨hname, htail⟩ := tag.name.identifier_eq_of_head (tag.isWordChar_head h)
  rw [Tag.text, List.append_assoc]
  exact (sameAs_tag hname htail).trans ((sameAs_parameters hfirm tag.name.string h ∅).map _)

/-- If nothing is wrong with a tag, then no quoted text in it has a backslash in front of a line
feed. -/
theorem firm_of_complete (tag : Tag) {value : String × Arguments} (h : Text.StartsIn closers rest)
    (hcomplete : (Parser.tag space
      (Token.tokenize (String.ofList (tag.text ++ rest)))).Complete value) : tag.Firm := by
  have hfaults := hcomplete.faults_eq
  rw [Token.tokenize, String.toList_ofList] at hfaults
  obtain ⟨taken, hwell, htaken⟩ := (passes_afterIdentifier (lexemesFrom 0 (tag.text ++ rest))).trans
    (passes_parameters space _ _ ∅ hfaults).2
  rw [List.append_nil] at htaken
  have hrec : Recognized (tag.text ++ rest) := by
    rw [Recognized, htaken]
    exact hwell.recognized
  rw [Tag.text, List.append_assoc] at hrec
  exact firm_parameters h (hrec.name (tag.isWordChar_head h))

/-- A tag is read in full, if nothing is bound behind its parameters. -/
theorem complete {tag : Tag} (hfirm : tag.Firm) (h : Text.StartsIn closers rest)
    (hbehind : (Parser.parameters space tag.name.string (lexemesFrom 0 rest)
      (tag.arguments space)).Reads (tag.arguments space) []) :
    (Parser.tag space (Token.tokenize (String.ofList (tag.text ++ rest)))).Complete
      (tag.name.string, tag.arguments space) := by
  rw [Token.tokenize, String.toList_ofList]
  exact ((hbehind.map _).of_sameAs (sameAs hfirm space h)).complete

end Tag

/-! ## The end of a tag -/

/-- White space at the end is passed. -/
theorem Blank.reads_parameters (blank : Blank) (tag : String) (before : Arguments) :
    (parameters space tag (lexemesFrom 0 blank.text) before).Reads before [] := by
  by_cases hne : blank.text = []
  · rw [hne]
    exact reads_parameters_nil
  · obtain ⟨hlexemes, hafter⟩ := @Gap.lexemesFrom_eq ⟨blank, hne⟩ [] nofun
    rw [List.append_nil] at hlexemes
    rw [hlexemes]
    exact reads_parameters_end rfl (by rw [hafter]; rfl)

/-- A name without a value is dropped, if it stands at the very end. -/
theorem BareName.reads_parameters (bare : BareName) (tag : String) (before : Arguments) :
    (parameters space tag (lexemesFrom 0 bare.text) before).Reads before [] := by
  have hname := (@Name.identifier_eq_of_head [] bare.name nofun).2
  obtain ⟨hlexemes, hafter⟩ := bare.gap.lexemesFrom_eq (bare.name.isTokenBlank_head [])
  rw [List.append_nil] at hname hlexemes hafter
  rw [BareName.text, hlexemes]
  exact reads_parameters_end rfl (by rw [hafter, hname]; rfl)

/-- A name without a value in front of white space is not at the very end, so it is taken for a
parameter. -/
theorem BareName.parameters_gap (bare : BareName) (gap : Gap) (tag : String) (before : Arguments) :
    (parameters space tag (lexemesFrom 0 (bare.text ++ gap.text)) before).value = before ∧
      (parameters space tag (lexemesFrom 0 (bare.text ++ gap.text)) before).faults =
        [.invalidParameter tag (String.ofList gap.text)] := by
  have hblank := (@Gap.lexemesFrom_eq gap [] nofun).1
  rw [List.append_nil] at hblank
  have hname := (bare.name.identifier_eq_of_head (gap.startsIn_text.head_eq_false (by rfl))).2
  obtain ⟨hlexemes, hafter⟩ := bare.gap.lexemesFrom_eq (bare.name.isTokenBlank_head gap.text)
  rw [← hafter, hblank] at hname
  rw [BareName.text, List.append_assoc, hlexemes]
  obtain ⟨hv, hf⟩ := parameters_invalid space tag before rfl hname nofun
  exact ⟨hv, hf.trans (by simp [Lexeme.textOf, lexemesFrom])⟩

namespace Tag

/-- **A tag is read as what is written**: its name, and its parameters, bound in order. A key that
stands there again keeps its place and takes the later value. It is so whatever white space stands at
the end, unless a quoted text has a backslash in front of a line feed. -/
theorem complete_tag_iff (tag : Tag) (blank : Blank) (space : String) :
    ((Parser.tag space (Token.tokenize (String.ofList (tag.text ++ blank.text)))).Complete
        (tag.name.string, tag.arguments space) ↔ tag.Firm) ∧
      (tag.arguments space).keys = (tag.parameters.map (·.key.string)).eraseDups ∧
      ∀ key, (tag.arguments space).get? key =
        ((tag.parameters.filter (·.key.string = key)).getLast?).map (·.value.inSpace space) := by
  refine ⟨⟨tag.firm_of_complete blank.startsIn_text, fun hfirm => ?_⟩, ?_, fun key => ?_⟩
  · exact complete hfirm blank.startsIn_text (blank.reads_parameters _ _)
  · rw [arguments, Table.keys_ofList, List.map_map]
    rfl
  · rw [arguments, Table.get?_ofList, List.filter_map, List.getLast?_map, Option.map_map]
    rfl

example : (Parser.tag "" (Token.tokenize "f b=\"x, y = z\" a=g(-2.50, |h) b='\\''\n")).value.2.keys =
    ["b", "a"] := by decide +kernel

/-- A tag whose only parameter is a quoted text with a line feed behind a backslash. -/
def escapedLineFeed : Tag where
  name := ⟨['f'], nofun, List.all_eq_true.1 rfl⟩
  parameters := [{
    gap := ⟨⟨[' '], List.all_eq_true.1 rfl⟩, nofun⟩
    key := ⟨['a'], nofun, List.all_eq_true.1 rfl⟩
    written := ['"', '\\', '\n', '"']
    value := ⟨.text "\n", []⟩
    spells := .quoted (by rfl) (.escaped trivial .nil) .nil }]

/-- **A line feed behind a backslash keeps a tag from being read.** -/
theorem not_complete_escapedLineFeed :
    escapedLineFeed.text = "f a=\"\\\n\"".toList ∧
      ¬ (Parser.tag "" (Token.tokenize (String.ofList escapedLineFeed.text))).Complete
        (escapedLineFeed.name.string, escapedLineFeed.arguments "") := by
  refine ⟨rfl, fun h => ?_⟩
  exact absurd h.faults_eq (by decide +kernel)

/-! ## White space behind a tag -/

/-- A body is read as `value`, in full and without a fault, and so it is with white space behind
it. -/
structure BlanksIgnored (space : String) (body : List Char) (blank : Blank)
    (value : String × Arguments) : Prop where
  alone : (Parser.tag space (Token.tokenize (String.ofList body))).Complete value
  padded : (Parser.tag space (Token.tokenize (String.ofList (body ++ blank.text)))).Complete value

/-- A tag, and behind it a name without a value, if there is one. -/
def closedBy (tag : Tag) (bare : Option BareName) : List Char :=
  tag.text ++ bare.elim [] BareName.text

/-- White space behind a name without a value is a mistake, though nothing is bound or lost. -/
theorem padded_bareName {tag : Tag} (hfirm : tag.Firm) (bare : BareName) (gap : Gap)
    (space : String) :
    (Parser.tag space (lexemesFrom 0 (tag.text ++ (bare.text ++ gap.text)))).value =
        (tag.name.string, tag.arguments space) ∧
      (Parser.tag space (lexemesFrom 0 (tag.text ++ (bare.text ++ gap.text)))).faults =
        [.invalidParameter tag.name.string (String.ofList gap.text)] := by
  have hstart := bare.gap.startsIn (bare.name.text ++ gap.text)
  rw [← List.append_assoc] at hstart
  obtain ⟨hv, -, hf⟩ := sameAs hfirm space hstart
  obtain ⟨hvalue, hfaults⟩ := @BareName.parameters_gap space bare gap tag.name.string
    (tag.arguments space)
  exact ⟨hv.trans (congrArg (Prod.mk tag.name.string) hvalue), hf.trans hfaults⟩

theorem startsIn_bareName (bare : Option BareName) :
    Text.StartsIn closers (bare.elim [] BareName.text) := by
  cases bare with
  | none => exact Text.startsIn_nil closers
  | some bare => exact bare.gap.startsIn bare.name.text

/-- **White space behind a tag makes no difference**, unless it stands behind a name without a value,
or a quoted text has a backslash in front of a line feed. -/
theorem blanks_ignored_iff (tag : Tag) (bare : Option BareName) (blank : Blank) (space : String) :
    BlanksIgnored space (tag.closedBy bare) blank (tag.name.string, tag.arguments space) ↔
      tag.Firm ∧ (bare = none ∨ blank.text = []) := by
  have hstart := startsIn_bareName bare
  constructor
  · intro h
    have hfirm := tag.firm_of_complete hstart h.alone
    refine ⟨hfirm, ?_⟩
    cases bare with
    | none => exact .inl rfl
    | some bare =>
        refine .inr (Classical.byContradiction fun hne => ?_)
        have hpadded := h.padded.faults_eq
        rw [Token.tokenize, String.toList_ofList, closedBy, Option.elim_some, List.append_assoc,
          (padded_bareName hfirm bare ⟨blank, hne⟩ space).2] at hpadded
        cases hpadded
  · rintro ⟨hfirm, hcase⟩
    have halone : (Parser.tag space (Token.tokenize (String.ofList (tag.closedBy bare)))).Complete
        (tag.name.string, tag.arguments space) := by
      refine complete hfirm hstart ?_
      cases bare with
      | none => exact reads_parameters_nil
      | some bare => exact bare.reads_parameters _ _
    refine ⟨halone, ?_⟩
    rcases hcase with rfl | hempty
    · rw [closedBy, Option.elim_none, List.append_nil]
      exact complete hfirm blank.startsIn_text (blank.reads_parameters _ _)
    · rwa [hempty, List.append_nil]

/-- **White space behind a name without a value is noticed.** -/
theorem not_blanks_ignored_bareName :
    (Parser.tag "" (Token.tokenize "f a=1 b")).faults = [] ∧
      (Parser.tag "" (Token.tokenize "f a=1 b ")).faults = [.invalidParameter "f" " "] ∧
      ¬ BlanksIgnored "" "f a=1 b".toList ⟨[' '], List.all_eq_true.1 rfl⟩
        ("f", .ofList [("a", ⟨.number (.integer 1), []⟩)]) := by
  have hpadded : (Parser.tag "" (Token.tokenize "f a=1 b ")).faults =
      [.invalidParameter "f" " "] := by decide +kernel
  refine ⟨by decide +kernel, hpadded, fun h => ?_⟩
  cases hpadded.symm.trans h.padded.faults_eq

end Tag

end Written

end TextTemplate
