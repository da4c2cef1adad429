import Mathlib.Data.List.TakeWhile
import TextTemplate.Proofs.Element.Literal

set_option autoImplicit false

/-! # Layout, place by place

The layout walks over the elements with a flag, which says whether a tag was just passed, and jumps over
literal blocks. This file says the same without a walk: what the layout leaves of an element depends on the
element and on what stands before and behind it, and on nothing else.

`Place` is an element with its surroundings. `Place.openBlock?` reads off the elements before it which literal
block they leave open, `Place.shown` is what the layout leaves at the place, and `Place.warned` is what it has
to say there.

Main statement: `Element.layout_eq_places`. -/

namespace TextTemplate

/-- An element of a list, with what stands before and behind it. -/
structure Place where
  before : List Element
  element : Element
  after : List Element

namespace Place

/-- The places of some elements, in order; `before` stands before all of them. -/
def placesFrom (before : List Element) : List Element → List Place
  | [] => []
  | element :: after => ⟨before, element, after⟩ :: placesFrom (before ++ [element]) after

/-- The places of a list. -/
def places (elements : List Element) : List Place := placesFrom [] elements

/-! ## Open blocks -/

variable (delimiters : Delimiters) (isLiteral : String → Bool)

theorem isEndOf_iff {name : String} {element : Element} :
    Element.isEndOf name element = true ↔ element.kind = .tag .closing name := by
  unfold Element.isEndOf
  cases element.kind with
  | text | comment | expression => simp [BEq.beq, instBEqElementKind.beq]
  | tag form name' =>
      cases form <;> simp [BEq.beq, instBEqElementKind.beq, instBEqTagForm.beq, TagForm.ctorIdx]

/-- The open literal block behind one more element. -/
def blockBehind (block? : Option String) (element : Element) : Option String :=
  match block? with
  | none => Stretch.opened? isLiteral element
  | some name => if Element.isEndOf name element then none else some name

/-- The literal block that the elements leave open. A block ends with the first end tag of its name; until
then no other block is opened. -/
def openBlock? (elements : List Element) : Option String :=
  elements.foldl (blockBehind isLiteral) none

theorem openBlock?_concat (before : List Element) (element : Element) :
    openBlock? isLiteral (before ++ [element])
      = blockBehind isLiteral (openBlock? isLiteral before) element := by
  rw [openBlock?, List.foldl_concat, openBlock?]

/-- Elements without the end tag leave the block open. -/
theorem openBlock?_append {before inside : List Element} {name : String}
    (hopen : openBlock? isLiteral before = some name)
    (hinside : ∀ e ∈ inside, Element.isEndOf name e = false) :
    openBlock? isLiteral (before ++ inside) = some name := by
  induction inside generalizing before with
  | nil => rw [List.append_nil, hopen]
  | cons e inside ih =>
      have hnext : openBlock? isLiteral (before ++ [e]) = some name := by
        rw [openBlock?_concat, hopen, blockBehind, hinside e List.mem_cons_self]
        rfl
      rw [List.append_cons]
      exact ih hnext fun e' he' => hinside e' (List.mem_cons_of_mem _ he')

/-! ## What is left at a place -/

/-- Whether the element is a tag that stays in the output. -/
def staysTag (element : Element) : Bool :=
  element.kind.name?.any fun name => !isLiteral name

/-- An element, unless its text is empty. -/
def unlessEmpty (element : Element) : List Element :=
  if element.text = "" then [] else [element]

/-- The text of the literal block `name` that starts with the elements: they are written out up to the end tag
or, without one, up to the end of the list. -/
def blockText (name : String) (elements : List Element) : String :=
  String.ofList
    ((elements.takeWhile fun e => !Element.isEndOf name e).flatMap (Element.written delimiters))

/-- What is left of an element that neither opens a literal block nor stands in one. Only texts and inline
expressions lose line breaks; their kind and their line stay. -/
def left (afterTag beforeTag : Bool) (element : Element) : List Element :=
  match element.kind with
  | .comment => []
  | .text | .expression =>
    unlessEmpty { element with text := Element.trimmed afterTag beforeTag element.text }
  | .tag _ name => if isLiteral name then [] else [element]

/-- **What the layout leaves at a place.** Nothing is left inside a literal block; the text of the block stands
where it opens. -/
def shown (place : Place) : List Element :=
  match openBlock? isLiteral place.before, Stretch.opened? isLiteral place.element with
  | some _, _ => []
  | none, some name => unlessEmpty ⟨.text, blockText delimiters name place.after, place.element.line⟩
  | none, none =>
    left isLiteral (place.before.getLast?.any (staysTag isLiteral))
      (place.after.head?.any (·.kind.isTag)) place.element

/-- **What the layout warns of at a place**: a literal block that opens there and is never closed. -/
def warned (place : Place) : List ParseProblem :=
  match openBlock? isLiteral place.before, Stretch.opened? isLiteral place.element with
  | none, some name =>
    if place.after.any (Element.isEndOf name) then []
    else [⟨place.element.line, .unterminatedLiteral name⟩]
  | _, _ => []

theorem shown_of_open {place : Place} {name : String}
    (h : openBlock? isLiteral place.before = some name) : shown delimiters isLiteral place = [] := by
  simp only [shown, h]

theorem warned_of_open {place : Place} {name : String}
    (h : openBlock? isLiteral place.before = some name) : warned isLiteral place = [] := by
  simp only [warned, h]

/-! ## One step of the layout -/

/-- The layout passes an element that opens no block. -/
theorem layoutFrom_passing {element : Element} (h : Stretch.opened? isLiteral element = none)
    (afterTag : Bool) (rest : List Element) :
    Element.layoutFrom delimiters isLiteral afterTag (element :: rest)
      = ⟨left isLiteral afterTag (rest.head?.any (·.kind.isTag)) element
            ++ (Element.layoutFrom delimiters isLiteral (staysTag isLiteral element) rest).elements,
          (Element.layoutFrom delimiters isLiteral (staysTag isLiteral element) rest).problems⟩ := by
  rw [Element.layoutFrom, left, staysTag]
  unfold Stretch.opened? at h
  cases hk : element.kind with
  | comment => rfl
  | text | expression =>
      by_cases ht : Element.trimmed afterTag (rest.head?.any (·.kind.isTag)) element.text = ""
      · simp [ElementKind.name?, unlessEmpty, ht]
      · simp [ElementKind.name?, unlessEmpty, ht]
  | tag form name =>
      simp only [hk] at h
      cases hl : isLiteral name with
      | false => simp [ElementKind.name?, hl]
      | true =>
          have hform : form = .single := by simpa [hl] using h
          simp [ElementKind.name?, hl, hform]

/-- What is left of some elements from the end tag `name` on: nothing if they have none. -/
theorem dropWhile_isEndOf_cases (name : String) (elements : List Element) :
    (elements.any (Element.isEndOf name) = false ∧
        (elements.dropWhile fun e => !Element.isEndOf name e) = []) ∨
      ∃ ending behind, elements.any (Element.isEndOf name) = true ∧
        Element.isEndOf name ending = true ∧
        (elements.dropWhile fun e => !Element.isEndOf name e) = ending :: behind := by
  have hfind := List.find?_eq_head?_dropWhile_not (Element.isEndOf name) elements
  cases hd : elements.dropWhile fun e => !Element.isEndOf name e with
  | nil =>
      rw [hd, List.head?_nil, List.find?_eq_none] at hfind
      exact .inl ⟨List.any_eq_false.2 hfind, rfl⟩
  | cons ending behind =>
      rw [hd, List.head?_cons] at hfind
      have hend := List.find?_some hfind
      exact .inr ⟨ending, behind, List.any_eq_true.2 ⟨ending, List.mem_of_find?_eq_some hfind, hend⟩,
        hend, rfl⟩

/-- The layout warns of a block that nothing closes, and goes on behind the end tag. -/
theorem problems_layoutFrom_opening {element : Element} {name : String}
    (h : Stretch.opened? isLiteral element = some name) (afterTag : Bool) (rest : List Element) :
    (Element.layoutFrom delimiters isLiteral afterTag (element :: rest)).problems
      = (if rest.any (Element.isEndOf name) then []
          else [⟨element.line, .unterminatedLiteral name⟩])
        ++ (Element.layoutFrom delimiters isLiteral false
          (rest.dropWhile fun e => !Element.isEndOf name e).tail).problems := by
  rw [Element.layoutFrom]
  unfold Stretch.opened? at h
  cases hk : element.kind with
  | comment | text | expression =>
      rw [hk] at h
      cases h
  | tag form name' =>
      simp only [hk] at h
      obtain ⟨⟨hl, hform⟩, rfl⟩ : (isLiteral name' = true ∧ form ≠ .single) ∧ name' = name := by
        simpa using h
      simp only [hl, hform, Bool.not_true, Bool.false_eq_true, if_false]
      rcases dropWhile_isEndOf_cases name' rest with ⟨hany, hd⟩ | ⟨ending, behind, hany, -, hd⟩
      · rw [hany, hd, List.tail_nil, Element.layoutFrom]
        rfl
      · rw [hany, hd, List.tail_cons]
        rfl

/-- The layout writes a block out where it opens and goes on behind its end tag. -/
theorem layoutFrom_opening {element : Element} {name : String}
    (h : Stretch.opened? isLiteral element = some name) (afterTag : Bool) (rest : List Element) :
    Element.layoutFrom delimiters isLiteral afterTag (element :: rest)
      = ⟨unlessEmpty ⟨.text, blockText delimiters name rest, element.line⟩
            ++ (Element.layoutFrom delimiters isLiteral false
              (rest.dropWhile fun e => !Element.isEndOf name e).tail).elements,
          (if rest.any (Element.isEndOf name) then []
              else [⟨element.line, .unterminatedLiteral name⟩])
            ++ (Element.layoutFrom delimiters isLiteral false
              (rest.dropWhile fun e => !Element.isEndOf name e).tail).problems⟩ := by
  rw [← problems_layoutFrom_opening delimiters isLiteral h afterTag]
  show _ = Scanned.mk ((let text := blockText delimiters name rest
      if text = "" then [] else [⟨.text, text, element.line⟩]) ++ _) _
  rw [blockText, ← Stretch.layoutFrom_of_opened?_some h afterTag]

/-! ## Jumping over a block -/

variable {isLiteral}

/-- What a block opens with is a literal tag, which does not stay. -/
theorem isLiteral_of_opened? {element : Element} {name : String}
    (h : Stretch.opened? isLiteral element = some name) : isLiteral name = true := by
  unfold Stretch.opened? at h
  split at h
  · rename_i form name' _
    split at h
    · rename_i hliteral
      obtain rfl := Option.some.inj h
      exact hliteral.1
    · cases h
  · cases h

/-- Nothing comes of the places inside a block. -/
theorem flatMap_placesFrom_inside {β : Type} {f : Place → List β} {name : String}
    (hf : ∀ place : Place, openBlock? isLiteral place.before = some name → f place = [])
    {before inside : List Element} (hopen : openBlock? isLiteral before = some name)
    (hinside : ∀ e ∈ inside, Element.isEndOf name e = false) (rest : List Element) :
    (placesFrom before (inside ++ rest)).flatMap f
      = (placesFrom (before ++ inside) rest).flatMap f := by
  induction inside generalizing before with
  | nil => rw [List.nil_append, List.append_nil]
  | cons e inside ih =>
      have hnext : openBlock? isLiteral (before ++ [e]) = some name :=
        openBlock?_append isLiteral hopen (by simpa using hinside e List.mem_cons_self)
      have hrest := ih hnext fun e' he' => hinside e' (List.mem_cons_of_mem _ he')
      rw [List.cons_append, placesFrom, List.flatMap_cons, hf _ hopen, List.nil_append, hrest,
        ← List.append_cons]

/-- Nothing comes of the places from the opening of a block to its end tag. Behind the end tag no block is
open, and the end tag itself is no tag that stays. -/
theorem exists_behind_block {before : List Element} {name : String}
    (hliteral : isLiteral name = true) (hopen : openBlock? isLiteral before = some name)
    (elements : List Element) :
    ∃ before' : List Element, openBlock? isLiteral before' = none ∧
      before'.getLast?.any (staysTag isLiteral) = false ∧
      ∀ {β : Type} {f : Place → List β},
        (∀ place : Place, openBlock? isLiteral place.before = some name → f place = []) →
          (placesFrom before elements).flatMap f
            = (placesFrom before'
                (elements.dropWhile fun e => !Element.isEndOf name e).tail).flatMap f := by
  have hinside : ∀ e ∈ elements.takeWhile (fun e => !Element.isEndOf name e),
      Element.isEndOf name e = false := by
    intro e he
    simpa using List.mem_takeWhile_imp he
  have hsplit : elements.takeWhile (fun e => !Element.isEndOf name e)
      ++ elements.dropWhile (fun e => !Element.isEndOf name e) = elements :=
    List.takeWhile_append_dropWhile
  rcases dropWhile_isEndOf_cases name elements with ⟨-, hd⟩ | ⟨ending, behind, -, hend, hd⟩
  · -- the block takes all elements, so there are no places behind it
    refine ⟨[], rfl, rfl, fun {β f} hf => ?_⟩
    have hnothing := flatMap_placesFrom_inside hf hopen hinside []
    rw [hd] at hsplit
    rw [hsplit] at hnothing
    rw [hnothing, hd]
    rfl
  · have hopen' := openBlock?_append isLiteral hopen hinside
    refine ⟨before ++ elements.takeWhile (fun e => !Element.isEndOf name e) ++ [ending], ?_, ?_,
      fun {β f} hf => ?_⟩
    · rw [openBlock?_concat, hopen', blockBehind]
      exact if_pos hend
    · rw [List.getLast?_concat, Option.any_some, staysTag, isEndOf_iff.1 hend]
      simp [ElementKind.name?, hliteral]
    · have hjump := flatMap_placesFrom_inside hf hopen hinside (ending :: behind)
      rw [hd] at hsplit
      rw [hsplit] at hjump
      rw [hjump, hd, placesFrom, List.flatMap_cons, hf _ hopen', List.nil_append, List.tail_cons]

/-! ## The walk and the places -/

variable (isLiteral)

/-- **The layout behind some elements is what their places leave.** The invariant of the walk: no block is open,
and the flag says whether the last element is a tag that stays. -/
theorem layoutFrom_eq_places (elements : List Element) :
    ∀ before : List Element, openBlock? isLiteral before = none →
      Element.layoutFrom delimiters isLiteral (before.getLast?.any (staysTag isLiteral)) elements
        = ⟨(placesFrom before elements).flatMap (shown delimiters isLiteral),
            (placesFrom before elements).flatMap (warned isLiteral)⟩ := by
  induction hn : elements.length using Nat.strong_induction_on generalizing elements with
  | _ n ih =>
    intro before hclosed
    cases elements with
    | nil =>
        rw [Element.layoutFrom]
        rfl
    | cons element rest =>
        have hlast : (before ++ [element]).getLast?.any (staysTag isLiteral)
            = staysTag isLiteral element := by
          rw [List.getLast?_concat, Option.any_some]
        have hblock : openBlock? isLiteral (before ++ [element])
            = Stretch.opened? isLiteral element := by
          rw [openBlock?_concat, hclosed]
          rfl
        rw [placesFrom, List.flatMap_cons, List.flatMap_cons]
        cases h : Stretch.opened? isLiteral element with
        | none =>
            have hrest := ih rest.length (by rw [← hn]; exact Nat.lt_succ_self _) rest rfl
              (before ++ [element]) (hblock.trans h)
            rw [hlast] at hrest
            have hshown : shown delimiters isLiteral ⟨before, element, rest⟩
                = left isLiteral (before.getLast?.any (staysTag isLiteral))
                    (rest.head?.any (·.kind.isTag)) element := by
              simp only [shown, hclosed, h]
            have hwarned : warned isLiteral ⟨before, element, rest⟩ = [] := by
              simp only [warned, hclosed, h]
            rw [layoutFrom_passing delimiters isLiteral h, hrest, hshown, hwarned, List.nil_append]
        | some name =>
            obtain ⟨before', hclosed', hlast', hjump⟩ :=
              exists_behind_block (isLiteral_of_opened? h) (hblock.trans h) rest
            have hlt : (rest.dropWhile fun e => !Element.isEndOf name e).tail.length < n := by
              rw [← hn]
              exact Nat.lt_succ_of_le (Stretch.length_tail_dropWhile_le _ rest)
            have hbehind := ih _ hlt _ rfl before' hclosed'
            rw [hlast'] at hbehind
            have hshown : shown delimiters isLiteral ⟨before, element, rest⟩
                = unlessEmpty ⟨.text, blockText delimiters name rest, element.line⟩ := by
              simp only [shown, hclosed, h]
            have hwarned : warned isLiteral ⟨before, element, rest⟩
                = if rest.any (Element.isEndOf name) then []
                  else [⟨element.line, .unterminatedLiteral name⟩] := by
              simp only [warned, hclosed, h]
            rw [layoutFrom_opening delimiters isLiteral h, hbehind, hshown, hwarned,
              hjump fun _ => shown_of_open delimiters isLiteral,
              hjump fun _ => warned_of_open isLiteral]

/-! ## Line breaks -/

/-- The line break that is lost at one end of a text, if `lost` says that one may be lost there. -/
def lineBreak (lost : Bool) (character? : Option Char) : List Char :=
  if lost = true ∧ character? = some '\n' then ['\n'] else []

/-- `left` is `whole` without one line break at its start after a tag, and then without one at its end before a
tag. -/
def LosesLineBreaks (afterTag beforeTag : Bool) (whole left : String) : Prop :=
  ∃ behind : List Char,
    whole.toList = lineBreak afterTag whole.toList.head? ++ behind ∧
      behind = left.toList ++ lineBreak beforeTag behind.getLast?

theorem lineBreak_append_dropLeading (text : List Char) :
    lineBreak true text.head? ++ Text.dropLeading '\n' text = text := by
  cases text with
  | nil => rfl
  | cons c rest =>
      by_cases hc : c = '\n'
      · simp [lineBreak, Text.dropLeading, hc]
      · simp [lineBreak, Text.dropLeading, hc]

theorem dropTrailing_append_lineBreak (text : List Char) :
    Text.dropTrailing '\n' text ++ lineBreak true text.getLast? = text := by
  rw [Text.dropTrailing, Text.beforeTrailing?, lineBreak]
  by_cases hc : text.getLast? = some '\n'
  · obtain ⟨start, rfl⟩ := List.getLast?_eq_some_iff.1 hc
    simp
  · simp [hc]

/-- Trimming loses the line breaks at the tags and nothing else. -/
theorem losesLineBreaks_trimmed (afterTag beforeTag : Bool) (text : String) :
    LosesLineBreaks afterTag beforeTag text (Element.trimmed afterTag beforeTag text) := by
  have hfront : lineBreak afterTag text.toList.head?
      ++ (if afterTag then Text.dropLeading '\n' text.toList else text.toList) = text.toList := by
    cases afterTag with
    | false => rfl
    | true => exact lineBreak_append_dropLeading text.toList
  refine ⟨if afterTag then Text.dropLeading '\n' text.toList else text.toList, hfront.symm, ?_⟩
  rw [Element.trimmed, String.toList_ofList]
  cases beforeTag with
  | false => simp [lineBreak]
  | true => exact (dropTrailing_append_lineBreak _).symm

end Place

/-- **The layout, place by place.** For every list of elements, delimiters and literal names, the layout leaves
what `Place.shown` says of each place and warns of what `Place.warned` says of it, in order; and a text that
is trimmed loses at most the line breaks at its tags. -/
theorem Element.layout_eq_places (delimiters : Delimiters) (isLiteral : String → Bool)
    (elements : List Element) :
    (Element.layout delimiters isLiteral elements).elements
        = (Place.places elements).flatMap (Place.shown delimiters isLiteral) ∧
      (Element.layout delimiters isLiteral elements).problems
        = (Place.places elements).flatMap (Place.warned isLiteral) ∧
      ∀ (afterTag beforeTag : Bool) (text : String),
        Place.LosesLineBreaks afterTag beforeTag text (Element.trimmed afterTag beforeTag text) := by
  have h := Place.layoutFrom_eq_places delimiters isLiteral elements [] rfl
  have hlayout : Element.layout delimiters isLiteral elements
      = Element.layoutFrom delimiters isLiteral ([].getLast?.any (Place.staysTag isLiteral)) elements :=
    rfl
  rw [hlayout, h]
  exact ⟨rfl, rfl, Place.losesLineBreaks_trimmed⟩

end TextTemplate
