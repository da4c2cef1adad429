import TextTemplate.Node.Build
import TextTemplate.Proofs.Expression.Name
import TextTemplate.Proofs.Registry.Run

set_option autoImplicit false

/-! # Balanced templates

An item of a balanced template is a text, an inline expression, a tag without children, or a block:
a tag, the items in it, and an end tag that repeats its name. `Item.elementsAll` lays items out one
behind the other, and `Item.nodesAll` gives their nodes, each read from its own body alone.

Main statement: `build_elementsAll`. Built from their elements, balanced items come out as exactly
their nodes, and nothing is recorded but what is wrong inside of the bodies (`Item.logAll`). Of the
registry only this is asked, that it stands by its answers (`Registry.Decides`).

While a block is open its nodes are collected apart, so the induction is on the items with any
builder in front of them: they leave the open tags alone, and their nodes come behind the nodes of
the innermost scope (`Builder.Gains`). -/

namespace TextTemplate

/-! ## Registries that stand by their answers -/

namespace Registry

/-- The registry behind questions whether tags have children. -/
def askedAbout (registry : Registry) (tags : List String) : Registry :=
  tags.foldl (fun registry tag => (registry.hasChildren tag).2) registry

/-- There is an answer for every tag, and whatever was asked before, it is that of `owns`. -/
def Decides (registry : Registry) (owns : String → Bool) : Prop :=
  ∀ tags name, ((registry.askedAbout tags).hasChildren name).1 = .ok (owns name)

theorem Decides.answer {registry : Registry} {owns : String → Bool} (h : registry.Decides owns)
    (name : String) : (registry.hasChildren name).1 = .ok (owns name) := h [] name

theorem Decides.behind {registry : Registry} {owns : String → Bool} (h : registry.Decides owns)
    (name : String) : (registry.hasChildren name).2.Decides owns := fun tags => h (name :: tags)

/-- A registry that no question changes decides. -/
theorem decides_of_unchanged {registry : Registry} {owns : String → Bool}
    (h : ∀ name, registry.hasChildren name = (.ok (owns name), registry)) :
    registry.Decides owns := by
  have hsame : ∀ tags, registry.askedAbout tags = registry := by
    intro tags
    induction tags with
    | nil => rfl
    | cons tag tags ih =>
        rw [askedAbout, List.foldl_cons, h tag]
        exact ih
  intro tags name
  rw [hsame tags, h name]

end Registry

/-! ## Items -/

/-- An item of a balanced template. The label of a tag is its name as it was laid out; the name that
counts is read from its body. -/
inductive Item
  | text (content : String) (line : Nat)
  | expression (body : String) (line : Nat)
  /-- A tag that is closed in itself. -/
  | single (label body : String) (line : Nat)
  /-- A tag that has no children, and so no end tag. -/
  | leaf (label body : String) (line : Nat)
  /-- A tag with its children, and the label and the line of its end tag. -/
  | block (label body : String) (line : Nat) (children : List Item) (endLabel : String)
    (endLine : Nat)

/-- The name of the tag with a given body. -/
def tagName (body : String) : String := Parser.identifier (Token.tokenize body)

/-- The node of the tag with a given body. -/
def tagNode (space body : String) (line : Nat) (children : List Node) : Node :=
  let parsed := Parser.tag space (Token.tokenize body)
  .function parsed.value.1 parsed.value.2 children line

/-- What is wrong in the body of a tag. -/
def tagLog (space body : String) (line : Nat) : Log :=
  (Parser.tag space (Token.tokenize body)).faults.map fun fault => .ofParse ⟨line, fault⟩

/-- The node of the expression with a given body. -/
def expressionNode (space body : String) (line : Nat) : Node :=
  .expression (Parser.expression space (Token.tokenize body)).value line

/-- What is wrong in the body of an expression; something left behind it is wrong too. -/
def expressionLog (space body : String) (line : Nat) : Log :=
  let cursor := Parser.Cursor.ofBody body
  let parsed := Parser.expression space cursor.rest
  let behind := cursor.moveTo parsed
  (parsed.faults.map fun fault => .ofParse ⟨line, fault⟩) ++
    if behind.isAtEnd then [] else [.ofParse ⟨line, .trailingJunk behind.ahead behind.passed⟩]

namespace Item

mutual

/-- The elements of an item. The text of an end tag is the name of its tag. -/
def elements : Item → List Element
  | text content line => [⟨.text, content, line⟩]
  | expression body line => [⟨.expression, body, line⟩]
  | single label body line => [⟨.tag .single label, body, line⟩]
  | leaf label body line => [⟨.tag .normal label, body, line⟩]
  | block label body line children endLabel endLine =>
    ⟨.tag .normal label, body, line⟩ ::
      (elementsAll children ++ [⟨.tag .closing endLabel, tagName body, endLine⟩])

/-- The elements of items. -/
def elementsAll : List Item → List Element
  | [] => []
  | item :: rest => item.elements ++ elementsAll rest

end

mutual

/-- The node of an item. -/
def node (space : String) : Item → Node
  | text content _ => .text content
  | expression body line => expressionNode space body line
  | single _ body line | leaf _ body line => tagNode space body line []
  | block _ body line children _ _ => tagNode space body line (nodesAll space children)

/-- The nodes of items. -/
def nodesAll (space : String) : List Item → List Node
  | [] => []
  | item :: rest => item.node space :: nodesAll space rest

end

mutual

/-- What is wrong inside of the bodies of an item, from the front to the back. -/
def log (space : String) : Item → Log
  | text _ _ => []
  | expression body line => expressionLog space body line
  | single _ body line | leaf _ body line => tagLog space body line
  | block _ body line children _ _ => tagLog space body line ++ logAll space children

/-- What is wrong inside of the bodies of items. -/
def logAll (space : String) : List Item → Log
  | [] => []
  | item :: rest => item.log space ++ logAll space rest

end

mutual

/-- The blocks of an item are tags that have children, and its leaves are not. -/
def Fits (owns : String → Bool) : Item → Prop
  | text _ _ | expression _ _ | single _ _ _ => True
  | leaf _ body _ => owns (tagName body) = false
  | block _ body _ children _ _ => owns (tagName body) = true ∧ FitAll owns children

/-- Each item fits. -/
def FitAll (owns : String → Bool) : List Item → Prop
  | [] => True
  | item :: rest => item.Fits owns ∧ FitAll owns rest

end

end Item

/-! ## What elements do to a builder -/

namespace Builder

variable {builder builder' builder'' : Builder} {owns : String → Bool}

/-- The builder behind the question whether `name` has children. -/
def asked (builder : Builder) (name : String) : Builder :=
  { builder with registry := (builder.registry.hasChildren name).2 }

theorem note_nil (builder : Builder) : builder.note [] = builder := by
  rw [note, List.append_nil]

theorem note_note (builder : Builder) (log log' : Log) :
    (builder.note log).note log' = builder.note (log ++ log') := by
  rw [note, note, note, List.append_assoc]

theorem ownsChildren_of_decides (h : builder.registry.Decides owns) (name : String) :
    builder.ownsChildren name = (owns name, builder.asked name) := by
  have hanswer := h.answer name
  unfold ownsChildren asked
  cases hq : builder.registry.hasChildren name with
  | mk result registry =>
      rw [hq] at hanswer
      cases hanswer
      rfl

theorem add_opening (builder : Builder) (space label body : String) (line : Nat) :
    add space builder ⟨.tag .normal label, body, line⟩ = builder.addTag space body .normal line :=
  rfl

theorem add_closing (builder : Builder) (space label body : String) (line : Nat) :
    add space builder ⟨.tag .closing label, body, line⟩ = builder.addEndTag body line := rfl

/-- An expression is a node, and what is wrong in it is recorded. -/
theorem addExpression_eq (builder : Builder) (space body : String) (line : Nat) :
    builder.addExpression space body line =
      (builder.note (expressionLog space body line)).push (expressionNode space body line) := by
  unfold addExpression expressionLog
  cases hend : ((Parser.Cursor.ofBody body).moveTo
      (Parser.expression space (Parser.Cursor.ofBody body).rest)).isAtEnd with
  | true =>
      simp only [hend, if_true, List.append_nil]
      rfl
  | false =>
      simp only [hend, Bool.false_eq_true, if_false, ← note_note]
      rfl

/-- A single tag is a node without children. -/
theorem addTag_single (builder : Builder) (space body : String) (line : Nat) :
    builder.addTag space body .single line =
      (builder.note (tagLog space body line)).push (tagNode space body line []) := rfl

/-- A normal tag with children opens a scope, and another one is a node without children. -/
theorem addTag_normal (h : builder.registry.Decides owns) (space body : String) (line : Nat) :
    builder.addTag space body .normal line =
      let behind := (builder.note (tagLog space body line)).asked (tagName body)
      if owns (tagName body) then
        behind.openScope (tagName body) (Parser.tag space (Token.tokenize body)).value.2 line
      else behind.push (tagNode space body line []) := by
  have hnoted : (builder.note (tagLog space body line)).registry.Decides owns := h
  have hasked := ownsChildren_of_decides hnoted (tagName body)
  show (let asked := (builder.note (tagLog space body line)).ownsChildren (tagName body)
    if asked.1 then
      asked.2.openScope (tagName body) (Parser.tag space (Token.tokenize body)).value.2 line
    else asked.2.push (tagNode space body line [])) = _
  rw [hasked]

/-- An end tag with the name of the innermost open tag closes its scope, and nothing is recorded. -/
theorem addEndTag_of_open (h : builder.registry.Decides owns) {frame : Frame} {frames : List Frame}
    {body : String} (hopen : builder.frames = frame :: frames) (hname : frame.name = tagName body)
    (hblock : owns (tagName body) = true) (line : Nat) :
    builder.addEndTag (tagName body) line =
      ⟨(builder.registry.hasChildren (tagName body)).2, frames,
        .function frame.name frame.arguments builder.nodes.reverse frame.line :: frame.before,
        builder.log⟩ := by
  have hread : Parser.identifier (Token.tokenize (tagName body)) = tagName body :=
    Parser.identifier_identifier body
  have hrest : Parser.afterIdentifier (Token.tokenize (tagName body)) = [] :=
    Parser.afterIdentifier_identifier body
  simp only [addEndTag, hread, hrest, List.any_nil, Bool.false_eq_true, if_false,
    ownsChildren_of_decides h, hblock, asked, hopen, hname, if_true, closeScope]

theorem finish_of_closed (hclosed : builder.frames = []) : builder.finish = builder := by
  obtain ⟨registry, frames, nodes, log⟩ := builder
  obtain rfl : frames = [] := hclosed
  rfl

/-! ## What items do to a builder -/

/-- `after` is `before` with nodes behind those of the innermost scope, and with more recorded. -/
structure Gains (owns : String → Bool) (before after : Builder) (nodes : List Node) (log : Log) :
    Prop where
  decides : after.registry.Decides owns
  frames_eq : after.frames = before.frames
  nodes_eq : after.nodes = nodes.reverse ++ before.nodes
  log_eq : after.log = before.log ++ log

theorem gains_nil (h : builder.registry.Decides owns) : Gains owns builder builder [] [] :=
  ⟨h, rfl, rfl, (List.append_nil _).symm⟩

theorem Gains.trans {nodes nodes' : List Node} {log log' : Log}
    (h : Gains owns builder builder' nodes log) (h' : Gains owns builder' builder'' nodes' log') :
    Gains owns builder builder'' (nodes ++ nodes') (log ++ log') where
  decides := h'.decides
  frames_eq := h'.frames_eq.trans h.frames_eq
  nodes_eq := by rw [h'.nodes_eq, h.nodes_eq, List.reverse_append, List.append_assoc]
  log_eq := by rw [h'.log_eq, h.log_eq, List.append_assoc]

theorem gains_push (h : builder.registry.Decides owns) (log : Log) (node : Node) :
    Gains owns builder ((builder.note log).push node) [node] log := ⟨h, rfl, rfl, rfl⟩

/-- The items between a tag with children and its end tag come out as the children of the tag. -/
theorem gains_block {space body : String} (h : builder.registry.Decides owns)
    (hblock : owns (tagName body) = true) {line endLine : Nat} {children : List Node} {log : Log}
    (hchildren : Gains owns (builder.addTag space body .normal line) builder' children log) :
    Gains owns builder (builder'.addEndTag (tagName body) endLine)
      [tagNode space body line children] (tagLog space body line ++ log) := by
  obtain ⟨hdecides, hframes, hnodes, hlog⟩ := hchildren
  rw [addTag_normal h, if_pos hblock] at hframes hnodes hlog
  rw [addEndTag_of_open hdecides hframes rfl hblock]
  refine ⟨hdecides.behind _, rfl, ?_, ?_⟩
  · -- the scope was opened without nodes, so it holds the children and nothing else
    rw [hnodes]
    show .function _ _ (children.reverse ++ []).reverse line :: builder.nodes = _
    rw [List.append_nil, List.reverse_reverse]
    rfl
  · show builder'.log = _
    rw [hlog]
    exact List.append_assoc _ _ _

end Builder

namespace Item

open Builder

mutual

/-- The elements of an item bring its node and what is wrong in it. -/
theorem gains_elements {owns : String → Bool} (space : String) :
    ∀ (item : Item) (builder : Builder), item.Fits owns → builder.registry.Decides owns →
      Gains owns builder (item.elements.foldl (add space) builder) [item.node space]
        (item.log space)
  | text content line, builder, _, h => by
      rw [elements, node, log]
      have hpush := gains_push h [] (.text content)
      rwa [note_nil] at hpush
  | expression body line, builder, _, h => by
      rw [elements, node, log]
      show Gains owns builder (builder.addExpression space body line) _ _
      rw [addExpression_eq]
      exact gains_push h _ _
  | single label body line, builder, _, h => by
      rw [elements, node, log]
      show Gains owns builder (builder.addTag space body .single line) _ _
      rw [addTag_single]
      exact gains_push h _ _
  | leaf label body line, builder, fits, h => by
      rw [Fits] at fits
      rw [elements, node, log, List.foldl_cons, List.foldl_nil, add_opening, addTag_normal h,
        if_neg (by rw [fits]; decide)]
      exact ⟨h.behind _, rfl, rfl, rfl⟩
  | block label body line children endLabel endLine, builder, fits, h => by
      rw [Fits] at fits
      obtain ⟨hblock, hfits⟩ := fits
      have hopened : (builder.addTag space body .normal line).registry.Decides owns := by
        rw [addTag_normal h, if_pos hblock]
        exact h.behind _
      have hchildren := gains_elementsAll space children _ hfits hopened
      rw [elements, node, log, List.foldl_cons, List.foldl_append, List.foldl_cons, List.foldl_nil,
        add_opening, add_closing]
      exact gains_block h hblock hchildren

/-- The elements of items bring their nodes and what is wrong in them. -/
theorem gains_elementsAll {owns : String → Bool} (space : String) :
    ∀ (items : List Item) (builder : Builder), FitAll owns items →
      builder.registry.Decides owns →
      Gains owns builder ((elementsAll items).foldl (add space) builder) (nodesAll space items)
        (logAll space items)
  | [], _, _, h => gains_nil h
  | item :: rest, builder, fits, h => by
      rw [FitAll] at fits
      obtain ⟨hitem, hrest⟩ := fits
      have hgains := gains_elements space item builder hitem h
      rw [elementsAll, List.foldl_append]
      exact hgains.trans (gains_elementsAll space rest _ hrest hgains.decides)

end

end Item

namespace Node

/-- **Building recovers balanced items**: the tree consists of exactly their nodes, and only what is
wrong inside of the bodies is recorded, from the front to the back. -/
theorem build_elementsAll {registry : Registry} {owns : String → Bool}
    (decides : registry.Decides owns) (space : String) {items : List Item}
    (fits : Item.FitAll owns items) :
    (build registry space (Item.elementsAll items)).nodes = Item.nodesAll space items ∧
      (build registry space (Item.elementsAll items)).log = Item.logAll space items := by
  obtain ⟨-, hframes, hnodes, hlog⟩ :=
    Item.gains_elementsAll space items ⟨registry, [], [], []⟩ fits decides
  rw [build, Builder.finish_of_closed hframes]
  refine ⟨?_, hlog⟩
  show List.reverse _ = _
  rw [hnodes, List.append_nil, List.reverse_reverse]

/-- Blocks of one name in each other, an empty one among them, and tags in between that are none. -/
def sections : List Item :=
  [.block "section" "section" 1
    [.text "a" 1, .block "section" "section of=$x" 1 [] "section" 1,
      .leaf "include" "include uri=$y" 2, .single "section" "section" 2,
      .block "section" "section" 3 [.expression "$z | upper" 3] "section" 3] "section" 4,
    .text "b" 4]

/-- The registry that knows of the tag `include` only. -/
def including : Registry := ({} : Registry).registerFunctions .templates

theorem decides_including : including.Decides fun tag => decide (tag ≠ "include") := by
  refine Registry.decides_of_unchanged fun tag => ?_
  by_cases htag : tag = "include"
  · subst htag
    exact Registry.hasChildren_of_known rfl
  · have hne : "include" ≠ tag := fun h => htag h.symm
    have hflag : including.childFlags.get? tag = none := Table.get?_set_ne _ _ hne
    have hslot : including.functions.get? tag = none := Table.get?_set_ne _ _ hne
    rw [Registry.hasChildren_of_none hflag, hslot]
    simp [htag]

/-- Every block comes out around its own children. -/
theorem build_sections :
    including.Decides (fun tag => decide (tag ≠ "include")) ∧
      Item.FitAll (fun tag => decide (tag ≠ "include")) sections ∧
      (build including "" (Item.elementsAll sections)).nodes = Item.nodesAll "" sections ∧
      (build including "" (Item.elementsAll sections)).log = Item.logAll "" sections := by
  have fits : Item.FitAll (fun tag => decide (tag ≠ "include")) sections := by
    simp only [sections, Item.FitAll, Item.Fits]
    decide
  exact ⟨decides_including, fits, build_elementsAll decides_including "" fits⟩

end Node

end TextTemplate
