import Mathlib.Data.List.Forall2
import TextTemplate.Proofs.Expression.Fault
import TextTemplate.Proofs.Node.Forest

set_option autoImplicit false

/-! # Badly nested templates

Tags may be left open, closed by the wrong end tag or closed without having been opened, and a
registry may change its mind between a tag and its end tag. None of this loses a node, makes one
twice or moves one.

Main statement: `build_accounts_for_elements`. It follows the elements one by one, each with the
builder that it is added to (`Builder.Step`): the nodes of the tree in source order are those of the
elements that have a node, only tags that were found to have children got some, and every tag that was
opened was closed by one end tag or is reported as open at the end.

An open tag is not a node yet, so the account is kept frame by frame (`Builder.Accounts`): in front of
each open tag are the nodes of the elements before it, and the tag itself stands for the element that
opened it. -/

namespace TextTemplate

/-! ## Nodes in source order -/

namespace Node

/-- The nodes between a tag and its end tag. -/
def children : Node → List Node
  | function _ _ children _ => children
  | _ => []

/-- A node without its children. -/
def childless : Node → Node
  | function name arguments _ line => function name arguments [] line
  | node => node

mutual

/-- A node and everything below it, in source order. -/
def preorder : Node → List Node
  | text content => [text content]
  | expression value line => [expression value line]
  | function name arguments children line =>
    function name arguments children line :: preorderAll children

/-- Nodes and everything below them, in source order. -/
def preorderAll : List Node → List Node
  | [] => []
  | node :: rest => node.preorder ++ preorderAll rest

end

theorem preorderAll_append (nodes nodes' : List Node) :
    preorderAll (nodes ++ nodes') = preorderAll nodes ++ preorderAll nodes' := by
  induction nodes with
  | nil => rfl
  | cons node rest ih =>
      rw [List.cons_append, preorderAll, preorderAll, ih, List.append_assoc]

/-- A node that is collected last comes last. -/
theorem preorderAll_reverse_cons (node : Node) (nodes : List Node) :
    preorderAll (node :: nodes).reverse = preorderAll nodes.reverse ++ node.preorder := by
  rw [List.reverse_cons, preorderAll_append, preorderAll, preorderAll, List.append_nil]

/-- Below a node without children there is nothing. -/
theorem preorder_of_childless {node : Node} (h : node.children = []) : node.preorder = [node] := by
  cases node with
  | text content => rw [preorder]
  | expression value line => rw [preorder]
  | function name arguments children line =>
      obtain rfl : children = [] := h
      rw [preorder, preorderAll]

end Node

/-- The node of an element, read from the element alone. Comments and end tags have none. -/
def Element.node? (space : String) (element : Element) : Option Node :=
  match element.kind with
  | .text => some (.text element.text)
  | .expression => some (expressionNode space element.text element.line)
  | .tag .single _ | .tag .normal _ => some (tagNode space element.text element.line [])
  | .comment | .tag .closing _ => none

/-- Whether the diagnostic is a warning that a tag is still open at the end. -/
def Diagnostic.isUnclosed : Diagnostic → Bool
  | ⟨.warning, _, .parse ⟨_, .unclosedTag _⟩⟩ => true
  | _ => false

theorem Diagnostic.isUnclosed_ofParse (line : Nat) {fault : ParseFault}
    (h : ∀ tag, fault ≠ .unclosedTag tag) : isUnclosed (.ofParse ⟨line, fault⟩) = false := by
  cases fault with
  | unclosedTag tag => exact absurd rfl (h tag)
  | _ => rfl

namespace Builder

variable {builder builder' builder'' : Builder} {space : String}

/-! ## What leaves the scopes alone -/

/-- How many tags are reported as open at the end. -/
def unclosed (builder : Builder) : Nat := builder.log.countP Diagnostic.isUnclosed

/-- The registry was asked about tags, and no further tag is reported as open at the end; anything else
may be recorded. -/
structure Quiet (before after : Builder) : Prop where
  asked : ∃ tags, after.registry = before.registry.askedAbout tags
  unclosed_eq : after.unclosed = before.unclosed

/-- And the open tags and the collected nodes are the same. -/
structure SameScopes (before after : Builder) : Prop extends Quiet before after where
  frames_eq : after.frames = before.frames
  nodes_eq : after.nodes = before.nodes

theorem quiet_refl (builder : Builder) : Quiet builder builder := ⟨⟨[], rfl⟩, rfl⟩

theorem Quiet.trans (h : Quiet builder builder') (h' : Quiet builder' builder'') :
    Quiet builder builder'' := by
  obtain ⟨⟨tags, hasked⟩, hunclosed⟩ := h
  obtain ⟨⟨tags', hasked'⟩, hunclosed'⟩ := h'
  refine ⟨⟨tags ++ tags', ?_⟩, hunclosed'.trans hunclosed⟩
  rw [hasked', hasked, Registry.askedAbout, Registry.askedAbout, Registry.askedAbout,
    List.foldl_append]

theorem sameScopes_refl (builder : Builder) : SameScopes builder builder :=
  ⟨quiet_refl builder, rfl, rfl⟩

theorem SameScopes.trans (h : SameScopes builder builder') (h' : SameScopes builder' builder'') :
    SameScopes builder builder'' :=
  ⟨h.toQuiet.trans h'.toQuiet, h'.frames_eq.trans h.frames_eq, h'.nodes_eq.trans h.nodes_eq⟩

theorem sameScopes_note {log : Log} (h : ∀ diagnostic ∈ log, diagnostic.isUnclosed = false) :
    SameScopes builder (builder.note log) := by
  refine ⟨⟨⟨[], rfl⟩, ?_⟩, rfl, rfl⟩
  have hnone : log.countP Diagnostic.isUnclosed = 0 :=
    List.countP_eq_zero.2 fun diagnostic hd => by rw [h diagnostic hd]; exact Bool.false_ne_true
  rw [unclosed, note, List.countP_append, hnone]
  rfl

theorem sameScopes_fault (line : Nat) {fault : ParseFault}
    (h : ∀ tag, fault ≠ .unclosedTag tag) : SameScopes builder (builder.fault line fault) := by
  refine sameScopes_note fun diagnostic hd => ?_
  rw [List.mem_singleton.1 hd]
  exact Diagnostic.isUnclosed_ofParse line h

theorem sameScopes_faults (line : Nat) {faults : List ParseFault}
    (h : ∀ fault ∈ faults, fault.isOfBody = true) :
    SameScopes builder (builder.faults line faults) := by
  refine sameScopes_note fun diagnostic hd => ?_
  obtain ⟨fault, hf, rfl⟩ := List.mem_map.1 hd
  refine Diagnostic.isUnclosed_ofParse line fun tag htag => ?_
  subst htag
  cases h _ hf

/-- A question changes nothing but the registry, and a failure is recorded as such. -/
theorem sameScopes_ownsChildren (builder : Builder) (name : String) :
    SameScopes builder (builder.ownsChildren name).2 := by
  have hasked : SameScopes builder (builder.asked name) := ⟨⟨⟨[name], rfl⟩, rfl⟩, rfl, rfl⟩
  unfold ownsChildren
  unfold asked at hasked
  split
  · rename_i registry h
    rwa [h] at hasked
  · rename_i problem registry h
    rw [h] at hasked
    refine hasked.trans (sameScopes_note fun diagnostic hd => ?_)
    rw [List.mem_singleton.1 hd]
    rfl

/-- What is recorded before does not change an answer. -/
theorem ownsChildren_note (builder : Builder) (log : Log) (name : String) :
    ((builder.note log).ownsChildren name).1 = (builder.ownsChildren name).1 := by
  unfold ownsChildren note
  split
  · rename_i h
    simp only [h]
  · rename_i h
    simp only [h]

/-! ## Steps -/

/-- An element and the builder that it is added to. -/
structure Step where
  before : Builder
  element : Element

/-- The elements one by one, each with the builder that it is added to. -/
def steps (space : String) (builder : Builder) : List Element → List Step
  | [] => []
  | element :: rest => ⟨builder, element⟩ :: steps space (add space builder element) rest

namespace Step

variable {step : Step}

/-- The builder with the element. -/
def after (space : String) (step : Step) : Builder := add space step.before step.element

/-- Whether the element has a node. -/
def hasNode (space : String) (step : Step) : Bool := (step.element.node? space).isSome

/-- Whether the element is a normal tag that is found to have children, there and then. -/
def opens (step : Step) : Bool :=
  match step.element.kind with
  | .tag .normal _ => (step.before.ownsChildren (tagName step.element.text)).1
  | _ => false

/-- Whether fewer tags are open with the element than without it. -/
def closes (space : String) (step : Step) : Bool :=
  (step.after space).frames.length < step.before.frames.length

/-- The tag is open with this element, and what comes next is collected apart. -/
def Opened (space : String) (step : Step) (after : Builder) : Prop :=
  ∃ name arguments line, step.element.node? space = some (.function name arguments [] line) ∧
    after.frames = ⟨step.before.nodes, name, arguments, line⟩ :: step.before.frames ∧
    after.nodes = []

/-- The innermost tag is closed by this element. -/
def Closed (step : Step) (after : Builder) : Prop :=
  ∃ frame, step.before.frames = frame :: after.frames ∧
    after.nodes = .function frame.name frame.arguments step.before.nodes.reverse frame.line ::
      frame.before

/-- **What an element does to the scopes**: nothing, or its node is added to the innermost one, or it
opens one, or it closes one. -/
inductive Effect (space : String) (step : Step) : Builder → Prop
  | nothing {after : Builder} (node?_eq : step.element.node? space = none)
      (opens_eq : step.opens = false) (same : SameScopes step.before after) : Effect space step after
  | node {after : Builder} {node : Node} (node?_eq : step.element.node? space = some node)
      (childless : node.children = []) (opens_eq : step.opens = false)
      (same : SameScopes (step.before.push node) after) : Effect space step after
  | opened {after : Builder} (opens_eq : step.opens = true)
      (opened : step.Opened space after) (quiet : Quiet step.before after) : Effect space step after
  | closed {after : Builder} (label : String) (kind_eq : step.element.kind = .tag .closing label)
      (closed : step.Closed after) (quiet : Quiet step.before after) : Effect space step after

variable (space : String)

theorem effect_text (builder : Builder) (content : String) (line : Nat) :
    Effect space ⟨builder, ⟨.text, content, line⟩⟩ (builder.push (.text content)) :=
  .node rfl rfl rfl (sameScopes_refl _)

theorem effect_expression (builder : Builder) (body : String) (line : Nat) :
    Effect space ⟨builder, ⟨.expression, body, line⟩⟩ (builder.addExpression space body line) := by
  have hfaults : ∀ diagnostic ∈ expressionLog space body line, diagnostic.isUnclosed = false := by
    intro diagnostic hd
    rcases List.mem_append.1 hd with hd | hd
    · obtain ⟨fault, hf, rfl⟩ := List.mem_map.1 hd
      refine Diagnostic.isUnclosed_ofParse line fun tag htag => ?_
      subst htag
      cases Parser.faultsOfBody_expression space _ _ hf
    · split at hd
      · cases hd
      · rw [List.mem_singleton.1 hd]
        rfl
  rw [addExpression_eq]
  have hnote : SameScopes builder (builder.note (expressionLog space body line)) :=
    sameScopes_note hfaults
  exact .node rfl rfl rfl ⟨⟨hnote.asked, hnote.unclosed_eq⟩, rfl, rfl⟩

theorem effect_single (builder : Builder) (label body : String) (line : Nat) :
    Effect space ⟨builder, ⟨.tag .single label, body, line⟩⟩
      (builder.addTag space body .single line) := by
  have hfaults : SameScopes builder (builder.note (tagLog space body line)) :=
    sameScopes_faults line (Parser.faultsOfBody_tag space (Token.tokenize body))
  exact .node rfl rfl rfl ⟨⟨hfaults.asked, hfaults.unclosed_eq⟩, rfl, rfl⟩

/-- A normal tag opens a scope if it is found to have children, and otherwise has a node at once. -/
theorem effect_normal (builder : Builder) (label body : String) (line : Nat) :
    Effect space ⟨builder, ⟨.tag .normal label, body, line⟩⟩
      (builder.addTag space body .normal line) := by
  have hfaults : SameScopes builder (builder.note (tagLog space body line)) :=
    sameScopes_faults line (Parser.faultsOfBody_tag space (Token.tokenize body))
  have hasked := hfaults.trans (sameScopes_ownsChildren _ (tagName body))
  have hanswer := ownsChildren_note builder (tagLog space body line) (tagName body)
  show Effect space _ (let asked := (builder.note (tagLog space body line)).ownsChildren (tagName body)
    if asked.1 then
      asked.2.openScope (tagName body) (Parser.tag space (Token.tokenize body)).value.2 line
    else asked.2.push (tagNode space body line []))
  cases howns : (builder.ownsChildren (tagName body)).1 with
  | true =>
      simp only [hanswer, howns, if_true]
      refine .opened howns ⟨_, _, _, rfl, ?_, rfl⟩ ⟨hasked.asked, hasked.unclosed_eq⟩
      exact congrArg₂ _ (congrArg (Frame.mk · _ _ _) hasked.nodes_eq) hasked.frames_eq
  | false =>
      simp only [hanswer, howns, Bool.false_eq_true, if_false]
      exact .node rfl rfl howns
        ⟨⟨hasked.asked, hasked.unclosed_eq⟩, hasked.frames_eq, congrArg (_ :: ·) hasked.nodes_eq⟩

/-- An end tag that is recorded as wrong, and nothing else. -/
theorem effect_ignored (label body : String) (line : Nat) (h : SameScopes builder builder') :
    Effect space ⟨builder, ⟨.tag .closing label, body, line⟩⟩ builder' :=
  .nothing rfl rfl h

/-- An end tag that closes the innermost scope, whatever else it records. -/
theorem effect_closeScope (label body : String) (line : Nat) (h : SameScopes builder builder')
    {frame : Frame} {frames : List Frame} (hopen : builder'.frames = frame :: frames) :
    Effect space ⟨builder, ⟨.tag .closing label, body, line⟩⟩ builder'.closeScope := by
  obtain ⟨hquiet, hframes, hnodes⟩ := h
  rw [hopen] at hframes
  have hclose : builder'.closeScope =
      { builder' with
        frames
        nodes := .function frame.name frame.arguments builder'.nodes.reverse frame.line ::
          frame.before } := by
    rw [closeScope, hopen]
  rw [hclose]
  exact .closed label rfl ⟨frame, hframes.symm, by rw [← hnodes]⟩
    ⟨hquiet.asked, hquiet.unclosed_eq⟩

theorem effect_closing (builder : Builder) (label body : String) (line : Nat) :
    Effect space ⟨builder, ⟨.tag .closing label, body, line⟩⟩ (builder.addEndTag body line) := by
  have hnoted : SameScopes builder
      (if (Parser.afterIdentifier (Token.tokenize body)).any fun lexeme =>
          lexeme.text.any fun c => !Text.isBlank c
        then builder.fault line (.endTagAttributes (Parser.identifier (Token.tokenize body)))
        else builder) := by
    split
    · exact sameScopes_fault line (by simp)
    · exact sameScopes_refl builder
  have hasked := hnoted.trans (sameScopes_ownsChildren _ (Parser.identifier (Token.tokenize body)))
  unfold addEndTag
  dsimp only
  generalize ownsChildren _ (Parser.identifier (Token.tokenize body)) = asked at hasked ⊢
  obtain ⟨owns, behind⟩ := asked
  cases hopen : behind.frames with
  | nil =>
      refine effect_ignored space label body line (hasked.trans (sameScopes_fault line ?_))
      cases owns <;> simp
  | cons frame frames =>
      cases owns with
      | true =>
          -- the scope is closed whether or not its tag has this name
          simp only [if_true]
          split
          · exact effect_closeScope space label body line hasked hopen
          · exact effect_closeScope space label body line
              (hasked.trans (sameScopes_fault line (by simp))) hopen
      | false =>
          simp only [Bool.false_eq_true, if_false]
          split
          · exact effect_closeScope space label body line
              (hasked.trans (sameScopes_fault line (by simp))) hopen
          · exact effect_ignored space label body line
              (hasked.trans (sameScopes_fault line (by simp)))

theorem effect (step : Step) : step.Effect space (step.after space) := by
  obtain ⟨builder, kind, text, line⟩ := step
  cases kind with
  | text => exact effect_text space builder text line
  | comment => exact .nothing rfl rfl (sameScopes_refl builder)
  | expression => exact effect_expression space builder text line
  | tag form label =>
      cases form with
      | single => exact effect_single space builder label text line
      | normal => exact effect_normal space builder label text line
      | closing => exact effect_closing space builder label text line

end Step

/-! ## The account -/

/-- The node comes from the element of the step: it is **what is read from the element**, and it has
children only if its tag was found to have them when it was opened. -/
structure Step.Made (space : String) (step : Step) (node : Node) : Prop where
  node?_eq : step.element.node? space = some node.childless
  opens_of_children : node.children ≠ [] → step.opens = true

theorem Step.made_of_childless {step : Step} {node : Node} (h : node.children = [])
    (hnode : step.element.node? space = some node) : step.Made space node where
  node?_eq := by
    rw [hnode]
    cases node with
    | text content => rfl
    | expression value line => rfl
    | function name arguments children line =>
        obtain rfl : children = [] := h
        rfl
  opens_of_children hne := absurd h hne

/-- The steps that made the nodes of a builder, from the front to the back: those of the outermost
scope up to the first open tag, the step that opened it, those of the next scope, and so on. -/
inductive Accounts (space : String) : List Step → List Frame → List Node → Prop
  | top {steps : List Step} {nodes : List Node}
      (made : List.Forall₂ (Step.Made space) steps (Node.preorderAll nodes.reverse)) :
      Accounts space steps [] nodes
  | scope {outer inner : List Step} {opener : Step} {frame : Frame} {frames : List Frame}
      {nodes : List Node} (accounts : Accounts space outer frames frame.before)
      (node?_eq : opener.element.node? space =
        some (.function frame.name frame.arguments [] frame.line)) (opens_eq : opener.opens = true)
      (made : List.Forall₂ (Step.Made space) inner (Node.preorderAll nodes.reverse)) :
      Accounts space (outer ++ opener :: inner) (frame :: frames) nodes

variable {made more : List Step} {frames : List Frame} {nodes : List Node}

theorem accounts_start (space : String) : Accounts space [] [] [] := .top .nil

/-- A node with all that is below it is added to the innermost scope. -/
theorem Accounts.push (h : Accounts space made frames nodes) {node : Node}
    (hnode : List.Forall₂ (Step.Made space) more node.preorder) :
    Accounts space (made ++ more) frames (node :: nodes) := by
  cases h with
  | top hmade =>
      refine .top ?_
      rw [Node.preorderAll_reverse_cons]
      exact List.rel_append hmade hnode
  | scope haccounts hopener hopens hmade =>
      rw [List.append_assoc, List.cons_append]
      refine .scope haccounts hopener hopens ?_
      rw [Node.preorderAll_reverse_cons]
      exact List.rel_append hmade hnode

/-- The tag of a scope that ends becomes a node, and the nodes of the scope its children. -/
theorem Accounts.close {frame : Frame} (h : Accounts space made (frame :: frames) nodes) :
    Accounts space made frames
      (.function frame.name frame.arguments nodes.reverse frame.line :: frame.before) := by
  cases h with
  | scope haccounts hopener hopens hmade =>
      refine haccounts.push ?_
      rw [Node.preorder]
      exact .cons ⟨hopener, fun _ => hopens⟩ hmade

/-- A step adds itself to the account if its element has a node. -/
theorem Accounts.step (h : Accounts space made builder.frames builder.nodes) (element : Element) :
    Accounts space (made ++ [⟨builder, element⟩].filter (Step.hasNode space))
      (add space builder element).frames (add space builder element).nodes := by
  have heffect := Step.effect space ⟨builder, element⟩
  rw [Step.after] at heffect
  cases heffect with
  | nothing node?_eq _ same =>
      have hnone : Step.hasNode space ⟨builder, element⟩ = false := by rw [Step.hasNode, node?_eq]; rfl
      rw [List.filter_cons_of_neg (by simp [hnone]), List.filter_nil, List.append_nil,
        same.frames_eq, same.nodes_eq]
      exact h
  | node node?_eq childless _ same =>
      have hsome : Step.hasNode space ⟨builder, element⟩ = true := by rw [Step.hasNode, node?_eq]; rfl
      rw [List.filter_cons_of_pos hsome, List.filter_nil, same.frames_eq, same.nodes_eq]
      refine h.push ?_
      rw [Node.preorder_of_childless childless]
      exact .cons (Step.made_of_childless childless node?_eq) .nil
  | opened opens_eq opened _ =>
      obtain ⟨name, arguments, line, node?_eq, frames_eq, nodes_eq⟩ := opened
      have hsome : Step.hasNode space ⟨builder, element⟩ = true := by rw [Step.hasNode, node?_eq]; rfl
      rw [List.filter_cons_of_pos hsome, List.filter_nil, frames_eq, nodes_eq]
      exact .scope h node?_eq opens_eq .nil
  | closed label kind_eq closed _ =>
      obtain ⟨frame, frames_eq, nodes_eq⟩ := closed
      have hnone : Step.hasNode space ⟨builder, element⟩ = false := by
        rw [Step.hasNode, Element.node?, kind_eq]
        rfl
      rw [List.filter_cons_of_neg (by simp [hnone]), List.filter_nil, List.append_nil, nodes_eq]
      refine Accounts.close ?_
      rw [← frames_eq]
      exact h

theorem accounts_steps (elements : List Element) (h : Accounts space made builder.frames builder.nodes) :
    Accounts space (made ++ (steps space builder elements).filter (Step.hasNode space))
      (elements.foldl (add space) builder).frames (elements.foldl (add space) builder).nodes := by
  induction elements generalizing builder made with
  | nil => simpa [steps] using h
  | cons element rest ih =>
      have hrest := ih (h.step element)
      rw [List.append_assoc, ← List.filter_append] at hrest
      exact hrest

/-- The scopes that are left open end with the template. -/
theorem Accounts.finish (h : Accounts space made frames nodes) (registry : Registry) (log : Log) :
    List.Forall₂ (Step.Made space) made
      (Node.preorderAll (closeAll registry frames nodes log).nodes.reverse) := by
  induction frames generalizing nodes log with
  | nil =>
      cases h with
      | top hmade => exact hmade
  | cons frame frames ih => exact ih h.close _

/-! ## Tags opened and closed -/

theorem Step.quiet (space : String) (step : Step) : Quiet step.before (step.after space) := by
  cases step.effect space with
  | nothing _ _ same => exact same.toQuiet
  | node _ _ _ same => exact ⟨same.asked, same.unclosed_eq⟩
  | opened _ _ quiet => exact quiet
  | closed _ _ _ quiet => exact quiet

/-- An element opens or closes at most one scope, and only an end tag closes one. -/
theorem Step.scopes (space : String) (step : Step) :
    (step.after space).frames.length + (if step.closes space then 1 else 0) =
        step.before.frames.length + (if step.opens then 1 else 0) ∧
      (step.closes space = true → ∃ label frame, step.element.kind = .tag .closing label ∧
        step.before.frames = frame :: (step.after space).frames) := by
  cases step.effect space with
  | nothing _ opens_eq same =>
      have hcloses : step.closes space = false := by simp [closes, same.frames_eq]
      simp [hcloses, opens_eq, same.frames_eq]
  | node _ _ opens_eq same =>
      have hcloses : step.closes space = false := by simp [closes, same.frames_eq, push]
      simp [hcloses, opens_eq, same.frames_eq, push]
  | opened opens_eq opened _ =>
      obtain ⟨name, arguments, line, -, frames_eq, -⟩ := opened
      have hcloses : step.closes space = false := by simp [closes, frames_eq]
      simp [hcloses, opens_eq, frames_eq]
  | closed label kind_eq closed _ =>
      obtain ⟨frame, frames_eq, -⟩ := closed
      have hcloses : step.closes space = true := by simp [closes, frames_eq]
      have hopens : step.opens = false := by simp [opens, kind_eq]
      exact ⟨by simp [hcloses, hopens, frames_eq], fun _ => ⟨label, frame, kind_eq, frames_eq⟩⟩

/-- While elements are added the registry is asked about tags, and that is all that happens to it. -/
theorem quiet_foldl_add (space : String) (builder : Builder) (elements : List Element) :
    Quiet builder (elements.foldl (add space) builder) := by
  induction elements generalizing builder with
  | nil => exact quiet_refl builder
  | cons element rest ih =>
      exact (Step.quiet space ⟨builder, element⟩).trans (ih (add space builder element))

theorem frames_foldl_add (space : String) (builder : Builder) (elements : List Element) :
    (elements.foldl (add space) builder).frames.length +
        (steps space builder elements).countP (Step.closes space) =
      builder.frames.length + (steps space builder elements).countP Step.opens := by
  induction elements generalizing builder with
  | nil => rfl
  | cons element rest ih =>
      have hrest := ih (add space builder element)
      obtain ⟨hframes, -⟩ := Step.scopes space ⟨builder, element⟩
      rw [Step.after] at hframes
      rw [List.foldl_cons, steps, List.countP_cons, List.countP_cons]
      dsimp only at hframes
      omega

/-- Every scope that is left open is reported. -/
theorem unclosed_closeAll (registry : Registry) (frames : List Frame) (nodes : List Node)
    (log : Log) :
    (closeAll registry frames nodes log).unclosed =
      log.countP Diagnostic.isUnclosed + frames.length := by
  induction frames generalizing nodes log with
  | nil => rfl
  | cons frame frames ih =>
      rw [closeAll, ih, List.countP_append, List.length_cons]
      have hone : [Diagnostic.ofParse ⟨frame.line, .unclosedTag frame.name⟩].countP
          Diagnostic.isUnclosed = 1 := rfl
      omega

theorem registry_closeAll (registry : Registry) (frames : List Frame) (nodes : List Node)
    (log : Log) : (closeAll registry frames nodes log).registry = registry := by
  induction frames generalizing nodes log with
  | nil => rfl
  | cons frame frames ih => exact ih _ _

theorem unclosed_finish (builder : Builder) :
    builder.finish.unclosed = builder.unclosed + builder.frames.length :=
  unclosed_closeAll _ _ _ _

/-! ## The account without the steps -/

theorem filterMap_of_made {nodes : List Node} (h : List.Forall₂ (Step.Made space) made nodes) :
    made.filterMap (fun step => step.element.node? space) = nodes.map Node.childless := by
  induction h with
  | nil => rfl
  | cons hmade _ ih => rw [List.filterMap_cons, hmade.node?_eq, List.map_cons, ih]

/-- The nodes that can be read from the elements are those of the steps. -/
theorem filterMap_steps (space : String) (builder : Builder) (elements : List Element) :
    ((steps space builder elements).filter (Step.hasNode space)).filterMap
        (fun step => step.element.node? space) =
      elements.filterMap (Element.node? space) := by
  induction elements generalizing builder with
  | nil => rfl
  | cons element rest ih =>
      cases hnode : element.node? space with
      | none =>
          have hnone : Step.hasNode space ⟨builder, element⟩ = false := by
            rw [Step.hasNode, hnode]
            rfl
          rw [steps, List.filter_cons_of_neg (by simp [hnone]), ih, List.filterMap_cons, hnode]
      | some node =>
          have hsome : Step.hasNode space ⟨builder, element⟩ = true := by
            rw [Step.hasNode, hnode]
            rfl
          rw [steps, List.filter_cons_of_pos hsome, List.filterMap_cons, ih, List.filterMap_cons]

end Builder

namespace Node

open Builder

/-- All that building does to the registry is to ask it about tags. -/
theorem exists_askedAbout_build (registry : Registry) (space : String) (elements : List Element) :
    ∃ tags, (build registry space elements).registry = registry.askedAbout tags := by
  obtain ⟨tags, hasked⟩ := (quiet_foldl_add space ⟨registry, [], [], []⟩ elements).asked
  exact ⟨tags, (registry_closeAll _ _ _ _).trans hasked⟩

/-- **Nothing is lost, made twice or moved**, however badly the tags are nested and whatever the
registry answers. The nodes of the tree in source order are those that are read from the elements, one
from each element that has a node; and a node has children only if its tag was found to have them when
it was opened. An element closes a tag only if it is an end tag, and then it closes the innermost one
and no other. Every tag that was opened and not closed is reported once. -/
theorem build_accounts_for_elements (registry : Registry) (space : String)
    (elements : List Element) :
    let steps := Builder.steps space ⟨registry, [], [], []⟩ elements
    let built := build registry space elements
    (preorderAll built.nodes).map childless = elements.filterMap (Element.node? space) ∧
      List.Forall₂ (Step.Made space) (steps.filter (Step.hasNode space))
        (preorderAll built.nodes) ∧
      (∀ step ∈ steps, step.closes space = true →
        ∃ label frame, step.element.kind = .tag .closing label ∧
          step.before.frames = frame :: (step.after space).frames) ∧
      built.log.countP Diagnostic.isUnclosed + steps.countP (Step.closes space) =
        steps.countP Step.opens := by
  intro steps built
  have hstart : Accounts space [] (Builder.mk registry [] [] []).frames
      (Builder.mk registry [] [] []).nodes := accounts_start space
  have hmade : List.Forall₂ (Step.Made space) (steps.filter (Step.hasNode space))
      (preorderAll built.nodes) := (accounts_steps elements hstart).finish _ _
  refine ⟨?_, hmade, fun step _ => (step.scopes space).2, ?_⟩
  · rw [← filterMap_of_made hmade, filterMap_steps]
  · have hunclosed := (quiet_foldl_add space ⟨registry, [], [], []⟩ elements).unclosed_eq
    have hframes := frames_foldl_add space ⟨registry, [], [], []⟩ elements
    have hlog : built.log.countP Diagnostic.isUnclosed =
        (elements.foldl (Builder.add space) ⟨registry, [], [], []⟩).frames.length := by
      refine (unclosed_finish (elements.foldl (Builder.add space) ⟨registry, [], [], []⟩)).trans ?_
      rw [hunclosed]
      exact Nat.zero_add _
    rw [hlog, hframes]
    exact Nat.zero_add _

end Node

end TextTemplate
