import TextTemplate.Proofs.Engine.Cache
import TextTemplate.Proofs.Expression.Reading
import TextTemplate.Proofs.Render.Depth
import TextTemplate.Proofs.Render.Plain

set_option autoImplicit false

/-! # A template that includes itself

The template `loop` consists of a text, an include of `loop` and another text. Nothing but the bound
on the depth ends its render: the texts are put out once by the template itself and once by each of
the `maxIncludeDepth` templates nested in it, and the innermost include is recorded
(`Loop.fetch_source`).

Main statement: `render_bounded`, which puts this beside what holds of every render. -/

namespace TextTemplate

namespace Loop

/-- The text between the delimiters of the include. -/
def body : String := "include uri='loop'"

/-- The text of the template. -/
def source (before after : String) : String := before ++ "\x7b" ++ body ++ "\x7d" ++ after

/-- A text as a node, unless it is empty. -/
def textNodes (text : String) : List Node := if text = "" then [] else [.text text]

/-- The nodes of the template. -/
def nodes (before after : String) : List Node :=
  textNodes before ++
    Node.includeOf (.text "loop") [] (1 + Text.lineBreaks before.toList) :: textNodes after

/-! ## Parsing -/

/-- The tag is read to its end and without a fault. -/
theorem reads_tag : (Parser.tag "" (Token.tokenize body)).Reads
    ("include", Table.ofList [("uri", .ofOperand (.text "loop"))]) [] := by
  have hlex : Token.tokenize body = [⟨.word, "include".toList⟩, ⟨.blank, [' ']⟩,
      ⟨.word, "uri".toList⟩, ⟨.equals, ['=']⟩, ⟨.quoted "loop".toList, "'loop'".toList⟩] := by
    decide +kernel
  have hvalue : (Parser.expression "" [⟨.quoted "loop".toList, "'loop'".toList⟩]).Reads
      (.ofOperand (.text "loop")) [] :=
    Parser.reads_expression_quoted String.ofList_toList (Parser.reads_operators_nil (by simp))
  rw [hlex]
  refine Parser.reads_tag (by decide +kernel) rfl ?_
  exact Parser.reads_parameters_cons rfl (by decide +kernel : _ = "uri") (by decide) rfl hvalue
    Parser.reads_parameters_nil

/-- The text is cut into three pieces at most. -/
theorem cut_source {before after : String} (hbefore : '{' ∉ before.toList)
    (hafter : '{' ∉ after.toList) :
    Piece.cut .standard (source before after).toList =
      Piece.leading before.toList ++ .block body.toList :: Piece.leading after.toList := by
  -- the tag needs no guard, so it ends at the first right delimiter
  have hguard : Text.guarded ['}'] body.toList = body.toList := by decide +kernel
  have hbody : body.toList = 'i' :: "nclude uri='loop'".toList := by decide +kernel
  have hblock : Piece.behindOpening .standard (body.toList ++ '}' :: after.toList) =
      (.block body.toList, after.toList) := by
    rw [← hguard, hbody]
    exact Piece.behindOpening_guarded after.toList (by decide) (by decide) (by decide)
  have hrest : Piece.cut .standard after.toList = Piece.leading after.toList := by
    refine Piece.cut_of_not_infix ?_
    simpa [List.singleton_infix_iff] using hafter
  have hwhole : (source before after).toList =
      before.toList ++ (['{'] ++ (body.toList ++ '}' :: after.toList)) := by
    simp [source, String.toList_append]
  rw [hwhole, ← hrest]
  exact Piece.cut_append (Text.firstAt_singleton hbefore _) hblock

/-- A text as an element, unless it is empty. -/
def textElements (text : String) (line : Nat) : List Element :=
  if text = "" then [] else [⟨.text, text, line⟩]

/-- The elements of the template. -/
def elements (before after : String) : List Element :=
  let line := 1 + Text.lineBreaks before.toList
  textElements before 1 ++ ⟨.tag .normal "include", body, line⟩ :: textElements after line

theorem elements_leading (text : String) (line : Nat) :
    ((Piece.numbered .standard line (Piece.leading text.toList)).map fun (line, piece) =>
        piece.element .standard line) = textElements text line ∧
      ((Piece.numbered .standard line (Piece.leading text.toList)).filterMap fun (line, piece) =>
        piece.problem? line) = [] := by
  unfold Piece.leading textElements
  by_cases h : text = ""
  · simp [h, Piece.numbered]
  · simp [h, Piece.numbered, Piece.element, Piece.problem?]

theorem scan_source {before after : String} (hbefore : '{' ∉ before.toList)
    (hafter : '{' ∉ after.toList) :
    Element.scan (some .standard) (source before after) = ⟨elements before after, []⟩ := by
  have hblock : ∀ line, (Piece.block body.toList).element .standard line =
      ⟨.tag .normal "include", body, line⟩ := fun _ => rfl
  have hlines : Text.lineBreaks ((Piece.block body.toList).source .standard) = 0 := by
    decide +kernel
  simp only [Element.scan, cut_source hbefore hafter, Piece.numbered_append, Piece.numbered,
    Piece.flatMap_source_leading, List.map_append, List.map_cons, List.filterMap_append,
    List.filterMap_cons, elements_leading, hblock, hlines]
  rfl

/-- A text is laid out by itself between tags, if it has no line breaks at its ends. -/
theorem layoutFrom_textElements {isLiteral : String → Bool} {afterTag : Bool} {text : String}
    {rest more : List Element} (line : Nat)
    (htrimmed : Element.trimmed afterTag (rest.head?.any (·.kind.isTag)) text = text)
    (hrest : ∀ afterTag, Element.layoutFrom .standard isLiteral afterTag rest = ⟨more, []⟩) :
    Element.layoutFrom .standard isLiteral afterTag (textElements text line ++ rest) =
      ⟨textElements text line ++ more, []⟩ := by
  unfold textElements
  by_cases h : text = ""
  · rw [if_pos h]
    exact hrest afterTag
  · rw [if_neg h, List.singleton_append, Element.layoutFrom]
    simp only [htrimmed, hrest, if_neg h, List.singleton_append]

/-- The texts keep their ends, for there are no line breaks next to the tag. -/
theorem layout_elements {before after : String} (hend : before.toList.getLast? ≠ some '\n')
    (hstart : after.toList.head? ≠ some '\n') {isLiteral : String → Bool}
    (hinclude : isLiteral "include" = false) :
    Element.layout .standard isLiteral (elements before after) = ⟨elements before after, []⟩ := by
  let line := 1 + Text.lineBreaks before.toList
  -- a text loses a line break only where a tag comes next to it
  have hbefore : Element.trimmed false true before = before := by
    simp [Element.trimmed, Text.dropTrailing_eq_self hend]
  have hafter : Element.trimmed true false after = after := by
    simp [Element.trimmed, Text.dropLeading_eq_self hstart]
  have hbehind : Element.layoutFrom .standard isLiteral true (textElements after line) =
      ⟨textElements after line, []⟩ := by
    have hnil : ∀ afterTag, Element.layoutFrom .standard isLiteral afterTag [] = ⟨[], []⟩ :=
      fun _ => by rw [Element.layoutFrom]
    have hlaid := layoutFrom_textElements line hafter hnil
    rwa [List.append_nil] at hlaid
  have htag : ∀ afterTag, Element.layoutFrom .standard isLiteral afterTag
      (⟨.tag .normal "include", body, line⟩ :: textElements after line) =
        ⟨⟨.tag .normal "include", body, line⟩ :: textElements after line, []⟩ := by
    intro afterTag
    rw [Element.layoutFrom]
    simp only [hinclude, hbehind, Bool.not_false, if_pos]
  exact layoutFrom_textElements 1 hbefore htag

theorem add_textElements (text : String) (line : Nat) (builder : Builder) :
    (textElements text line).foldl (Builder.add "") builder =
      { builder with nodes := (textNodes text).reverse ++ builder.nodes } := by
  unfold textElements textNodes
  by_cases h : text = ""
  · simp only [if_pos h]
    rfl
  · simp only [if_neg h]
    rfl

/-- The tag is added as a node, for it has no children. -/
theorem add_tag {builder : Builder} (h : builder.registry.Standard) (line : Nat) :
    builder.add "" ⟨.tag .normal "include", body, line⟩ =
      builder.push (.includeOf (.text "loop") [] line) := by
  obtain ⟨hvalue, -, hfaults⟩ := reads_tag
  have howns : builder.ownsChildren "include" = (false, builder) := by
    rw [Builder.ownsChildren, Registry.hasChildren_of_standard h]
    rfl
  show builder.addTag "" body .normal line = _
  unfold Builder.addTag
  simp only [hvalue, hfaults, Builder.faults, List.map_nil, Builder.note_nil, if_pos, howns]
  rfl

theorem build_elements {registry : Registry} (h : registry.Standard) (before after : String) :
    Node.build registry "" (elements before after) = ⟨nodes before after, registry, []⟩ := by
  unfold Node.build elements
  rw [List.foldl_append, add_textElements, List.foldl_cons, add_tag h, add_textElements]
  simp [Builder.push, Builder.finish, Builder.closeAll, nodes]

/-- Two texts that the delimiters of the include do not touch: there is no other tag, and there is
no line break next to the include that would be taken for part of it. -/
structure Plain (before after : String) : Prop where
  before_plain : '{' ∉ before.toList
  after_plain : '{' ∉ after.toList
  before_end : before.toList.getLast? ≠ some '\n'
  after_start : after.toList.head? ≠ some '\n'

/-- The engine reads the template `loop` as it is meant, and it is what the loaders give. -/
structure Knows (engine : Engine) (before after : String) : Prop where
  delimiters_eq : engine.delimiters = .standard
  isLiteral_eq : engine.registry.isLiteral "include" = false
  upToDate : engine.CacheUpToDate
  fetch_eq : ∃ modified, engine.resources.fetch "loop" = .ok ⟨source before after, modified⟩

variable {engine engine' : Engine} {before after : String}

/-- Nothing is wrong with the template. -/
theorem parse_source (h : engine.registry.Standard) (hplain : Plain before after)
    (hknows : Knows engine before after) (name : String) :
    (engine.parse (source before after) name).1.nodes = nodes before after ∧
      (engine.parse (source before after) name).2 = engine := by
  have hread : Element.read (some engine.delimiters) engine.registry.isLiteral
      (source before after) = ⟨elements before after, []⟩ := by
    simp only [Element.read, hknows.delimiters_eq,
      scan_source hplain.before_plain hplain.after_plain,
      layout_elements hplain.before_end hplain.after_start hknows.isLiteral_eq, List.append_nil]
  have hbuild := build_elements h before after
  constructor
  · simp only [Engine.parse, hread, hbuild]
  · simp only [Engine.parse, hread, hbuild, List.map_nil, List.append_nil]

/-- The template is in the cache. -/
def Cached (engine : Engine) (before after : String) : Prop :=
  ∃ published, engine.cache.get? (engine.cacheKey "loop") = some published ∧
    published.tree.nodes = nodes before after

/-- Once it is loaded it is in the cache, and nothing was recorded. -/
theorem load_source (h : engine.registry.Standard) (hplain : Plain before after)
    (hknows : Knows engine before after) :
    ∃ published engine', engine.load "loop" = (.ok published, engine') ∧
      published.tree.nodes = nodes before after ∧ engine'.registry.Standard ∧
      Cached engine' before after ∧ engine'.log = engine.log := by
  obtain ⟨modified, hfetch⟩ := hknows.fetch_eq
  obtain ⟨hnodes, hparse⟩ := parse_source h hplain hknows "loop"
  have hafresh : engine.loadAfresh "loop" =
      (.ok { (engine.parse (source before after) "loop").1 with modified }, engine) := by
    simp only [Engine.loadAfresh, hfetch, hparse]
  have hsame : ∀ published : Published, (engine.loadAfresh "loop").1 = .ok published.tree →
      published.tree.nodes = nodes before after := by
    intro published htree
    rw [hafresh] at htree
    rw [← Except.ok.inj htree, ← hnodes]
  rcases Engine.load_cases h "loop" with ⟨published, hcached, hload⟩ |
    ⟨problem, -, hproblem, -⟩ | ⟨published, cache, -, htree, hget, hload⟩
  · have htree := hsame published (hknows.upToDate.loadAfresh_eq hcached)
    exact ⟨published, engine, hload, htree, h, ⟨published, hcached, htree⟩, rfl⟩
  · rw [hafresh] at hproblem
    cases hproblem
  · have hcached := (hget (engine.cacheKey "loop")).trans (if_pos rfl)
    refine ⟨published, _, hload, hsame published htree, h,
      ⟨published, hcached, hsame published htree⟩, ?_⟩
    rw [hafresh]

/-! ## Rendering -/

/-- So many copies of a text. -/
def copies (count : Nat) (text : String) : String := String.join (List.replicate count text)

theorem run_textNodes (context : Context) (text : String) (engine : Engine) :
    (renderNodes context (textNodes text)).run engine = (text, engine) := by
  have hnode : (renderNode context (.text text)).run engine = (text, engine) := by
    rw [renderNode]
    rfl
  unfold textNodes
  by_cases h : text = ""
  · rw [if_pos h, run_renderNodes_nil, h]
  · rw [if_neg h, run_renderNodes_cons hnode (run_renderNodes_nil _ _), String.append_empty]

/-- The output of the included template stands between the texts. -/
theorem run_nodes (h : engine.registry.Standard) {context : Context} {output : String}
    (hinner : (context.templateAt "loop" context.space).run engine = (output, engine')) :
    (renderNodes context (nodes before after)).run engine =
      (before ++ output ++ after, engine') := by
  have huri : (Operand.text "loop").literal? = some (.text "loop") := rfl
  have hinclude : (renderNode context (.includeOf (.text "loop") []
      (1 + Text.lineBreaks before.toList))).run engine = (output, engine') :=
    (Node.takes_include h huri context.space [] _ context.templateAt).trans hinner
  have htail := run_renderNodes_cons hinclude (run_textNodes context after engine')
  rw [nodes, renderNodes_append, run_bind, run_textNodes, run_bind, htail, String.append_assoc]
  rfl

/-- One level more puts out one copy in front of those before, and one behind those after. -/
theorem run_level (h : engine.registry.Standard) {levels : Nat} {space : String}
    (hinner : (renderTemplate levels "loop" space).run engine =
      (copies levels before ++ copies levels after, engine')) :
    (renderNodes ⟨space, renderTemplate levels⟩ (nodes before after)).run engine =
      (copies (levels + 1) before ++ copies (levels + 1) after, engine') := by
  have hbefore : copies (levels + 1) before = before ++ copies levels before := by
    rw [copies, List.replicate_succ, String.join_cons, copies]
  have hafter : copies (levels + 1) after = copies levels after ++ after := by
    rw [copies, List.replicate_succ', String.join_append, String.join_cons, String.join_nil,
      String.append_empty, copies]
  rw [run_nodes h hinner, hbefore, hafter]
  simp only [String.append_assoc]

theorem load_of_cached {published : Published}
    (h : engine.cache.get? (engine.cacheKey "loop") = some published) :
    engine.load "loop" = (.ok published, engine) := by
  rw [Engine.load, h]

/-- Nothing happens but that the innermost include is recorded. -/
theorem run_renderTemplate (h : engine.registry.Standard) (hcached : Cached engine before after)
    (levels : Nat) (space : String) :
    (renderTemplate levels "loop" space).run engine =
      (copies levels before ++ copies levels after, engine.note (.tooDeep "loop")) := by
  -- induction on the levels that are left
  induction levels with
  | zero => rfl
  | succ levels ih =>
      obtain ⟨published, hlookup, hnodes⟩ := hcached
      rw [renderTemplate, run_bind, run_loadTree, load_of_cached hlookup]
      dsimp only
      rw [hnodes]
      exact run_level h ih

/-- **The texts are put out by the template itself and at every level below it**, and the include
that goes too deep is all that is recorded. -/
theorem fetch_source (h : engine.registry.Standard) (hplain : Plain before after)
    (hknows : Knows engine before after) :
    ∃ engine', engine.fetch "loop" =
        (.ok (copies (maxIncludeDepth + 1) before ++ copies (maxIncludeDepth + 1) after), engine') ∧
      engine'.log = engine.log ++ [.tooDeep "loop"] := by
  obtain ⟨published, loaded, hload, hnodes, hstandard, hcached, hlog⟩ := load_source h hplain hknows
  have hlevels := run_renderTemplate hstandard hcached maxIncludeDepth ""
  have hrender : loaded.render published.tree =
      (copies (maxIncludeDepth + 1) before ++ copies (maxIncludeDepth + 1) after,
        loaded.note (.tooDeep "loop")) := by
    rw [Engine.render, hnodes]
    exact run_level hstandard hlevels
  refine ⟨loaded.note (.tooDeep "loop"), ?_, ?_⟩
  · simp only [Engine.fetch, hload, hrender]
  · show loaded.log ++ [.tooDeep "loop"] = _
    rw [hlog]

end Loop

/-- **Rendering is bounded**, whatever the templates, the variables and the tree are. Every render
on a standard engine comes to an end by the rules that count the depth of the contexts, the renderer
follows those rules, and no context is deeper than `maxIncludeDepth`. An include in a context of
that depth loads nothing and has no output, and the one thing it does is to record that it goes too
deep. So a template that includes itself between two texts puts out the first of them 33 times and
then the second one 33 times, and one diagnostic is recorded. -/
theorem render_bounded (engine : Engine) (h : engine.registry.Standard) :
    (∀ depth (task : Task), ∃ output engine' opened,
      Renders depth task engine output engine' opened) ∧
    (∀ depth (task : Task) output engine' opened, Renders depth task engine output engine' opened →
      (task.render depth).run engine = (output, engine') ∧
        ∀ inner ∈ opened, inner ≤ maxIncludeDepth) ∧
    (∀ uri space output engine' opened,
      Renders maxIncludeDepth (.template uri space) engine output engine' opened →
        output = "" ∧ opened = [] ∧
          engine' = engine.note (.error "include" (.includeDepthExceeded uri maxIncludeDepth))) ∧
    ∀ before after, Loop.Plain before after → Loop.Knows engine before after →
      ∃ engine', engine.fetch "loop" =
          (.ok (String.join (List.replicate 33 before) ++ String.join (List.replicate 33 after)),
            engine') ∧
        engine'.log = engine.log ++ [.error "include" (.includeDepthExceeded "loop" 32)] := by
  refine ⟨?terminates, ?bounded, ?refused, ?closed⟩
  case terminates => exact fun depth task => task.ends depth engine h
  case bounded =>
    intro depth task output engine' opened hrenders
    exact ⟨hrenders.run_eq, fun inner hinner => (hrenders.le_of_mem_opened inner hinner).2⟩
  case refused =>
    intro uri space output engine' opened hrenders
    cases hrenders with
    | exceeded _ => exact ⟨rfl, rfl, rfl⟩
    | failed bound _ => exact absurd bound (Nat.lt_irrefl _)
    | loaded bound _ _ => exact absurd bound (Nat.lt_irrefl _)
  case closed =>
    intro before after hplain hknows
    exact Loop.fetch_source h hplain hknows

/-- An engine that knows such a template. -/
theorem render_bounded_memory :
    let engine : Engine := { Engine.standard with
      resources := Resources.register {} "memory"
        (.memory (Table.ofList [("loop", Loop.source "a\n-" " b\x7d")])) }
    engine.registry.Standard ∧ Loop.Plain "a\n-" " b\x7d" ∧ Loop.Knows engine "a\n-" " b\x7d" ∧
      (∃ output engine' opened,
        Renders 0 (.template "loop" "") engine output engine' opened ∧
          ∀ inner ∈ opened, inner ≤ maxIncludeDepth) ∧
      ∃ engine', engine.fetch "loop" =
          (.ok (String.join (List.replicate 33 "a\n-") ++ String.join (List.replicate 33 " b\x7d")),
            engine') ∧
        engine'.log = engine.log ++ [.error "include" (.includeDepthExceeded "loop" 32)] := by
  intro engine
  have h : engine.registry.Standard := Registry.standard_standardRegistry
  have hplain : Loop.Plain "a\n-" " b\x7d" :=
    ⟨by decide, by decide, by decide, by decide⟩
  have hknows : Loop.Knows engine "a\n-" " b\x7d" :=
    ⟨rfl, rfl, Engine.cacheUpToDate_of_empty rfl, false, rfl⟩
  obtain ⟨hends, hbounded, -, hclosed⟩ := render_bounded engine h
  obtain ⟨output, engine', opened, hrenders⟩ := hends 0 (.template "loop" "")
  exact ⟨h, hplain, hknows, ⟨output, engine', opened, hrenders,
    (hbounded _ _ _ _ _ hrenders).2⟩, hclosed _ _ hplain hknows⟩

end TextTemplate
