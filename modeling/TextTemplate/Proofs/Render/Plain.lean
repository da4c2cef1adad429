import Mathlib.Data.List.Forall2
import TextTemplate.Proofs.Element.Cut
import TextTemplate.Proofs.Expression.Operand
import TextTemplate.Render

set_option autoImplicit false

/-! # Templates without tags

Comments, texts, quoted texts and variables do not get in each other's way: what a sequence of them
renders to is what each of them renders to alone. `Element.Shows` says what an element contributes
if no tag stands beside it, and `parse_of_shows` puts the contributions together.

Main statement: `render_segments`, for a template that is written segment by segment, with whatever
text in the quoted ones. -/

namespace TextTemplate

/-! ## Elements that speak for themselves -/

/-- In a template without tags the element shows `output` and **changes nothing**: it is a comment,
or it becomes one node that renders to the output. -/
inductive Element.Shows (engine : Engine) : Element → String → Prop
  | comment {element : Element} (kind_eq : element.kind = .comment) : Shows engine element ""
  | node {element : Element} {node : Node} {output : String}
      (textLike : element.kind.isTextLike = true) (nonempty : element.text ≠ "")
      (adds : ∀ builder : Builder, builder.add "" element = builder.push node)
      (renders : (renderNode .top node).run engine = (output, engine)) :
      Shows engine element output

variable {engine : Engine}

theorem Element.Shows.isTag_eq_false {element : Element} {output : String}
    (h : Shows engine element output) : element.kind.isTag = false := by
  cases h with
  | comment kind_eq => rw [kind_eq]; rfl
  | node textLike _ _ _ =>
      cases hk : element.kind with
      | text | comment | expression => rfl
      | tag form name => rw [hk] at textLike; cases textLike

theorem Element.no_tags_of_shows {elements : List Element} {outputs : List String}
    (h : List.Forall₂ (Shows engine) elements outputs) :
    ∀ element ∈ elements, element.kind.isTag = false := by
  induction h with
  | nil =>
      intro element he
      exact absurd he List.not_mem_nil
  | cons hshow _ ih =>
      intro element he
      rcases List.mem_cons.1 he with rfl | he
      · exact hshow.isTag_eq_false
      · exact ih element he

/-- What the layout keeps of elements without tags. -/
def Element.kept (element : Element) : Bool := element.kind.isTextLike && element.text ≠ ""

theorem Element.trimmed_false (text : String) : trimmed false false text = text := by
  simp [trimmed]

/-- **Without tags** the layout drops comments and empty texts, and nothing else happens. -/
theorem Element.layoutFrom_of_no_tags (delimiters : Delimiters) (isLiteral : String → Bool)
    {elements : List Element} (h : ∀ element ∈ elements, element.kind.isTag = false) :
    layoutFrom delimiters isLiteral false elements = ⟨elements.filter kept, []⟩ := by
  induction elements with
  | nil => rw [layoutFrom]; rfl
  | cons element rest ih =>
      have hrest := ih fun e he => h e (List.mem_cons_of_mem element he)
      have hnext : rest.head?.any (·.kind.isTag) = false := by
        cases rest with
        | nil => rfl
        | cons next rest => exact h next (by simp)
      rw [layoutFrom]
      obtain ⟨kind, text, line⟩ := element
      cases kind with
      | comment => simp [hrest, kept, ElementKind.isTextLike]
      | text | expression =>
          simp only [hrest, hnext, trimmed_false]
          by_cases ht : text = ""
          · simp [ht, kept]
          · simp [ht, kept, ElementKind.isTextLike]
      | tag form name => exact absurd (h _ List.mem_cons_self) (by simp [ElementKind.isTag])

/-- The nodes of such elements, and what they render to. -/
theorem Element.exists_nodes {elements : List Element} {outputs : List String}
    (h : List.Forall₂ (Shows engine) elements outputs) :
    ∃ nodes : List Node,
      (∀ builder : Builder, (elements.filter kept).foldl (Builder.add "") builder =
        { builder with nodes := nodes.reverse ++ builder.nodes }) ∧
      (renderNodes .top nodes).run engine = (String.join outputs, engine) := by
  induction h with
  | nil => exact ⟨[], fun builder => rfl, by rw [renderNodes, String.join_nil]; rfl⟩
  | @cons element output elements outputs hshow _ ih =>
      obtain ⟨nodes, hadd, hrender⟩ := ih
      cases hshow with
      | comment kind_eq =>
          have hk : element.kept = false := by rw [kept, kind_eq]; rfl
          refine ⟨nodes, fun builder => ?_, ?_⟩
          · rw [List.filter_cons_of_neg (by simp [hk]), hadd]
          · rw [hrender, String.join_cons, String.empty_append]
      | node textLike nonempty adds renders =>
          rename_i node
          have hk : element.kept = true := by simp [kept, textLike, nonempty]
          refine ⟨node :: nodes, fun builder => ?_, ?_⟩
          · rw [List.filter_cons_of_pos hk, List.foldl_cons, adds, hadd]
            simp [Builder.push]
          · rw [String.join_cons]
            exact run_renderNodes_cons renders hrender

/-- The same for the pieces that a source is cut into. -/
def Piece.Shows (engine : Engine) (piece : Piece) (output : String) : Prop :=
  ∀ line, piece.problem? line = none ∧
    Element.Shows engine (piece.element engine.delimiters line) output

theorem Piece.shows_numbered {pieces : List Piece} {outputs : List String}
    (h : List.Forall₂ (Shows engine) pieces outputs) (line : Nat) :
    List.Forall₂ (Element.Shows engine)
        ((numbered engine.delimiters line pieces).map fun (line, piece) =>
          piece.element engine.delimiters line) outputs ∧
      ((numbered engine.delimiters line pieces).filterMap fun (line, piece) =>
        piece.problem? line) = [] := by
  induction h generalizing line with
  | nil => exact ⟨.nil, rfl⟩
  | @cons piece output pieces outputs hshow _ ih =>
      obtain ⟨helements, hproblems⟩ := ih (line + Text.lineBreaks (piece.source engine.delimiters))
      refine ⟨.cons (hshow line).2 helements, ?_⟩
      rw [numbered, List.filterMap_cons]
      simp only [(hshow line).1, hproblems]

/-- **What is put together of such pieces renders to what they show**, one behind the other, and the
engine is left as it was. -/
theorem Engine.parse_of_shows {text : String} {outputs : List String} (source : String)
    (h : List.Forall₂ (Piece.Shows engine) (Piece.cut engine.delimiters text.toList) outputs) :
    (engine.parse text source).2 = engine ∧
      engine.render (engine.parse text source).1 = (String.join outputs, engine) := by
  obtain ⟨helements, hproblems⟩ := Piece.shows_numbered h 1
  obtain ⟨nodes, hadd, hrender⟩ := Element.exists_nodes helements
  have hlayout := Element.layoutFrom_of_no_tags engine.delimiters engine.registry.isLiteral
    (Element.no_tags_of_shows helements)
  have hbuild := hadd ⟨engine.registry, [], [], []⟩
  constructor
  · simp only [Engine.parse, Element.read, Element.scan, Element.layout, hlayout, hproblems,
      Node.build, hbuild]
    simp [Builder.finish, Builder.closeAll]
  · simp only [Engine.parse, Element.read, Element.scan, Element.layout, hlayout,
      Node.build, hbuild]
    simpa [Builder.finish, Builder.closeAll, Engine.render] using hrender

/-! ## What single pieces show -/

/-- Text shows itself. -/
theorem Piece.shows_text {content : List Char} (hne : content ≠ []) :
    (Piece.text content).Shows engine (String.ofList content) := by
  intro line
  refine ⟨rfl, .node rfl ?_ (fun builder => rfl) rfl⟩
  exact fun h => hne (String.ofList_eq_empty_iff.1 h)

theorem Piece.shows_leading (engine : Engine) (before : List Char) :
    ∃ outputs, List.Forall₂ (Shows engine) (leading before) outputs ∧
      String.join outputs = String.ofList before := by
  by_cases h : before = []
  · refine ⟨[], ?_, ?_⟩
    · rw [leading, if_pos h]
      exact .nil
    · rw [h, String.join_nil, String.ofList_nil]
  · refine ⟨[String.ofList before], ?_, ?_⟩
    · rw [leading, if_neg h]
      exact .cons (shows_text h) .nil
    · simp

/-- A text without left delimiters renders to itself. -/
theorem Engine.parse_of_not_infix {text : String} (h : ¬ engine.delimiters.opening <:+: text.toList)
    (source : String) :
    (engine.parse text source).2 = engine ∧
      engine.render (engine.parse text source).1 = (text, engine) := by
  obtain ⟨outputs, hshow, hjoin⟩ := Piece.shows_leading engine text.toList
  rw [← Piece.cut_of_not_infix h] at hshow
  have hrender := Engine.parse_of_shows source hshow
  rwa [hjoin, String.ofList_toList] at hrender

/-- A comment shows nothing. -/
theorem Piece.shows_comment (body : List Char) : (Piece.comment body).Shows engine "" :=
  fun _ => ⟨rfl, .comment rfl⟩

/-- A block that is an expression without slashes at its ends. -/
theorem Piece.element_of_isExpression {delimiters : Delimiters} {raw body : List Char} (line : Nat)
    (hbody : Text.unescape delimiters.closing raw = body) (hexp : isExpression body = true)
    (hfirst : body.head? ≠ some '/') (hlast : body.getLast? ≠ some '/') :
    (Piece.block raw).element delimiters line = ⟨.expression, String.ofList body, line⟩ := by
  have hraw : raw ≠ [] := by
    rintro rfl
    rw [Text.unescape_nil] at hbody
    subst hbody
    cases hexp
  have hform : formOf body = (.normal, body) := by
    unfold formOf
    split
    · exact absurd rfl hfirst
    · rw [Text.beforeTrailing?, if_neg hlast]
  rw [Text.unescape] at hbody
  rw [element, elementOfBlock, if_neg hraw, hbody, hform]
  simp [hexp]

/-- An expression that is read to its end becomes one node. -/
theorem Builder.addExpression_of_complete {body : String} {expression : Expression} {line : Nat}
    (h : (Parser.expression "" (Token.tokenize body)).Complete expression) (builder : Builder) :
    builder.addExpression "" body line = builder.push (.expression expression line) := by
  obtain ⟨hv, hr, hf⟩ := h
  simp [addExpression, Parser.Cursor.ofBody, Parser.Cursor.moveTo, Parser.Cursor.isAtEnd, hv, hr,
    hf, faults, note, push]

/-- A block shows what its expression evaluates to. -/
theorem Piece.shows_block {raw body : List Char} {operand : Operand} {value : Value}
    (hbody : Text.unescape engine.delimiters.closing raw = body) (hexp : isExpression body = true)
    (hfirst : body.head? ≠ some '/') (hlast : body.getLast? ≠ some '/')
    (hparse : (Parser.expression "" (Token.tokenize (String.ofList body))).Complete
      (.ofOperand operand))
    (heval : (evaluateOperand "" operand).run engine = (value, engine))
    (hvalue : ∀ host, value ≠ .object host) :
    (Piece.block raw).Shows engine value.display := by
  intro line
  rw [element_of_isExpression line hbody hexp hfirst hlast]
  have hne : body ≠ [] := by
    rintro rfl
    cases hexp
  refine ⟨rfl, .node rfl ?_ (Builder.addExpression_of_complete hparse) ?_⟩
  · exact fun h => hne (String.ofList_eq_empty_iff.1 h)
  · have hshow : showValue .top value = pure value.display := by
      cases value with
      | object host => exact absurd rfl (hvalue host)
      | _ => rfl
    have hrun : (evaluate Context.top.space (.ofOperand operand)).run engine = (value, engine) := by
      rw [Expression.ofOperand, evaluate, run_bind, Context.top, heval]
      rfl
    rw [renderNode, run_bind, hrun, hshow]
    rfl

/-! ## Blocks that are written with a guard -/

@[simp] theorem Delimiters.opening_standard : standard.opening = ['{'] := rfl

@[simp] theorem Delimiters.closing_standard : standard.closing = ['}'] := rfl

/-- A block that is written with a guard ends where it should. -/
theorem Piece.behindOpening_guarded {c : Char} {text : List Char} (rest : List Char)
    (hstar : c ≠ '*') (hbrace : c ≠ '}') (hlast : text.getLastD c ≠ '\\') :
    behindOpening .standard (Text.guarded ['}'] (c :: text) ++ '}' :: rest)
      = (.block (Text.guarded ['}'] (c :: text)), rest) := by
  have hmem : c ∉ ['}'] := by simpa using hbrace
  have hguard := Text.guarded_cons_of_not_mem hmem text
  have hend : (c :: text).getLastD '{' ≠ '\\' := by rwa [List.getLastD_cons]
  have hclose := closing?_guarded (by decide : '}' ≠ '\\') (c :: text) rest hend
  rw [hguard, List.cons_append] at hclose ⊢
  exact behindOpening_block hstar hclose

/-- **An expression that is written with a guard** against right delimiters is one piece, and it
shows the value of the expression. -/
theorem Piece.shows_guarded (hd : engine.delimiters = .standard) {c : Char} {text : List Char}
    {operand : Operand} {value : Value} (hfirst : c ∉ ['*', '}', '/'])
    (hlast : text.getLastD c ∉ ['\\', '/']) (hexp : isExpression (c :: text) = true)
    (hparse : (Parser.expression "" (Token.tokenize (String.ofList (c :: text)))).Complete
      (.ofOperand operand))
    (heval : (evaluateOperand "" operand).run engine = (value, engine))
    (hvalue : ∀ host, value ≠ .object host) :
    (∀ rest, behindOpening .standard (Text.guarded ['}'] (c :: text) ++ ['}'] ++ rest)
        = (.block (Text.guarded ['}'] (c :: text)), rest)) ∧
      (Piece.block (Text.guarded ['}'] (c :: text))).Shows engine value.display := by
  obtain ⟨hstar, hbrace, hslash⟩ : c ≠ '*' ∧ c ≠ '}' ∧ c ≠ '/' := by simpa using hfirst
  obtain ⟨hback, hslash'⟩ : text.getLastD c ≠ '\\' ∧ text.getLastD c ≠ '/' := by simpa using hlast
  constructor
  · intro rest
    rw [List.append_assoc]
    exact behindOpening_guarded rest hstar hbrace hback
  · have hbody : Text.unescape engine.delimiters.closing (Text.guarded ['}'] (c :: text))
        = c :: text := by
      rw [hd]
      exact Text.unescape_guarded (by decide) _
    refine shows_block hbody hexp (by simpa using hslash) ?_ hparse heval hvalue
    rw [List.getLast?_cons, ← List.getLastD_eq_getLast?]
    exact fun h => hslash' (Option.some.inj h)

/-! ## References -/

/-- A variable that is set has the value it is set to. -/
theorem run_evaluateOperand_reference {space : String} {explicit : Option String} {name : String}
    {value : Value} (h : engine.store.get? (resolveSpace space explicit) name = some value) :
    (evaluateOperand space (.reference ⟨explicit, name, []⟩)).run engine = (value, engine) := by
  rw [evaluateOperand]
  simp only [StateT.run_bind, StateT.run_get, pure_bind, h, follow]
  rfl

/-- **A reference is one piece** as it is written, and it shows the value of its variable. -/
theorem Piece.shows_path (hd : engine.delimiters = .standard) {target : List Char} {value : Value}
    (htarget : ∀ c ∈ target, Token.isPathChar c = true)
    (hbound : engine.store.get? (resolveSpace "" (Parser.path "" (Token.lexemesFrom 0 target)).1)
      (Parser.path "" (Token.lexemesFrom 0 target)).2 = some value)
    (hvalue : ∀ host, value ≠ .object host) :
    (∀ rest, behindOpening .standard ('$' :: target ++ ['}'] ++ rest)
        = (.block ('$' :: target), rest)) ∧
      (Piece.block ('$' :: target)).Shows engine value.display := by
  have hchars : ∀ c ∈ '$' :: target, c = '$' ∨ Token.isPathChar c = true := fun c hc =>
    (List.mem_cons.1 hc).imp_right (htarget c)
  have hguard : Text.guarded ['}'] ('$' :: target) = '$' :: target := by
    refine Text.guarded_eq_self fun c hc hbrace => ?_
    obtain rfl := List.mem_singleton.1 hbrace
    exact absurd (hchars _ hc) (by decide)
  have hends : target.getLastD '$' ∉ ['\\', '/'] := by
    have hlast := hchars _ List.getLastD_mem_cons
    intro hmem
    rcases List.mem_pair.1 hmem with heq | heq
    all_goals
      rw [heq] at hlast
      exact absurd hlast (by decide)
  have hshows := shows_guarded hd (by decide) hends rfl (Parser.complete_path htarget)
    (run_evaluateOperand_reference hbound) hvalue
  rwa [hguard] at hshows

/-! ## Segments -/

/-- **A part of a template without tags**, with the reason why it is one. -/
inductive Segment (store : Store)
  /-- Text without a left delimiter. -/
  | text (content : String) (plain : '{' ∉ content.toList)
  /-- A comment that does not end early. -/
  | comment (body : String) (unended : ¬ ['*', '}'] <:+: body.toList)
  /-- Any text at all, in quotes. -/
  | quoted (content : String)
  /-- A variable that is set, and not to an object. -/
  | reference (name : String) (value : Value) (nonempty : name ≠ "")
      (word : ∀ c ∈ name.toList, Text.isWordChar c = true)
      (bound : store.get? "" name = some value) (plain : ∀ host, value ≠ .object host)

namespace Segment

variable {store : Store}

/-- How the segment is written. In quotes, backslashes and quotes have a backslash in front of them,
and so have the right delimiters after that. -/
def source : Segment store → String
  | text content _ => content
  | comment body _ => "\x7b*" ++ body ++ "*\x7d"
  | quoted content =>
    "\x7b\"" ++ String.ofList (Text.guarded ['}'] (Text.guarded ['\\', '"'] content.toList)) ++
      "\"\x7d"
  | reference name _ _ _ _ _ => "\x7b$" ++ name ++ "\x7d"

/-- What the segment renders to. -/
def output : Segment store → String
  | text content _ => content
  | comment _ _ => ""
  | quoted content => content
  | reference _ value _ _ _ _ => value.display

/-- The text of the segments one behind the other. -/
def sourceAll (segments : List (Segment store)) : List Char :=
  segments.flatMap fun segment => segment.source.toList

/-- The segment is **one piece wherever it stands**, and the piece shows what the segment should. -/
def StandsAlone (engine : Engine) (segment : Segment engine.store) : Prop :=
  ∃ behind piece, segment.source.toList = '{' :: behind ∧
    (∀ rest, Piece.behindOpening .standard (behind ++ rest) = (piece, rest)) ∧
    piece.Shows engine segment.output

theorem standsAlone_comment (engine : Engine) (body : String)
    (unended : ¬ ['*', '}'] <:+: body.toList) : StandsAlone engine (.comment body unended) := by
  refine ⟨'*' :: (body.toList ++ ['*', '}']), .comment body.toList, ?_, fun rest => ?_,
    Piece.shows_comment _⟩
  · simp [source]
  · -- an end that starts within the body would have to end with the asterisk behind it
    have hfirst : Text.FirstAt ['*', '}'] body.toList rest := by
      refine Text.firstAt_of_not_infix (List.cons_ne_nil _ _) (fun h => ?_) rest
      rcases List.infix_concat_iff.1 h with hsuffix | hinfix
      · have := hsuffix.getLast (List.cons_ne_nil _ _)
        simp at this
      · exact unended hinfix
    have hopen : Piece.behindOpening .standard
        ('*' :: (body.toList ++ ('*' :: Delimiters.standard.closing ++ rest)))
          = (.comment body.toList, rest) := Piece.behindOpening_comment hfirst
    simpa using hopen

theorem standsAlone_quoted (hd : engine.delimiters = .standard) (content : String) :
    StandsAlone engine (.quoted content) := by
  have hlast : (Text.guarded ['\\', '"'] content.toList ++ ['"']).getLastD '"' = '"' := by
    rw [List.getLastD_eq_getLast?, List.getLast?_concat]
    rfl
  have heval : (evaluateOperand "" (.text content)).run engine = (.text content, engine) := by
    rw [evaluateOperand]
    rfl
  -- the reader of quoted texts takes off the inner guard, the cut of the source the outer one
  have hparse := Parser.complete_quoted "" content.toList
  rw [String.ofList_toList] at hparse
  obtain ⟨hopen, hshow⟩ := Piece.shows_guarded hd (by decide) (by rw [hlast]; decide) rfl hparse
    heval (fun host h => by cases h)
  refine ⟨_, _, ?_, hopen, hshow⟩
  rw [Text.guarded_cons_of_not_mem (by decide), Text.guarded_append]
  simp [source, Text.guarded]

/-- A name is a path without a colon, so it leads to the global namespace. -/
theorem standsAlone_reference (hd : engine.delimiters = .standard) {name : String} {value : Value}
    (nonempty : name ≠ "") (word : ∀ c ∈ name.toList, Text.isWordChar c = true)
    (bound : engine.store.get? "" name = some value) (plain : ∀ host, value ≠ .object host) :
    StandsAlone engine (.reference name value nonempty word bound plain) := by
  have hpath : ∀ c ∈ name.toList, Token.isPathChar c = true := fun c hc => by
    rw [Token.isPathChar, word c hc, Bool.true_or]
  have hcolon : ':' ∉ name.toList := fun hm => absurd (word _ hm) (by decide)
  have hbound : engine.store.get?
      (resolveSpace "" (Parser.path "" (Token.lexemesFrom 0 name.toList)).1)
      (Parser.path "" (Token.lexemesFrom 0 name.toList)).2 = some value := by
    rw [Parser.path_lexemesFrom hpath, Text.splitLast?_eq_none hcolon, Option.map_none,
      Option.map_none, Option.getD_none, String.ofList_toList]
    exact bound
  obtain ⟨hopen, hshow⟩ := Piece.shows_path hd hpath hbound plain
  refine ⟨_, _, ?_, hopen, hshow⟩
  simp [source]

theorem standsAlone (hd : engine.delimiters = .standard) (segment : Segment engine.store)
    (htext : ∀ content plain, segment ≠ .text content plain) : StandsAlone engine segment := by
  cases segment with
  | text content plain => exact absurd rfl (htext content plain)
  | comment body unended => exact standsAlone_comment engine body unended
  | quoted content => exact standsAlone_quoted hd content
  | reference name value nonempty word bound plain =>
      exact standsAlone_reference hd nonempty word bound plain

/-- The pieces of a template with some text in front, and what they show. -/
theorem exists_outputs (hd : engine.delimiters = .standard) (segments : List (Segment engine.store))
    (before : List Char) (hb : '{' ∉ before) :
    ∃ outputs,
      List.Forall₂ (Piece.Shows engine)
        (Piece.cut engine.delimiters (before ++ sourceAll segments)) outputs ∧
      String.join outputs = String.ofList before ++ String.join (segments.map output) := by
  induction segments generalizing before with
  | nil =>
      have hcut : Piece.cut engine.delimiters before = Piece.leading before := by
        rw [hd]
        refine Piece.cut_of_not_infix ?_
        simpa [List.singleton_infix_iff] using hb
      rw [sourceAll, List.flatMap_nil, List.append_nil, hcut]
      obtain ⟨outputs, hshow, hjoin⟩ := Piece.shows_leading engine before
      exact ⟨outputs, hshow, by rw [hjoin, List.map_nil, String.join_nil, String.append_empty]⟩
  | cons segment rest ih =>
      by_cases htext : ∃ content plain, segment = .text content plain
      · -- text joins the text in front of it
        obtain ⟨content, plain, rfl⟩ := htext
        obtain ⟨outputs, hshow, hjoin⟩ := ih (before ++ content.toList) (by simp [hb, plain])
        refine ⟨outputs, ?_, ?_⟩
        · rw [sourceAll, List.flatMap_cons, ← List.append_assoc]
          exact hshow
        · rw [hjoin, List.map_cons, String.join_cons, String.ofList_append, String.ofList_toList,
            String.append_assoc]
          rfl
      · -- any other segment starts with a left delimiter, which ends the text in front of it
        obtain ⟨behind, piece, hsource, hpiece, hshow⟩ := standsAlone hd segment
          fun content plain h => htext ⟨content, plain, h⟩
        obtain ⟨outputs, hrest, hjoin⟩ := ih [] List.not_mem_nil
        obtain ⟨first, hfirst, hbefore⟩ := Piece.shows_leading engine before
        refine ⟨first ++ segment.output :: outputs, ?_, ?_⟩
        · have hcut : Piece.cut .standard (before ++ (['{'] ++ (behind ++ sourceAll rest)))
              = Piece.leading before ++ piece :: Piece.cut .standard (sourceAll rest) :=
            Piece.cut_append (Text.firstAt_singleton hb (behind ++ sourceAll rest))
              (hpiece (sourceAll rest))
          have hwhole : before ++ sourceAll (segment :: rest)
              = before ++ (['{'] ++ (behind ++ sourceAll rest)) := by
            rw [sourceAll, List.flatMap_cons, hsource]
            rfl
          rw [hwhole, hd]
          rw [List.nil_append, hd] at hrest
          rw [hcut]
          exact List.rel_append hfirst (.cons hshow hrest)
        · rw [String.join_append, String.join_cons, hjoin, hbefore, List.map_cons, String.join_cons]
          simp

end Segment

/-- **A template without tags renders to what its segments say**, in order: parsing and rendering it
changes nothing in the engine, and no diagnostic is recorded. -/
theorem render_segments (engine : Engine) (hd : engine.delimiters = .standard)
    (segments : List (Segment engine.store)) (source : String) :
    let text := String.join (segments.map Segment.source)
    (engine.parse text source).2 = engine ∧
      engine.render (engine.parse text source).1
        = (String.join (segments.map Segment.output), engine) := by
  intro text
  have htext : text.toList = [] ++ Segment.sourceAll segments := by
    simp [text, Segment.sourceAll, String.toList_join, List.flatMap_map]
  obtain ⟨outputs, hshow, hjoin⟩ := Segment.exists_outputs hd segments [] List.not_mem_nil
  rw [← htext] at hshow
  rw [String.ofList_nil, String.empty_append] at hjoin
  rw [← hjoin]
  exact Engine.parse_of_shows source hshow

/-- All kinds of segments side by side: the quoted text is a quote, a backslash and a brace. -/
theorem render_segments_side_by_side :
    let engine := Engine.standard.setVariable "" "n-1" (.integer 7)
    let text := "a\n\x7b*\x7d*\x7d\x7b\"\\\"\\\\\\\x7d\"\x7d/\x7b$n-1\x7d"
    engine.delimiters = .standard ∧ (engine.parse text "").2 = engine ∧
      engine.render (engine.parse text "").1 = ("a\n\"\\\x7d/7", engine) := by
  intro engine text
  have h := render_segments engine rfl
    [.text "a\n" (by decide), .comment "\x7d" (fun h => absurd h.length_le (by decide)),
      .quoted "\"\\\x7d", .text "/" (by decide),
      .reference "n-1" (.integer 7) (by decide)
        (List.all_eq_true.1 (by decide : "n-1".toList.all Text.isWordChar = true))
        (Store.get?_set_self _ _ _ _) (fun host h => by cases h)] ""
  exact ⟨rfl, h⟩

end TextTemplate
