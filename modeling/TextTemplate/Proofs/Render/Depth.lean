import TextTemplate.Proofs.Render.Relation

set_option autoImplicit false

/-! # How deep includes nest

A render goes from a tree into the trees that it includes. Which those are is settled by texts that
are evaluated on the way, and they may well include each other, so neither the trees nor the
expressions get smaller. `Renders` has the rules of this recursion: the depth is counted upwards
from context to context, and a template that would be nested too deep is not loaded.

Main statements: `Renders.run_eq`, what follows by the rules is what the renderer does; `Task.ends`,
on a standard engine every render comes to an end by the rules, whatever the templates are; and
`Renders.le_of_mem_opened`, no context on the way is deeper than `maxIncludeDepth`. -/

namespace TextTemplate

/-- A template is nested too deep. -/
def Diagnostic.tooDeep (uri : String) : Diagnostic :=
  .error "include" (.includeDepthExceeded uri maxIncludeDepth)

/-! ## What becomes of a node -/

/-- A node has an output, or it opens a template in some namespace. -/
inductive Course
  | shows (output : String)
  | opens (uri space : String)

/-- Carries on with what has become of a node. -/
def Course.finish (templateAt : (uri space : String) → Render String) : Course → Render String
  | shows output => pure output
  | opens uri space => templateAt uri space

/-- All that rendering the node does before it may open a template **is the same however templates
are rendered**: it turns `engine` into `engine'`. -/
def Node.Takes (space : String) (node : Node) (engine : Engine) (course : Course)
    (engine' : Engine) : Prop :=
  ∀ templateAt, (renderNode ⟨space, templateAt⟩ node).run engine =
    (course.finish templateAt).run engine'

/-- Where a template is opened, it is opened in this namespace. -/
def Course.LeadsTo (inner : String) : Course → Prop
  | shows _ => True
  | opens _ space => space = inner

/-- The text of the parameter `name` of an include, which is evaluated behind `uri`. -/
def nameText? (arguments : Table String (Render Value)) (engine : Engine) : Option String := do
  let uri ← arguments.get? "uri"
  let name ← arguments.get? "name"
  some (name.run (uri.run engine).2).1.display

/-- The name that a node gives to the namespace of what it includes. -/
def Node.nameText? (space : String) (engine : Engine) : Node → Option String
  | function _ arguments _ _ => TextTemplate.nameText? (arguments.mapValues (evaluate space)) engine
  | _ => none

variable {engine engine' : Engine} {space : String} {node : Node} {course : Course}

theorem exists_course_showValue (space : String) (value : Value) (engine : Engine) :
    ∃ course engine', (∀ templateAt, (showValue ⟨space, templateAt⟩ value).run engine =
      (Course.finish templateAt course).run engine') ∧ course.LeadsTo space := by
  cases value with
  | object host =>
      cases htemplate : host.template with
      | none =>
          refine ⟨.shows (Value.object host).display, engine, fun templateAt => ?_, trivial⟩
          simp only [showValue, htemplate]
          rfl
      | some template =>
          refine ⟨.opens template.uri space,
            engine.setVariable space template.variableName (.object host), fun templateAt => ?_, rfl⟩
          simp only [showValue, htemplate]
          rfl
  | _ => exact ⟨.shows _, engine, fun _ => rfl, trivial⟩

theorem exists_course_includeTemplate (call : Call) (space : String) (engine : Engine) :
    ∃ course engine', (∀ templateAt, (call.includeTemplate ⟨space, templateAt⟩).run engine =
      (Course.finish templateAt course).run engine') ∧
        course.LeadsTo (resolveSpace space (nameText? call.arguments engine)) := by
  let others := call.arguments.entries.filter fun argument =>
    argument.1 ≠ "uri" && argument.1 ≠ "name"
  unfold Call.includeTemplate nameText?
  cases call.arguments.get? "uri" with
  | none => exact ⟨.shows "", _, fun _ => rfl, trivial⟩
  | some uri =>
      let evaluated := uri.run engine
      cases call.arguments.get? "name" with
      | none =>
          exact ⟨.opens evaluated.1.display space, ((Call.bindAll space others).run evaluated.2).2,
            fun _ => rfl, rfl⟩
      | some name =>
          let named := name.run evaluated.2
          let inner := resolveSpace space (some named.1.display)
          exact ⟨.opens evaluated.1.display inner, ((Call.bindAll inner others).run named.2).2,
            fun _ => rfl, rfl⟩

/-- The tags of a standard engine write delimiters or include templates; others are recorded. -/
theorem run_functionHandler?_of_standard (h : engine.registry.Standard) (name : String) :
    (∃ diagnostic, (functionHandler? name).run engine = (none, engine.note diagnostic)) ∨
      (functionHandler? name).run engine = (some .delimiters, engine) ∨
        (functionHandler? name).run engine = (some .templates, engine) := by
  obtain ⟨result, hresult, hcases⟩ := Registry.exists_function_of_standard name
  unfold functionHandler?
  simp only [StateT.run_bind, StateT.run_get, pure_bind, hresult _ h]
  obtain rfl | ⟨handler, rfl, hhandler⟩ := hcases
  · exact .inl ⟨_, rfl⟩
  · rcases hhandler with hhandler | hhandler
    · exact .inr (.inl (by simp only [hhandler]; rfl))
    · exact .inr (.inr (by simp only [hhandler]; rfl))

/-- **On a standard engine a node opens a template at most**: there is no tag that renders its
children. The template is opened in the namespace that the node names. -/
theorem exists_course (h : engine.registry.Standard) (space : String) (node : Node) :
    ∃ course engine', node.Takes space engine course engine' ∧
      course.LeadsTo (resolveSpace space (node.nameText? space engine)) := by
  unfold Node.Takes
  cases node with
  | text content => exact ⟨.shows content, engine, fun _ => by rw [renderNode]; rfl, trivial⟩
  | expression expression line =>
      obtain ⟨course, engine', hshow, hleads⟩ := exists_course_showValue space
        ((evaluate space expression).run engine).1 ((evaluate space expression).run engine).2
      refine ⟨course, engine', fun templateAt => ?_, hleads⟩
      rw [renderNode, run_bind, hshow]
  | function name arguments children line =>
      obtain ⟨diagnostic, hhandler⟩ | hhandler | hhandler := run_functionHandler?_of_standard h name
      · refine ⟨.shows "", engine.note diagnostic, fun templateAt => ?_, trivial⟩
        rw [renderNode, run_bind, hhandler]
        rfl
      · let delimiters := engine.delimiters
        refine ⟨.shows (if name = "ldelim" then delimiters.left else delimiters.right), engine,
          fun templateAt => ?_, trivial⟩
        rw [renderNode, run_bind, hhandler]
        rfl
      · -- an include takes no notice of the children
        let call : Call := ⟨name, arguments.mapValues (evaluate space), pure "", 0, line⟩
        obtain ⟨course, engine', hinclude, hleads⟩ := exists_course_includeTemplate call space engine
        refine ⟨course, engine', fun templateAt => ?_, hleads⟩
        rw [renderNode, run_bind, hhandler, ← hinclude]
        rfl

/-! ## Includes of one template -/

/-- The value of an operand that is written out. -/
def Operand.literal? : Operand → Option Value
  | text value => some (.text value)
  | number value => some (.ofNumber value)
  | word value => some (.text value)
  | null => some .null
  | call => none
  | reference _ => none

theorem run_evaluate_of_literal {operand : Operand} {value : Value}
    (h : operand.literal? = some value) (space : String) (engine : Engine) :
    (evaluate space (.ofOperand operand)).run engine = (value, engine) := by
  rw [evaluate_ofOperand]
  cases operand with
  | call | reference _ => cases h
  | text _ | number _ | word _ | null =>
      cases h
      rw [evaluateOperand]
      rfl

theorem run_functionHandler?_include (h : engine.registry.Standard) :
    (functionHandler? "include").run engine = (some .templates, engine) := by
  unfold functionHandler?
  simp only [StateT.run_bind, StateT.run_get, pure_bind, Registry.function_include_of_standard h]
  rfl

/-- The tag that includes the template `uri`, without any other parameter. -/
def Node.includeOf (uri : Operand) (children : List Node) (line : Nat) : Node :=
  .function "include" (Table.ofList [("uri", .ofOperand uri)]) children line

/-- Such a tag does nothing but open the template. -/
theorem Node.takes_include (h : engine.registry.Standard) {uri : Operand} {value : Value}
    (huri : uri.literal? = some value) (space : String) (children : List Node) (line : Nat) :
    (Node.includeOf uri children line).Takes space engine (.opens value.display space) engine := by
  intro templateAt
  have hvalue := run_evaluate_of_literal huri space engine
  rw [Node.includeOf, renderNode, run_bind, run_functionHandler?_include h]
  show (evaluate space (.ofOperand uri) >>= fun uri => templateAt uri.display space).run engine = _
  rw [run_bind, hvalue]
  rfl

/-! ## What rendering keeps -/

/-- A property of standard engines that recording, setting variables and loading keep. -/
structure Kept (property : Engine → Prop) : Prop where
  standard : ∀ {engine}, property engine → engine.registry.Standard
  note : ∀ {engine}, property engine → ∀ diagnostic, property (engine.note diagnostic)
  setVariable : ∀ {engine}, property engine → ∀ space name value,
    property (engine.setVariable space name value)
  load : ∀ {engine}, property engine → ∀ uri, property (engine.load uri).2

theorem kept_standard : Kept fun engine => engine.registry.Standard where
  standard h := h
  note h _ := h
  setVariable h _ _ _ := h
  load {engine} h uri := by
    rw [Engine.registry_load h]
    exact h

/-- The log only grows. -/
theorem kept_log (log : Log) :
    Kept fun engine => engine.registry.Standard ∧ log <+: engine.log where
  standard h := h.1
  note h _ := ⟨h.1, h.2.trans (List.prefix_append _ _)⟩
  setVariable h _ _ _ := h
  load {engine} h uri := ⟨kept_standard.load h.1 uri, h.2.trans (Engine.log_load engine uri)⟩

namespace Kept

variable {property : Engine → Prop} (kept : Kept property)
include kept

/-- An engine with the property, beside itself. -/
theorem congruence :
    Congruence (fun _ => True) fun engine engine' => engine = engine' ∧ property engine where
  resolve _ _ := trivial
  standard := by
    rintro engine _ ⟨rfl, h⟩
    exact ⟨kept.standard h, kept.standard h⟩
  delimiters_eq := by
    rintro engine _ ⟨rfl, -⟩
    rfl
  get?_eq := by
    rintro engine _ space ⟨rfl, -⟩ - name
    rfl
  note := by
    rintro engine _ ⟨rfl, h⟩ diagnostic
    exact ⟨rfl, kept.note h diagnostic⟩
  setVariable := by
    rintro engine _ space ⟨rfl, h⟩ - name value
    exact ⟨rfl, kept.setVariable h space name value⟩

/-- The property is kept up to where a template is opened. -/
theorem takes (h : property engine) (htakes : node.Takes space engine course engine') :
    property engine' := by
  -- templates that are not rendered at all leave the engine as it is there
  let templateAt : (uri space : String) → Render String := fun _ _ => pure ""
  have hcontexts : ContextsAgree (fun _ => True)
      (fun engine engine' => engine = engine' ∧ property engine) ⟨space, templateAt⟩
      ⟨space, templateAt⟩ := ⟨rfl, trivial, fun _ _ _ => agree_pure ""⟩
  obtain ⟨-, -, hbehind⟩ := kept.congruence.agree_renderNode hcontexts node ⟨rfl, h⟩
  rw [htakes templateAt] at hbehind
  cases course with
  | shows output => exact hbehind
  | opens uri space => exact hbehind

end Kept

/-! ## The rules -/

/-- What there is to render in a context. -/
inductive Task
  | nodes (space : String) (forest : List Node)
  | template (uri space : String)

/-- Renders it in a context of this depth. -/
def Task.render (depth : Nat) : Task → Render String
  | nodes space forest => renderNodes ⟨space, renderTemplate (maxIncludeDepth - depth)⟩ forest
  | template uri space => renderTemplate (maxIncludeDepth - depth) uri space

/-- A tree that is not included by another is rendered at the top. -/
example (engine : Engine) (tree : Tree) :
    engine.render tree = ((Task.nodes "" tree.nodes).render 0).run engine := rfl

/-- **The rules of rendering.** In a context of the given depth, the task turns the first engine
into the second one and has the output; `opened` are the depths of the contexts that are opened for
it. -/
inductive Renders : (depth : Nat) → Task → Engine → (output : String) → Engine →
    (opened : List Nat) → Prop
  | nil {depth : Nat} {space : String} {engine : Engine} :
      Renders depth (.nodes space []) engine "" engine []
  | shows {depth : Nat} {space : String} {node : Node} {rest : List Node}
      {engine engine₁ engine₂ : Engine} {output more : String} {opened : List Nat}
      (takes : node.Takes space engine (.shows output) engine₁)
      (tail : Renders depth (.nodes space rest) engine₁ more engine₂ opened) :
      Renders depth (.nodes space (node :: rest)) engine (output ++ more) engine₂ opened
  | opens {depth : Nat} {space uri inner : String} {node : Node} {rest : List Node}
      {engine engine₁ engine₂ engine₃ : Engine} {output more : String} {opened opened' : List Nat}
      (takes : node.Takes space engine (.opens uri inner) engine₁)
      (template : Renders depth (.template uri inner) engine₁ output engine₂ opened)
      (tail : Renders depth (.nodes space rest) engine₂ more engine₃ opened') :
      Renders depth (.nodes space (node :: rest)) engine (output ++ more) engine₃
        (opened ++ opened')
  | exceeded {depth : Nat} {uri space : String} {engine : Engine}
      (bound : maxIncludeDepth ≤ depth) :
      Renders depth (.template uri space) engine "" (engine.note (.tooDeep uri)) []
  | failed {depth : Nat} {uri space : String} {engine engine₁ : Engine} {problem : ResourceProblem}
      (bound : depth < maxIncludeDepth) (load : engine.load uri = (.error problem, engine₁)) :
      Renders depth (.template uri space) engine ""
        (engine₁.note ⟨.error, "include", .resource problem⟩) []
  | loaded {depth : Nat} {uri space : String} {engine engine₁ engine₂ : Engine}
      {published : Published} {output : String} {opened : List Nat}
      (bound : depth < maxIncludeDepth) (load : engine.load uri = (.ok published, engine₁))
      (tree : Renders (depth + 1) (.nodes space published.tree.nodes) engine₁ output engine₂
        opened) :
      Renders depth (.template uri space) engine output engine₂ ((depth + 1) :: opened)

variable {depth : Nat} {task : Task} {output : String} {opened : List Nat}

/-- A template that is loaded is rendered one level further down. -/
theorem run_renderTemplate_of_loaded {uri space : String} {published : Published}
    (bound : depth < maxIncludeDepth) (load : engine.load uri = (.ok published, engine')) :
    (renderTemplate (maxIncludeDepth - depth) uri space).run engine =
      ((Task.nodes space published.tree.nodes).render (depth + 1)).run engine' := by
  have hlevel : maxIncludeDepth - depth = (maxIncludeDepth - (depth + 1)) + 1 := by omega
  rw [hlevel, renderTemplate, run_bind, run_loadTree, load]
  rfl

/-- **The renderer follows the rules.** -/
theorem Renders.run_eq (h : Renders depth task engine output engine' opened) :
    (task.render depth).run engine = (output, engine') := by
  induction h with
  | @nil depth space engine =>
      exact run_renderNodes_nil ⟨space, renderTemplate (maxIncludeDepth - depth)⟩ engine
  | shows takes _ ih => exact run_renderNodes_cons (takes _) ih
  | opens takes _ _ ihtemplate ihtail =>
      exact run_renderNodes_cons ((takes _).trans ihtemplate) ihtail
  | exceeded bound =>
      rw [Task.render, Nat.sub_eq_zero_of_le bound]
      rfl
  | @failed depth uri space engine engine₁ problem bound load =>
      have hlevel : maxIncludeDepth - depth = (maxIncludeDepth - (depth + 1)) + 1 := by omega
      rw [Task.render, hlevel, renderTemplate, run_bind, run_loadTree, load]
      rfl
  | loaded bound load _ ih => exact (run_renderTemplate_of_loaded bound load).trans ih

/-- **No context is too deep.** -/
theorem Renders.le_of_mem_opened (h : Renders depth task engine output engine' opened) :
    ∀ inner ∈ opened, depth < inner ∧ inner ≤ maxIncludeDepth := by
  induction h with
  | nil | exceeded _ | failed _ _ =>
      intro inner hinner
      exact absurd hinner List.not_mem_nil
  | shows _ _ ih => exact ih
  | opens _ _ _ ihtemplate ihtail =>
      intro inner hinner
      rcases List.mem_append.1 hinner with hinner | hinner
      · exact ihtemplate inner hinner
      · exact ihtail inner hinner
  | loaded bound _ _ ih =>
      intro inner hinner
      rcases List.mem_cons.1 hinner with rfl | hinner
      · exact ⟨Nat.lt_succ_self _, bound⟩
      · obtain ⟨hlt, hle⟩ := ih inner hinner
        exact ⟨Nat.lt_of_succ_lt hlt, hle⟩

/-- **What every step keeps is kept by a whole render.** -/
theorem Kept.renders {property : Engine → Prop} (kept : Kept property)
    (h : Renders depth task engine output engine' opened) (hbefore : property engine) :
    property engine' := by
  induction h with
  | nil => exact hbefore
  | shows takes _ ih => exact ih (kept.takes hbefore takes)
  | opens takes _ _ ihtemplate ihtail => exact ihtail (ihtemplate (kept.takes hbefore takes))
  | exceeded _ => exact kept.note hbefore _
  | @failed depth uri space engine engine₁ problem _ load =>
      have hload := kept.load hbefore uri
      rw [load] at hload
      exact kept.note hload _
  | @loaded depth uri space engine engine₁ engine₂ published output opened _ load _ ih =>
      have hload := kept.load hbefore uri
      rw [load] at hload
      exact ih hload

/-- The render of a task **comes to an end** on every standard engine. -/
def Task.Ends (depth : Nat) (task : Task) : Prop :=
  ∀ engine : Engine, engine.registry.Standard →
    ∃ output engine' opened, Renders depth task engine output engine' opened

/-- Nodes are rendered one after the other, so it is enough to know of templates. -/
theorem ends_nodes (htemplates : ∀ uri space, (Task.template uri space).Ends depth) (space : String)
    (nodes : List Node) : (Task.nodes space nodes).Ends depth := by
  induction nodes with
  | nil => exact fun engine _ => ⟨"", engine, [], .nil⟩
  | cons node rest ih =>
      intro engine h
      obtain ⟨course, engine₁, htakes, -⟩ := exists_course h space node
      have h₁ := kept_standard.takes h htakes
      cases course with
      | shows output =>
          obtain ⟨more, engine₂, opened, htail⟩ := ih engine₁ h₁
          exact ⟨_, _, _, .shows htakes htail⟩
      | opens uri inner =>
          obtain ⟨output, engine₂, opened, htemplate⟩ := htemplates uri inner engine₁ h₁
          obtain ⟨more, engine₃, opened', htail⟩ := ih engine₂ (kept_standard.renders htemplate h₁)
          exact ⟨_, _, _, .opens htakes htemplate htail⟩

/-- A template goes one level down, and there are only so many. -/
theorem ends_template (depth : Nat) (uri space : String) :
    (Task.template uri space).Ends depth := by
  -- induction on how many levels are left
  induction hlevels : maxIncludeDepth - depth generalizing depth uri space with
  | zero => exact fun engine _ => ⟨_, _, _, .exceeded (Nat.le_of_sub_eq_zero hlevels)⟩
  | succ levels ih =>
      intro engine h
      have hbound : depth < maxIncludeDepth := by omega
      have hloaded := kept_standard.load h uri
      cases hload : engine.load uri with
      | mk result engine₁ =>
          rw [hload] at hloaded
          cases result with
          | error problem => exact ⟨_, _, _, .failed hbound hload⟩
          | ok published =>
              have htemplates := fun uri space => ih (depth + 1) uri space (by omega)
              obtain ⟨output, engine₂, opened, htree⟩ :=
                ends_nodes htemplates space published.tree.nodes engine₁ hloaded
              exact ⟨_, _, _, .loaded hbound hload htree⟩

/-- **Every render comes to an end**, also where templates include each other in a circle. -/
theorem Task.ends (depth : Nat) (task : Task) : task.Ends depth := by
  cases task with
  | template uri space => exact ends_template depth uri space
  | nodes space nodes => exact ends_nodes (ends_template depth) space nodes

/-- **What every step keeps is kept by the renderer.** -/
theorem Kept.render {property : Engine → Prop} (kept : Kept property) (h : property engine)
    (depth : Nat) (task : Task) : property ((task.render depth).run engine).2 := by
  obtain ⟨output, engine', opened, hrenders⟩ := task.ends depth engine (kept.standard h)
  rw [hrenders.run_eq]
  exact kept.renders hrenders h

end TextTemplate
