import TextTemplate.Proofs.Evaluate.Recording

set_option autoImplicit false

/-! # Rendering again

On a standard engine only two things in a template change more than the log: a tag that includes another
template, which loads it and may set variables, and an object that is shown by a template. Without includes
and without objects, rendering is a matter of the log alone (`recordsOnly_renderNodes`), whatever goes wrong on
the way. So the engine is ready to render the same tree again, with the same result.

Main statement: `Engine.render_again`. -/

namespace TextTemplate

variable {engine : Engine}

/-- A value without objects is shown as it is displayed. -/
theorem showValue_of_objectFree {value : Value} (h : value.ObjectFree) (context : Context) :
    showValue context value = pure value.display := by
  cases h with
  | null | bool _ | integer _ | real _ | text _ | array _ | map _ => rfl

/-- A tag other than `include` writes a delimiter or is unknown, which is recorded. -/
theorem recordsOnly_functionHandler? (hstandard : engine.registry.Standard) {name : String}
    (hname : name ≠ "include") :
    RecordsOnly engine (fun handler => handler = none ∨ handler = some .delimiters)
      (functionHandler? name) := by
  have hinclude : ¬ "include" = name := fun h => hname h.symm
  unfold functionHandler?
  by_cases hdelimiter : "ldelim" = name ∨ "rdelim" = name
  · refine ⟨some .delimiters, [], .inr rfl, fun log => ?_⟩
    simp only [StateT.run_bind, StateT.run_get, pure_bind, Registry.function_of_standard hstandard,
      if_pos hdelimiter, List.append_nil]
    rfl
  · refine ⟨none, [.ofRuntime (.unregisteredFunction name)], .inl rfl, fun log => ?_⟩
    simp only [StateT.run_bind, StateT.run_get, pure_bind, Registry.function_of_standard hstandard,
      if_neg hdelimiter, if_neg hinclude]
    rfl

/-- **A node that includes nothing only records.** The tags that are left render no children, so it does not
matter what stands there. -/
theorem recordsOnly_renderNode (hstandard : engine.registry.Standard)
    (hstore : engine.store.ObjectFree) (context : Context) (node : Node)
    (hinclude : ∀ name arguments children line,
      node = .function name arguments children line → name ≠ "include") :
    RecordsOnly engine (fun _ => True) (renderNode context node) := by
  cases node with
  | text content =>
      rw [renderNode]
      exact recordsOnly_pure trivial
  | expression expression line =>
      rw [renderNode]
      refine (recordsOnly_evaluate hstandard hstore context.space expression).bind
        fun value hvalue => ?_
      rw [showValue_of_objectFree hvalue]
      exact recordsOnly_pure trivial
  | function name arguments children line =>
      rw [renderNode]
      have hname := hinclude name arguments children line rfl
      refine (recordsOnly_functionHandler? hstandard hname).bind fun handler hhandler => ?_
      rcases hhandler with rfl | rfl
      · exact recordsOnly_pure trivial
      · exact recordsOnly_get Engine.delimiters
          (fun delimiters => pure (if name = "ldelim" then delimiters.left else delimiters.right))
          (fun _ => rfl) (recordsOnly_pure trivial)

/-- Nodes that include nothing only record, one after the other. -/
theorem recordsOnly_renderNodes (hstandard : engine.registry.Standard)
    (hstore : engine.store.ObjectFree) (context : Context) {nodes : List Node}
    (hinclude : ∀ name arguments children line,
      Node.function name arguments children line ∈ nodes → name ≠ "include") :
    RecordsOnly engine (fun _ => True) (renderNodes context nodes) := by
  induction nodes with
  | nil =>
      rw [renderNodes]
      exact recordsOnly_pure trivial
  | cons node rest ih =>
      have hnode := recordsOnly_renderNode hstandard hstore context node
        fun name arguments children line h => hinclude name arguments children line
          (h ▸ List.mem_cons_self)
      have hrest := ih fun name arguments children line h =>
        hinclude name arguments children line (List.mem_cons_of_mem _ h)
      rw [renderNodes]
      refine hnode.bind fun output _ => ?_
      exact hrest.bind fun more _ => recordsOnly_pure trivial

/-- **Rendering without includes and objects is repeatable.** On a standard engine, a tree without the tag
`include`, rendered while no variable holds an object, leaves the engine as it was but for the diagnostics that
are appended to its log; and when it is rendered again, it gives the same output and appends the same
diagnostics again. -/
theorem Engine.render_again (engine : Engine) (tree : Tree) (hstandard : engine.registry.Standard)
    (hstore : engine.store.ObjectFree)
    (hinclude : ∀ name arguments children line,
      Node.function name arguments children line ∈ tree.nodes → name ≠ "include") :
    ∃ output notes,
      engine.render tree = (output, { engine with log := engine.log ++ notes }) ∧
        (engine.render tree).2.render tree
          = (output, { engine with log := engine.log ++ notes ++ notes }) := by
  obtain ⟨output, notes, -, hrun⟩ := recordsOnly_renderNodes hstandard hstore .top hinclude
  have hfirst : engine.render tree = (output, { engine with log := engine.log ++ notes }) :=
    hrun engine.log
  refine ⟨output, notes, hfirst, ?_⟩
  rw [hfirst]
  exact hrun (engine.log ++ notes)

/-- A variable that is not set, an operator and a tag that nobody registered, and an operator with too many
arguments, each of which is recorded twice. The include among the children of the tag is not rendered. -/
theorem Engine.render_again_faulty :
    let engine := Engine.standard.setVariable "" "list" (.array [.text "ab", .map ∅])
    let item : Operand := .reference ⟨none, "list", [.index "0"]⟩
    let tree : Tree :=
      { nodes :=
          [.expression ⟨item, [⟨"upcase", [.ofOperand item]⟩, ⟨"nope", []⟩]⟩ 1,
            .expression (.ofOperand (.reference ⟨some "x", "none", []⟩)) 1,
            .function "ldelim" ∅ [] 2, .text "-",
            .function "nobody" ∅ [.function "include" ∅ [] 2] 2]
        source := "", left := "\x7b", right := "\x7d", modified := false }
    engine.registry.Standard ∧ engine.store.ObjectFree ∧
      (∀ name arguments children line,
        Node.function name arguments children line ∈ tree.nodes → name ≠ "include") ∧
      (engine.render tree).1 = "ab\x7b-" ∧
      ∃ output notes,
        engine.render tree = (output, { engine with log := engine.log ++ notes }) ∧
          (engine.render tree).2.render tree
            = (output, { engine with log := engine.log ++ notes ++ notes }) := by
  intro engine item tree
  have hstandard : engine.registry.Standard := Registry.standard_standardRegistry
  have hitems : ∀ item ∈ [.text "ab", .map ∅], Value.ObjectFree item :=
    List.forall_mem_cons.2 ⟨.text "ab", List.forall_mem_singleton.2
      (.map fun _ hnone => absurd hnone List.not_mem_nil)⟩
  have hstore : engine.store.ObjectFree := Store.objectFree_empty.set "" "list" (.array hitems)
  have hinclude : ∀ name arguments children line,
      Node.function name arguments children line ∈ tree.nodes → name ≠ "include" := by
    intro name arguments children line h
    simp only [tree, List.mem_cons, List.not_mem_nil, Node.function.injEq, reduceCtorEq, false_or,
      or_false] at h
    rcases h with ⟨rfl, -⟩ | ⟨rfl, -⟩
    · decide
    · decide
  exact ⟨hstandard, hstore, hinclude, rfl, engine.render_again tree hstandard hstore hinclude⟩

end TextTemplate
