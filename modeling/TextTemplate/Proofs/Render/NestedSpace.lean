import TextTemplate.Proofs.Evaluate.Lookup
import TextTemplate.Proofs.Render.Depth

set_option autoImplicit false

/-! # Namespaces of nested includes

An include may name the namespace that its template is rendered in, and that namespace goes below the
one around it. So the names along a chain of includes are joined by colons. An empty name is left out
where the namespace around it is the global one, but behind a name that is not empty it leaves a colon:
`n` and then an empty name lead to the namespace `n:`, and no variable is looked for there.

`Visits` has the rules by which a render comes into nested templates, with the names on the way, and
what it visits is part of the render (`Visits.prefix_log`).

Main statement: `nested_names_joined_iff`. The namespace at the end of a chain of includes has all the
names in it from the first one on that is not empty, and it is made of the names that are not empty
alone if and only if no empty name stands behind one of those. -/

namespace TextTemplate

/-! ## Joining names -/

/-- The names that are not empty, joined. -/
def joinNames (names : List String) : String := ":".intercalate (names.filter (· ≠ ""))

/-- The namespace that names lead to when each is put below the ones before. -/
def nestedSpace (names : List String) : String := ":".intercalate (names.dropWhile (· = ""))

/-- No name is empty behind one that is not. -/
def EmptyInFront (names : List String) : Prop := "" ∉ names.dropWhile (· = "")

instance : DecidablePred EmptyInFront := fun names =>
  inferInstanceAs (Decidable ("" ∉ names.dropWhile (· = "")))

/-- What is left begins with a name that is not empty. -/
theorem head_dropWhile_ne {names : List String} (h : names.dropWhile (· = "") ≠ []) :
    (names.dropWhile (· = "")).head h ≠ "" := by
  have hhead := List.head_dropWhile_not (fun name : String => decide (name = "")) h
  exact of_decide_eq_false hhead

theorem intercalate_ne_empty {names : List String} (h : names ≠ []) (hhead : names.head h ≠ "") :
    ":".intercalate names ≠ "" := by
  intro hempty
  cases names with
  | nil => exact h rfl
  | cons first rest =>
      cases rest with
      | nil =>
          rw [String.intercalate_singleton] at hempty
          exact hhead hempty
      | cons second rest =>
          rw [String.intercalate_cons_of_ne_nil (List.cons_ne_nil _ _)] at hempty
          have hlength := congrArg String.length hempty
          simp at hlength

/-- **One more name goes below the namespace** that the names before it lead to. -/
theorem resolveSpace_nestedSpace (names : List String) (name : String) :
    resolveSpace (nestedSpace names) (some name) = nestedSpace (names ++ [name]) := by
  unfold nestedSpace resolveSpace
  dsimp only
  rw [List.dropWhile_append]
  cases hkept : names.dropWhile (· = "") with
  | nil =>
      by_cases hname : name = ""
      · rw [hname]
        rfl
      · have hdrop : [name].dropWhile (· = "") = [name] := by simp [hname]
        rw [String.intercalate_nil, if_pos rfl, if_pos List.isEmpty_nil, hdrop,
          String.intercalate_singleton]
  | cons first rest =>
      have hkept' : names.dropWhile (· = "") ≠ [] := by simp [hkept]
      have hhead := head_dropWhile_ne hkept'
      simp only [hkept] at hhead
      have hne := intercalate_ne_empty (List.cons_ne_nil first rest) hhead
      rw [if_neg hne, if_neg (by simp), String.intercalate_append_of_ne_nil (List.cons_ne_nil _ _)
        (List.cons_ne_nil _ _), String.intercalate_singleton]
      rfl

/-! ### Names that are left out -/

/-- The length of names with a colon behind each. -/
def lengthWithColons : List String → Nat
  | [] => 0
  | name :: rest => name.length + 1 + lengthWithColons rest

/-- A join has one colon less than names. -/
theorem length_intercalate {names : List String} (h : names ≠ []) :
    (":".intercalate names).length + 1 = lengthWithColons names := by
  induction names with
  | nil => exact absurd rfl h
  | cons first rest ih =>
      by_cases hrest : rest = []
      · rw [hrest, String.intercalate_singleton]
        rfl
      · have hcolon : (":" : String).length = 1 := rfl
        rw [String.intercalate_cons_of_ne_nil hrest, lengthWithColons, ← ih hrest,
          String.length_append, String.length_append, hcolon]
        omega

/-- An empty name counts for the colon behind it. -/
theorem lengthWithColons_filter (names : List String) :
    lengthWithColons (names.filter (· ≠ "")) + names.count "" = lengthWithColons names := by
  induction names with
  | nil => rfl
  | cons first rest ih =>
      by_cases hfirst : first = ""
      · simp [hfirst, lengthWithColons] at ih ⊢
        omega
      · simp [hfirst, lengthWithColons] at ih ⊢
        omega

theorem filter_dropWhile (names : List String) :
    (names.dropWhile (· = "")).filter (· ≠ "") = names.filter (· ≠ "") := by
  induction names with
  | nil => rfl
  | cons first rest ih =>
      by_cases hfirst : first = ""
      · simpa [hfirst] using ih
      · simp [hfirst]

/-- **Empty names leave no trace** exactly when they stand in front. -/
theorem joinNames_eq_nestedSpace_iff (names : List String) :
    joinNames names = nestedSpace names ↔ EmptyInFront names := by
  unfold joinNames nestedSpace EmptyInFront
  rw [← filter_dropWhile]
  by_cases hkept : names.dropWhile (· = "") = []
  · simp [hkept]
  · have hhead := head_dropWhile_ne hkept
    generalize names.dropWhile (· = "") = kept at hkept hhead
    constructor
    · -- an empty name would leave its colon
      intro hjoin hmem
      have hfilter : kept.filter (· ≠ "") ≠ [] := by
        intro hnil
        have hall := List.filter_eq_nil_iff.1 hnil _ (List.head_mem hkept)
        exact hall (decide_eq_true hhead)
      have hlength := congrArg String.length hjoin
      have hwhole := length_intercalate hkept
      have hpart := length_intercalate hfilter
      have hcolons := lengthWithColons_filter kept
      have hcount := List.count_pos_iff.2 hmem
      omega
    · intro hnone
      have hall : ∀ name ∈ kept, decide (name ≠ "") = true := by
        intro name hname
        refine decide_eq_true fun hempty => ?_
        rw [hempty] at hname
        exact hnone hname
      rw [List.filter_eq_self.2 hall]

theorem emptyInFront_append_iff {names : List String} {name : String} (h : name ≠ "") :
    EmptyInFront (names ++ [name]) ↔ EmptyInFront names := by
  have hdrop : [name].dropWhile (· = "") = [name] := by simp [h]
  unfold EmptyInFront
  rw [List.dropWhile_append, hdrop]
  cases names.dropWhile (· = "") with
  | nil => simp [Ne.symm h]
  | cons first rest => simp [Ne.symm h]

/-! ## What a reference reads -/

/-- In the namespace `space` the reference **reads the variable `name` of the namespace `target`**: it
goes on with the value of that variable, or it records that this variable is not set. -/
def ReadsFrom (space : String) (explicit : Option String) (name target : String) : Prop :=
  ∀ (engine : Engine) (attributes : List Attribute),
    let read := (evaluate space (.ofOperand (.reference ⟨explicit, name, attributes⟩))).run engine
    (∀ value, engine.store.get? target name = some value →
        read = (follow space attributes value).run engine) ∧
      (engine.store.get? target name = none →
        read = (.null, engine.note (.ofRuntime (.undefinedVariable target name))))

/-- It reads that variable and no other. -/
theorem readsFrom_iff {space : String} {explicit : Option String} {name target : String} :
    ReadsFrom space explicit name target ↔ target = resolveSpace space explicit := by
  constructor
  · -- an engine without variables records which one was looked for
    intro hreads
    have hread := (hreads Engine.bare []).2 rfl
    rw [run_evaluate_reference_of_none rfl] at hread
    have hlog := congrArg (·.2.log) hread
    injection hlog with hdiagnostic
    injection hdiagnostic with _ _ hproblem
    injection hproblem with hproblem
    injection hproblem with hspace
    exact hspace.symm
  · rintro rfl engine attributes read
    exact ⟨fun value hvalue => run_evaluate_reference_of_some hvalue,
      fun hnone => run_evaluate_reference_of_none hnone⟩

/-! ## Chains of includes -/

/-- The node opens one template at most, and in one namespace. -/
theorem Node.Takes.unique {space : String} {node : Node} {engine engine' engine'' : Engine}
    {course : Course} {uri inner : String}
    (htakes : node.Takes space engine (.opens uri inner) engine')
    (hcourse : node.Takes space engine course engine'') : course = .opens uri inner := by
  -- templates that show what they are tell courses apart
  cases course with
  | shows output =>
      have hoverlong := (htakes fun _ _ => pure (output ++ ".")).symm.trans
        (hcourse fun _ _ => pure (output ++ "."))
      have houtput : output ++ "." = output := congrArg Prod.fst hoverlong
      have hlength := congrArg String.length houtput
      rw [String.length_append] at hlength
      exact absurd hlength (Nat.succ_ne_self _)
  | opens uri' inner' =>
      have huri : uri' = uri := congrArg Prod.fst
        ((hcourse fun uri _ => pure uri).symm.trans (htakes fun uri _ => pure uri))
      have hinner : inner' = inner := congrArg Prod.fst
        ((hcourse fun _ inner => pure inner).symm.trans (htakes fun _ inner => pure inner))
      rw [huri, hinner]

variable {start engine engine' : Engine} {tree : Tree} {names : List String} {depth : Nat}
  {space : String} {nodes : List Node}

/-- On a standard engine it is the namespace that the node names. -/
theorem Node.Takes.space_eq (h : engine.registry.Standard) {node : Node} {uri inner : String}
    (htakes : node.Takes space engine (.opens uri inner) engine') :
    inner = resolveSpace space (node.nameText? space engine) := by
  obtain ⟨course, behind, hcourse, hleads⟩ := exists_course h space node
  rw [htakes.unique hcourse] at hleads
  exact hleads

/-- **Where a render comes to.** The tree is rendered from the global namespace, and at some time the
nodes are what is left to render of the template that is innermost then. That template is rendered in
`space` and nested `depth` deep, `names` are the texts that the includes around it have for their
parameter `name`, from the outermost one on, and the engine is the one at that time. -/
inductive Visits (start : Engine) (tree : Tree) : (names : List String) → (depth : Nat) →
    (space : String) → List Node → Engine → Prop
  | top : Visits start tree [] 0 "" tree.nodes start
  | next {names : List String} {depth : Nat} {space output : String} {node : Node}
      {rest : List Node} {engine engine' : Engine}
      (here : Visits start tree names depth space (node :: rest) engine)
      (run : (renderNode ⟨space, renderTemplate (maxIncludeDepth - depth)⟩ node).run engine =
        (output, engine')) :
      Visits start tree names depth space rest engine'
  | enter {names : List String} {depth : Nat} {space uri inner : String} {node : Node}
      {rest : List Node} {engine engine₁ engine₂ : Engine} {published : Published}
      (here : Visits start tree names depth space (node :: rest) engine)
      (takes : node.Takes space engine (.opens uri inner) engine₁) (bound : depth < maxIncludeDepth)
      (load : engine₁.load uri = (.ok published, engine₂)) :
      Visits start tree (names ++ (node.nameText? space engine).toList) (depth + 1) inner
        published.tree.nodes engine₂

/-- A node leaves a standard engine standard. -/
theorem standard_renderNode (h : engine.registry.Standard) (depth : Nat) {node : Node}
    {output : String}
    (hrun : (renderNode ⟨space, renderTemplate (maxIncludeDepth - depth)⟩ node).run engine =
      (output, engine')) : engine'.registry.Standard := by
  have hbehind := kept_standard.render h depth (.nodes space [node])
  rw [Task.render, run_renderNodes_cons hrun (run_renderNodes_nil _ _)] at hbehind
  exact hbehind

/-- What is loaded on a standard engine leaves it standard. -/
theorem Node.Takes.standard_load (h : engine.registry.Standard) {node : Node} {uri inner : String}
    {engine₁ engine₂ : Engine} {published : Published}
    (takes : node.Takes space engine (.opens uri inner) engine₁)
    (load : engine₁.load uri = (.ok published, engine₂)) : engine₂.registry.Standard := by
  have hloaded := kept_standard.load (kept_standard.takes h takes) uri
  rw [load] at hloaded
  exact hloaded

/-- **Every engine on the way is standard** if the first one is. -/
theorem Visits.standard (hvisits : Visits start tree names depth space nodes engine)
    (h : start.registry.Standard) : engine.registry.Standard := by
  induction hvisits with
  | top => exact h
  | next _ run ih => exact standard_renderNode ih _ run
  | enter _ takes _ load ih => exact takes.standard_load ih load

/-- **What is visited is part of the render**: all that is recorded for the nodes is recorded by the
render of the tree. -/
theorem Visits.prefix_log (hvisits : Visits start tree names depth space nodes engine)
    (h : start.registry.Standard) :
    ((Task.nodes space nodes).render depth |>.run engine).2.log <+: (start.render tree).2.log := by
  induction hvisits with
  | top => exact List.prefix_rfl
  | next _ run ih =>
      rw [Task.render, run_renderNodes_cons run rfl] at ih
      exact ih
  | @enter _ depth space _ inner node rest engine _ engine₂ published here takes bound load ih =>
      let template : Task := .nodes inner published.tree.nodes
      have hnode : (renderNode ⟨space, renderTemplate (maxIncludeDepth - depth)⟩ node).run engine =
          (template.render (depth + 1)).run engine₂ :=
        (takes _).trans (run_renderTemplate_of_loaded bound load)
      rw [Task.render, run_renderNodes_cons hnode rfl] at ih
      -- the other nodes are rendered behind the template, and only add to the log
      have hloaded := takes.standard_load (here.standard h) load
      have hstandard := kept_standard.render hloaded (depth + 1) template
      have hrest := (kept_log _).render ⟨hstandard, List.prefix_rfl⟩ depth (.nodes space rest)
      exact hrest.2.trans ih

/-- **The names on the way make up the namespace.** -/
theorem Visits.space_eq (hvisits : Visits start tree names depth space nodes engine)
    (h : start.registry.Standard) : space = nestedSpace names := by
  induction hvisits with
  | top => rfl
  | next _ _ ih => exact ih
  | @enter names _ space _ _ node _ engine _ _ _ here takes _ _ ih =>
      rw [takes.space_eq (here.standard h), ih]
      cases node.nameText? (nestedSpace names) engine with
      | none =>
          rw [Option.toList_none, List.append_nil]
          rfl
      | some name => exact resolveSpace_nestedSpace names name

/-! ### Includes without other parameters -/

/-- The tag that includes the template `uri` in a namespace of its own. -/
def Node.includeIn (uri name : Operand) : Node :=
  .function "include" (Table.ofList [("uri", .ofOperand uri), ("name", .ofOperand name)]) [] 1

/-- What is included there is visited, and the engine is left as it is. -/
theorem Visits.includeIn {uri name : Operand} {target text : Value} {rest : List Node}
    {published : Published}
    (here : Visits start tree names depth space (.includeIn uri name :: rest) engine)
    (h : engine.registry.Standard) (huri : uri.literal? = some target)
    (hname : name.literal? = some text) (bound : depth < maxIncludeDepth)
    (load : engine.load target.display = (.ok published, engine)) :
    Visits start tree (names ++ [text.display]) (depth + 1)
      (resolveSpace space (some text.display)) published.tree.nodes engine := by
  have htarget := run_evaluate_of_literal huri space engine
  have htext := run_evaluate_of_literal hname space engine
  have hnamed : (Node.includeIn uri name).nameText? space engine = some text.display := by
    show some ((evaluate space (.ofOperand name)).run
      ((evaluate space (.ofOperand uri)).run engine).2).1.display = _
    rw [htarget, htext]
  have htakes : (Node.includeIn uri name).Takes space engine
      (.opens target.display (resolveSpace space (some text.display))) engine := by
    intro templateAt
    rw [Node.includeIn, renderNode, run_bind, run_functionHandler?_include h]
    show (evaluate space (.ofOperand uri) >>= fun uri => evaluate space (.ofOperand name) >>=
      fun name => templateAt uri.display (resolveSpace space (some name.display))).run engine = _
    rw [run_bind, htarget, run_bind, htext]
    rfl
  have hvisits := here.enter htakes bound load
  rw [hnamed] at hvisits
  exact hvisits

/-- **Empty names of nested includes** are ignored exactly where they stand in front of all others. On a
standard engine, wherever a render comes to, the namespace is made of the names along the chain of
includes from the first one on that is not empty. So a reference reads its variable in the namespace
that is made of the names that are not empty, with the namespace of its own behind them if it has one,
if and only if no empty name stands behind one of them. -/
theorem nested_names_joined_iff (h : start.registry.Standard)
    (hvisits : Visits start tree names depth space nodes engine) :
    space = nestedSpace names ∧
      (∀ name, ReadsFrom space none name (joinNames names) ↔ EmptyInFront names) ∧
      ∀ explicit name, explicit ≠ "" →
        (ReadsFrom space (some explicit) name (joinNames (names ++ [explicit])) ↔
          EmptyInFront names) := by
  have hspace := hvisits.space_eq h
  refine ⟨hspace, fun name => ?_, fun explicit name hexplicit => ?_⟩
  · rw [readsFrom_iff, hspace]
    exact joinNames_eq_nestedSpace_iff names
  · rw [readsFrom_iff, hspace, resolveSpace_nestedSpace, joinNames_eq_nestedSpace_iff,
      emptyInFront_append_iff hexplicit]

/-- Three names, of which the first one is empty. -/
theorem nested_names_joined_three :
    let page : Node → Published := fun node => ⟨0, ⟨[node], "", "\x7b", "\x7d", false⟩⟩
    let shown : Node := .expression (.ofOperand (.reference ⟨none, "x", []⟩)) 1
    let trees := Table.ofList [
      (Engine.standard.cacheKey "a", page (.includeIn (.text "b") (.text "n"))),
      (Engine.standard.cacheKey "b", page (.includeIn (.text "c") (.text "m"))),
      (Engine.standard.cacheKey "c", page shown)]
    let start : Engine := { Engine.standard with cache := ⟨trees, 0⟩ }
    let tree : Tree := ⟨[.includeIn (.text "a") (.text "")], "", "\x7b", "\x7d", false⟩
    start.registry.Standard ∧ Visits start tree ["", "n", "m"] 3 "n:m" [shown] start ∧
      ReadsFrom "n:m" none "x" (joinNames ["", "n", "m"]) ∧
      ReadsFrom "n:m" (some "e") "x" (joinNames ["", "n", "m", "e"]) := by
  intro page shown trees start tree
  have h : start.registry.Standard := Registry.standard_standardRegistry
  have hfirst : start.load "a" = (.ok (page (.includeIn (.text "b") (.text "n"))), start) := rfl
  have hsecond : start.load "b" = (.ok (page (.includeIn (.text "c") (.text "m"))), start) := rfl
  have hthird : start.load "c" = (.ok (page shown), start) := rfl
  have htop : Visits start tree [] 0 "" tree.nodes start := .top
  have houter := htop.includeIn h rfl rfl (by decide) hfirst
  have hvisits : Visits start tree ["", "n", "m"] 3 "n:m" [shown] start :=
    (houter.includeIn h rfl rfl (by decide) hsecond).includeIn h rfl rfl (by decide) hthird
  obtain ⟨-, hbare, hexplicit⟩ := nested_names_joined_iff h hvisits
  exact ⟨h, hvisits, (hbare "x").2 (by decide), (hexplicit "e" "x" (by decide)).2 (by decide)⟩

/-- **An empty name in the middle is not ignored.** With `n` and then an empty name the variable of the
namespace `n` is not found. -/
theorem nested_names_not_joined :
    let page : Node → Published := fun node => ⟨0, ⟨[node], "", "\x7b", "\x7d", false⟩⟩
    let shown : Node := .expression (.ofOperand (.reference ⟨none, "x", []⟩)) 1
    let trees := Table.ofList [
      (Engine.standard.cacheKey "a", page (.includeIn (.text "b") (.text ""))),
      (Engine.standard.cacheKey "b", page shown)]
    let engine := Engine.standard.setVariable "n" "x" (.text "v")
    let start : Engine := { engine with cache := ⟨trees, 0⟩ }
    let tree : Tree := ⟨[.includeIn (.text "a") (.text "n")], "", "\x7b", "\x7d", false⟩
    let templates := Table.ofList [("a", "\x7binclude uri='b' name=''\x7d"), ("b", "\x7b$x\x7d")]
    let resources := Resources.register {} "memory" (.memory templates)
    let parsed := { engine with resources }.renderText "\x7binclude uri='a' name='n'\x7d"
    start.registry.Standard ∧ Visits start tree ["n", ""] 2 "n:" [shown] start ∧
      joinNames ["n", ""] = "n" ∧ ¬ ReadsFrom "n:" none "x" "n" ∧
      (start.render tree).1 = "" ∧ parsed.1 = "" ∧
      parsed.2.log = [.ofRuntime (.undefinedVariable "n:" "x")] := by
  intro page shown trees engine start tree templates resources parsed
  have h : start.registry.Standard := Registry.standard_standardRegistry
  have hfirst : start.load "a" = (.ok (page (.includeIn (.text "b") (.text ""))), start) := rfl
  have hsecond : start.load "b" = (.ok (page shown), start) := rfl
  have htop : Visits start tree [] 0 "" tree.nodes start := .top
  have hvisits : Visits start tree ["n", ""] 2 "n:" [shown] start :=
    (htop.includeIn h rfl rfl (by decide) hfirst).includeIn h rfl rfl (by decide) hsecond
  have hreads : ¬ ReadsFrom "n:" none "x" "n" := by
    rw [readsFrom_iff]
    decide
  exact ⟨h, hvisits, by decide, hreads, by decide +kernel, by decide +kernel, by decide +kernel⟩

end TextTemplate
