import TextTemplate.Proofs.Engine.Cache
import TextTemplate.Proofs.Render.Depth

set_option autoImplicit false

/-! # Includes are transparent

An include that names its template and nothing else may be replaced by the nodes of that template.
The nodes are then rendered one level further up, and everything that they include moves up with
them. A render looks at the depth in one place only, and there it records that a template is nested
too deep. So as long as that is not recorded the depth makes no difference (`Renders.shallower`).
Loading the template earlier or later makes none either, because a tree that is loaded stays what it
is (`Alike`).

Main statement: `render_inlined`. -/

namespace TextTemplate

/-! ## Trees stay what they are -/

namespace Engine

/-- The tree of a template, from the cache or not. -/
def treeAt (engine : Engine) (uri : String) : Except ResourceProblem Tree :=
  (engine.load uri).1.map Published.tree

variable {engine engine' : Engine}

theorem treeAt_eq (h : engine.registry.Standard) (uri : String) :
    engine.treeAt uri =
      match engine.cache.get? (engine.cacheKey uri) with
      | some published => .ok published.tree
      | none => (engine.loadAfresh uri).1 := by
  unfold treeAt
  rcases load_cases h uri with ⟨published, hcached, hload⟩ | ⟨problem, hfree, hproblem, hload⟩ |
    ⟨published, cache, hfree, htree, -, hload⟩
  · rw [hload, hcached]
    rfl
  · rw [hload, hfree, hproblem]
    rfl
  · rw [hload, hfree, htree]
    rfl

/-- The variables and the log have nothing to do with the trees. -/
theorem treeAt_with (h : engine.registry.Standard) (store : Store) (log : Log) (uri : String) :
    { engine with store, log }.treeAt uri = engine.treeAt uri := by
  have hstandard : { engine with store, log }.registry.Standard := h
  have hfresh : ({ engine with store, log }.loadAfresh uri).1 = (engine.loadAfresh uri).1 := by
    apply loadAfresh_congr
    all_goals rfl
  rw [treeAt_eq h, treeAt_eq hstandard, hfresh]
  rfl

/-- **Loading one template changes the tree of none.** -/
theorem treeAt_load (h : engine.registry.Standard) (uri other : String) :
    (engine.load uri).2.treeAt other = engine.treeAt other := by
  rcases load_cases h uri with ⟨published, -, hload⟩ | ⟨problem, -, -, hload⟩ |
    ⟨published, cache, hfree, htree, hget, hload⟩
  · rw [hload]
  · rw [hload]
  · let behind : Engine := { engine with cache, log := (engine.loadAfresh uri).2.log }
    have hstandard : behind.registry.Standard := h
    have hfresh : (behind.loadAfresh other).1 = (engine.loadAfresh other).1 := by
      apply loadAfresh_congr
      all_goals rfl
    have hlookup : behind.cache.get? (behind.cacheKey other) =
        if engine.cacheKey uri = engine.cacheKey other then some published
        else engine.cache.get? (engine.cacheKey other) := hget _
    rw [hload, treeAt_eq h]
    show behind.treeAt other = _
    rw [treeAt_eq hstandard, hfresh, hlookup]
    by_cases hkey : engine.cacheKey uri = engine.cacheKey other
    · obtain rfl : uri = other := congrArg CacheKey.uri hkey
      rw [if_pos rfl, hfree, htree]
    · rw [if_neg hkey]

theorem delimiters_load (h : engine.registry.Standard) (uri : String) :
    (engine.load uri).2.delimiters = engine.delimiters := by
  rcases load_cases h uri with ⟨published, -, hload⟩ | ⟨problem, -, -, hload⟩ |
    ⟨published, cache, -, -, -, hload⟩
  all_goals rw [hload]

end Engine

/-! ## Engines that are alike -/

/-- Two standard engines with the same variables and delimiters, and with the same trees. Some of
those may be in the cache of one engine and not of the other. -/
structure Alike (engine engine' : Engine) : Prop where
  standard : engine.registry.Standard
  standard' : engine'.registry.Standard
  delimiters_eq : engine.delimiters = engine'.delimiters
  store_eq : engine.store = engine'.store
  treeAt_eq : ∀ uri, engine.treeAt uri = engine'.treeAt uri

variable {engine engine' : Engine}

theorem Alike.refl (h : engine.registry.Standard) : Alike engine engine :=
  ⟨h, h, rfl, rfl, fun _ => rfl⟩

/-- A change of the variables or the log. -/
theorem Alike.change (h : Alike engine engine') {store store' : Store} (hstore : store = store')
    (log log' : Log) :
    Alike { engine with store, log } { engine' with store := store', log := log' } := by
  refine ⟨h.standard, h.standard', h.delimiters_eq, hstore, fun uri => ?_⟩
  rw [Engine.treeAt_with h.standard, Engine.treeAt_with h.standard', h.treeAt_eq]

theorem congruence_alike : Congruence (fun _ => True) Alike where
  resolve _ _ := trivial
  standard h := ⟨h.standard, h.standard'⟩
  delimiters_eq h := h.delimiters_eq
  get?_eq h _ name := by rw [h.store_eq]
  note h diagnostic := h.change h.store_eq _ _
  setVariable h _ name value := h.change (by rw [h.store_eq]) _ _

theorem Alike.symm (h : Alike engine engine') : Alike engine' engine :=
  ⟨h.standard', h.standard, h.delimiters_eq.symm, h.store_eq.symm,
    fun uri => (h.treeAt_eq uri).symm⟩

/-- It does not matter whether a template has been loaded already. -/
theorem Alike.load (h : Alike engine engine') (uri : String) :
    Alike (engine.load uri).2 engine' where
  standard := by
    rw [Engine.registry_load h.standard]
    exact h.standard
  standard' := h.standard'
  delimiters_eq := by rw [Engine.delimiters_load h.standard, h.delimiters_eq]
  store_eq := by rw [Engine.store_load, h.store_eq]
  treeAt_eq other := by rw [Engine.treeAt_load h.standard, h.treeAt_eq]

theorem Alike.relates_loadTree (uri : String) :
    Relates Alike (fun result result' => result.map Published.tree = result'.map Published.tree)
      (loadTree uri) (loadTree uri) :=
  fun _ _ h => ⟨h.treeAt_eq uri, ((h.load uri).symm.load uri).symm⟩

/-- **Engines that are alike render alike.** -/
theorem Alike.agree_renderNodes (space : String) (levels : Nat) (nodes : List Node) :
    Agree Alike (renderNodes ⟨space, renderTemplate levels⟩ nodes)
      (renderNodes ⟨space, renderTemplate levels⟩ nodes) :=
  congruence_alike.agree_renderNodes ⟨rfl, trivial, fun uri _ _ =>
    congruence_alike.agree_renderTemplate Alike.relates_loadTree levels uri trivial⟩ nodes

/-! ## One level further up -/

/-- A template was nested too deep. -/
def Diagnostic.isTooDeep (diagnostic : Diagnostic) : Bool :=
  match diagnostic.problem with
  | .runtime (.includeDepthExceeded _ _) => true
  | _ => false

/-- How often a template was nested too deep. -/
def Engine.tooDeepCount (engine : Engine) : Nat := engine.log.countP Diagnostic.isTooDeep

theorem Engine.tooDeepCount_le (h : engine.log <+: engine'.log) :
    engine.tooDeepCount ≤ engine'.tooDeepCount :=
  h.sublist.countP_le

theorem Engine.tooDeepCount_note (engine : Engine) (uri : String) :
    (engine.note (.tooDeep uri)).tooDeepCount = engine.tooDeepCount + 1 := by
  rw [tooDeepCount, note, List.countP_append]
  rfl

/-- Nothing that was recorded says that a template is nested too deep. -/
theorem Engine.tooDeepCount_eq (hlog : engine.log <+: engine'.log)
    (h : ∀ diagnostic ∈ engine'.log.drop engine.log.length, diagnostic.isTooDeep = false) :
    engine'.tooDeepCount = engine.tooDeepCount := by
  obtain ⟨recorded, hrecorded⟩ := hlog
  rw [← hrecorded, List.drop_left] at h
  have hnone : recorded.countP Diagnostic.isTooDeep = 0 := by
    rw [List.countP_eq_zero]
    intro diagnostic hd
    simp [h diagnostic hd]
  rw [tooDeepCount, ← hrecorded, List.countP_append, hnone, tooDeepCount, Nat.add_zero]

/-- The trees stay what they are. -/
theorem kept_trees (view : String → Except ResourceProblem Tree) :
    Kept fun engine => engine.registry.Standard ∧ ∀ uri, engine.treeAt uri = view uri where
  standard h := h.1
  note h _ := ⟨h.1, fun uri => (Engine.treeAt_with h.1 _ _ uri).trans (h.2 uri)⟩
  setVariable h _ _ _ := ⟨h.1, fun uri => (Engine.treeAt_with h.1 _ _ uri).trans (h.2 uri)⟩
  load h uri := ⟨kept_standard.load h.1 uri, fun other =>
    (Engine.treeAt_load h.1 uri other).trans (h.2 other)⟩

variable {depth : Nat} {task : Task} {output : String} {opened : List Nat}

theorem Renders.prefix_log (h : Renders depth task engine output engine' opened)
    (hstandard : engine.registry.Standard) : engine.log <+: engine'.log :=
  ((kept_log engine.log).renders h ⟨hstandard, List.prefix_rfl⟩).2

theorem Node.Takes.prefix_log {space : String} {node : Node} {course : Course}
    (h : node.Takes space engine course engine') (hstandard : engine.registry.Standard) :
    engine.log <+: engine'.log :=
  ((kept_log engine.log).takes ⟨hstandard, List.prefix_rfl⟩ h).2

/-- **A context of another depth makes no difference**, as long as no template is nested too deep.
-/
theorem Renders.shallower (h : Renders (depth + 1) task engine output engine' opened)
    (hstandard : engine.registry.Standard) (hquiet : engine'.tooDeepCount = engine.tooDeepCount) :
    ∃ opened', Renders depth task engine output engine' opened' := by
  generalize hdeeper : depth + 1 = deeper at h
  -- nothing is recorded in any part of the render, because nothing is recorded in the whole of it
  induction h generalizing depth with
  | nil => exact ⟨_, .nil⟩
  | shows takes tail ih =>
      have h₁ := kept_standard.takes hstandard takes
      have hle := Engine.tooDeepCount_le (takes.prefix_log hstandard)
      have hle' := Engine.tooDeepCount_le (tail.prefix_log h₁)
      obtain ⟨opened', htail⟩ := ih h₁ (by omega) hdeeper
      exact ⟨_, .shows takes htail⟩
  | opens takes template tail ihtemplate ihtail =>
      have h₁ := kept_standard.takes hstandard takes
      have h₂ := kept_standard.renders template h₁
      have hle := Engine.tooDeepCount_le (takes.prefix_log hstandard)
      have hle' := Engine.tooDeepCount_le (template.prefix_log h₁)
      have hle'' := Engine.tooDeepCount_le (tail.prefix_log h₂)
      obtain ⟨opened₁, htemplate⟩ := ihtemplate h₁ (by omega) hdeeper
      obtain ⟨opened₂, htail⟩ := ihtail h₂ (by omega) hdeeper
      exact ⟨_, .opens takes htemplate htail⟩
  | exceeded _ =>
      rw [Engine.tooDeepCount_note] at hquiet
      omega
  | failed bound load => exact ⟨_, .failed (by omega) load⟩
  | @loaded _ uri space engine engine₁ engine₂ published output opened bound load tree ih =>
      have hloaded := kept_standard.load hstandard uri
      have hlog := engine.log_load uri
      rw [load] at hloaded hlog
      dsimp only at hlog
      have hle := Engine.tooDeepCount_le hlog
      have hle' := Engine.tooDeepCount_le (tree.prefix_log hloaded)
      obtain ⟨opened', htree⟩ := ih hloaded (by omega) (congrArg (· + 1) hdeeper)
      exact ⟨_, .loaded (by omega) load htree⟩

/-- **A template renders like its nodes in the same context**, once it is loaded. -/
theorem Renders.inlined {uri space : String} {tree : Tree}
    (h : Renders depth (.template uri space) engine output engine' opened)
    (hstandard : engine.registry.Standard) (hquiet : engine'.tooDeepCount = engine.tooDeepCount)
    (htree : engine.treeAt uri = .ok tree) :
    ∃ opened', Renders depth (.nodes space tree.nodes) (engine.load uri).2 output engine'
      opened' := by
  cases h with
  | exceeded _ =>
      rw [Engine.tooDeepCount_note] at hquiet
      omega
  | failed _ load =>
      rw [Engine.treeAt, load] at htree
      cases htree
  | @loaded _ _ _ _ engine₁ _ published _ _ _ load nodes =>
      rw [Engine.treeAt, load] at htree
      cases htree
      have hloaded := kept_standard.load hstandard uri
      have hlog := engine.log_load uri
      rw [load] at hloaded hlog ⊢
      dsimp only at hlog
      have hle := Engine.tooDeepCount_le hlog
      have hle' := Engine.tooDeepCount_le (nodes.prefix_log hloaded)
      exact nodes.shallower hloaded (by omega)

/-! ## Inlining -/

/-- The same nodes in an engine that is like the first one. -/
theorem Renders.alike {space : String} {nodes : List Node} {start : Engine}
    (h : Renders depth (.nodes space nodes) engine output engine' opened)
    (halike : Alike engine start) :
    let context : Context := ⟨space, renderTemplate (maxIncludeDepth - depth)⟩
    ((renderNodes context nodes).run start).1 = output ∧
      Alike engine' ((renderNodes context nodes).run start).2 := by
  intro context
  have hrun : (renderNodes context nodes).run engine = (output, engine') := h.run_eq
  obtain ⟨houtput, hbehind⟩ :=
    Alike.agree_renderNodes space (maxIncludeDepth - depth) nodes halike
  rw [hrun] at houtput hbehind
  exact ⟨houtput.symm, hbehind⟩

/-- A render with an include of one template in the middle, part by part. -/
theorem exists_parts (h : engine.registry.Standard) (depth : Nat) (space : String)
    (before after : List Node) {uri : Operand} {name : Value} (huri : uri.literal? = some name)
    (children : List Node) (line : Nat) :
    let context : Context := ⟨space, renderTemplate (maxIncludeDepth - depth)⟩
    ∃ engine₁ engine₂ engine₃ output₁ output₂ output₃,
      (∃ opened, Renders depth (.nodes space before) engine output₁ engine₁ opened) ∧
      (∃ opened, Renders depth (.template name.display space) engine₁ output₂ engine₂ opened) ∧
      (∃ opened, Renders depth (.nodes space after) engine₂ output₃ engine₃ opened) ∧
      (renderNodes context (before ++ .includeOf uri children line :: after)).run engine =
        (output₁ ++ (output₂ ++ output₃), engine₃) := by
  intro context
  obtain ⟨output₁, engine₁, opened₁, hbefore⟩ := (Task.nodes space before).ends depth engine h
  have h₁ := kept_standard.renders hbefore h
  obtain ⟨output₂, engine₂, opened₂, htemplate⟩ :=
    (Task.template name.display space).ends depth engine₁ h₁
  have h₂ := kept_standard.renders htemplate h₁
  obtain ⟨output₃, engine₃, opened₃, hafter⟩ := (Task.nodes space after).ends depth engine₂ h₂
  refine ⟨engine₁, engine₂, engine₃, output₁, output₂, output₃,
    ⟨_, hbefore⟩, ⟨_, htemplate⟩, ⟨_, hafter⟩, ?_⟩
  have hfirst : (renderNodes context before).run engine = (output₁, engine₁) := hbefore.run_eq
  have hinclude : (renderNode context (.includeOf uri children line)).run engine₁ =
      (output₂, engine₂) :=
    (Node.takes_include h₁ huri space children line context.templateAt).trans htemplate.run_eq
  rw [renderNodes_append, run_bind, hfirst, run_bind, run_renderNodes_cons hinclude hafter.run_eq]
  rfl

theorem run_renderNodes_split (context : Context) (before middle after : List Node)
    (engine : Engine) :
    let first := (renderNodes context before).run engine
    let second := (renderNodes context middle).run first.2
    let last := (renderNodes context after).run second.2
    (renderNodes context (before ++ middle ++ after)).run engine =
      (first.1 ++ second.1 ++ last.1, last.2) := by
  intro first second last
  simp only [renderNodes_append]
  rfl

/-- **A plain include is transparent.** On a standard engine, an include without any other parameter
whose template can be loaded may be replaced by the nodes of that template, in every tree, namespace
and context: the output and the variables are the same, unless the render records that a template is
nested too deep. It makes no difference whether the engine has loaded the template before. -/
theorem render_inlined (engine : Engine) (h : engine.registry.Standard) (depth : Nat)
    (space : String) (before after : List Node) (uri : Operand) (name : Value)
    (huri : uri.literal? = some name) (children : List Node) (line : Nat) (published : Published)
    (loaded : Engine) (hload : engine.load name.display = (.ok published, loaded)) :
    let context : Context := ⟨space, renderTemplate (maxIncludeDepth - depth)⟩
    let original :=
      (renderNodes context (before ++ .includeOf uri children line :: after)).run engine
    (∀ diagnostic ∈ original.2.log.drop engine.log.length, diagnostic.isTooDeep = false) →
    ∀ start ∈ [engine, loaded],
      let inlined := (renderNodes context (before ++ published.tree.nodes ++ after)).run start
      inlined.1 = original.1 ∧ inlined.2.store = original.2.store := by
  intro context original hquiet start hstart inlined
  obtain ⟨engine₁, engine₂, engine₃, output₁, output₂, output₃,
    ⟨_, hbefore⟩, ⟨_, htemplate⟩, ⟨_, hafter⟩, horiginal⟩ :=
    exists_parts h depth space before after huri children line
  rw [show original = _ from horiginal] at hquiet ⊢
  have h₁ := kept_standard.renders hbefore h
  have hlog₁ := hbefore.prefix_log h
  have hlog₂ := htemplate.prefix_log h₁
  have hlog₃ := hafter.prefix_log (kept_standard.renders htemplate h₁)
  -- nothing is nested too deep in the template
  have hmiddle : engine₂.tooDeepCount = engine₁.tooDeepCount := by
    have hwhole := Engine.tooDeepCount_eq ((hlog₁.trans hlog₂).trans hlog₃) hquiet
    have hle₁ := Engine.tooDeepCount_le hlog₁
    have hle₂ := Engine.tooDeepCount_le hlog₂
    have hle₃ := Engine.tooDeepCount_le hlog₃
    omega
  -- its tree is still the one that was loaded at the start
  have htree : engine₁.treeAt name.display = .ok published.tree := by
    have hkept := (kept_trees engine.treeAt).renders hbefore ⟨h, fun _ => rfl⟩
    rw [hkept.2, Engine.treeAt, hload]
    rfl
  obtain ⟨_, hnodes⟩ := htemplate.inlined h₁ hmiddle htree
  -- the parts are rendered alike from where the other render starts
  have hstart : Alike engine start := by
    rcases List.mem_pair.1 hstart with rfl | rfl
    · exact .refl h
    · have hloaded := (Alike.refl h).load name.display
      rw [hload] at hloaded
      exact hloaded.symm
  obtain ⟨houtput₁, halike₁⟩ := hbefore.alike hstart
  obtain ⟨houtput₂, halike₂⟩ := hnodes.alike (halike₁.load name.display)
  obtain ⟨houtput₃, halike₃⟩ := hafter.alike halike₂
  rw [show inlined = _ from run_renderNodes_split context before published.tree.nodes after start]
  refine ⟨?_, halike₃.store_eq.symm⟩
  rw [houtput₁, houtput₂, houtput₃, String.append_assoc]

/-- Two templates that include each other, until a variable says otherwise. -/
theorem render_inlined_mutual :
    let templates := Table.ofList [("a", "(\x7binclude uri='b'\x7d)"),
      ("b", "[\x7binclude uri=$next next='leaf'\x7d]"), ("leaf", "\x7b$next\x7d")]
    let engine : Engine := { Engine.standard.setVariable "" "next" (.text "a") with
      resources := Resources.register {} "memory" (.memory templates) }
    let context : Context := ⟨"", renderTemplate (maxIncludeDepth - 0)⟩
    let after : List Node := [.expression (.ofOperand (.reference ⟨none, "next", []⟩)) 1]
    let original := (renderNodes context
      ([.text "-"] ++ .includeOf (.text "a") [] 1 :: after)).run engine
    engine.registry.Standard ∧ original.1 = "-([([leaf])])leaf" ∧
      (∀ diagnostic ∈ original.2.log.drop engine.log.length, diagnostic.isTooDeep = false) ∧
      ∃ published loaded, engine.load "a" = (.ok published, loaded) ∧
        ∀ start ∈ [engine, loaded],
          let inlined := (renderNodes context
            ([.text "-"] ++ published.tree.nodes ++ after)).run start
          inlined.1 = original.1 ∧ inlined.2.store = original.2.store := by
  intro templates engine context after original
  have h : engine.registry.Standard := Registry.standard_standardRegistry
  have houtput : original.1 = "-([([leaf])])leaf" := by decide +kernel
  have hquiet : ∀ diagnostic ∈ original.2.log.drop engine.log.length,
      diagnostic.isTooDeep = false := by decide +kernel
  have hloads : (engine.load "a").1.isOk = true := by decide +kernel
  refine ⟨h, houtput, hquiet, ?_⟩
  cases hload : engine.load "a" with
  | mk result loaded =>
      rw [hload] at hloads
      cases result with
      | error problem => cases hloads
      | ok published =>
          exact ⟨published, loaded, rfl, render_inlined engine h 0 "" [.text "-"] after (.text "a")
            (.text "a") rfl [] 1 published loaded hload hquiet⟩

end TextTemplate
