import TextTemplate.Proofs.Render.Relation

set_option autoImplicit false

/-! # The tree cache is transparent

An engine publishes the tree of a template when it is first loaded, and from then on it takes the tree
from the cache. Beside it we run an engine that does not look at its cache: it fetches and parses
anew whenever a template is loaded, in the middle of a render too.

Main statement: `answers_eq_afresh`. Whatever a standard engine is asked to do, one thing after the
other, it answers as if there were no cache and it has the same variables. Only the log tells the
difference: what is wrong with a template is recorded whenever it is parsed. -/

namespace TextTemplate

namespace Engine

/-! ## Without a cache -/

/-- The tree of a template, fetched and parsed now. -/
def loadAfresh (engine : Engine) (uri : String) : Except ResourceProblem Tree × Engine :=
  match engine.resources.fetch uri with
  | .error problem => (.error problem, engine)
  | .ok resource =>
    let (tree, engine) := engine.parse resource.text uri
    (.ok { tree with modified := resource.modified }, engine)

end Engine

/-- The tree of a template, fetched and parsed now. -/
def loadTreeAfresh (uri : String) : Render (Except ResourceProblem Tree) := do
  let (result, engine) := (← get).loadAfresh uri
  set engine
  pure result

/-- Renders the template `uri` like `renderTemplate`, but without a cache. -/
def renderTemplateAfresh : (nesting : Nat) → (uri space : String) → Render String
  | 0, uri, _ => do
    record (.error "include" (.includeDepthExceeded uri maxIncludeDepth))
    pure ""
  | nesting + 1, uri, space => do
    match ← loadTreeAfresh uri with
    | .ok tree => renderNodes ⟨space, renderTemplateAfresh nesting⟩ tree.nodes
    | .error problem =>
      record ⟨.error, "include", .resource problem⟩
      pure ""

namespace Engine

/-- Renders a tree without a cache. -/
def renderAfresh (engine : Engine) (tree : Tree) : String × Engine :=
  (renderNodes ⟨"", renderTemplateAfresh maxIncludeDepth⟩ tree.nodes).run engine

/-- Loads and renders a template without a cache. -/
def fetchAfresh (engine : Engine) (uri : String) : Except ResourceProblem String × Engine :=
  match engine.loadAfresh uri with
  | (.ok tree, engine) =>
    let (output, engine) := engine.renderAfresh tree
    (.ok output, engine)
  | (.error problem, engine) =>
    (.error problem, engine.note ⟨.warning, "", .resource problem⟩)

/-- Every tree in the cache is the one that a fresh parse of its template with its delimiters gives. -/
def CacheUpToDate (engine : Engine) : Prop :=
  ∀ key published, engine.cache.get? key = some published →
    ∃ delimiters : Delimiters, { engine with delimiters }.cacheKey key.uri = key ∧
      ({ engine with delimiters }.loadAfresh key.uri).1 = .ok published.tree

theorem cacheUpToDate_of_empty {engine : Engine} (h : engine.cache = {}) : engine.CacheUpToDate := by
  intro key published hpublished
  rw [h] at hpublished
  cases hpublished

variable {engine engine' : Engine} {uri : String}

/-- The fresh tree is settled by the delimiters, the registry and the loaders. -/
theorem loadAfresh_congr (hdelimiters : engine.delimiters = engine'.delimiters)
    (hregistry : engine.registry = engine'.registry) (hresources : engine.resources = engine'.resources)
    (uri : String) : (engine.loadAfresh uri).1 = (engine'.loadAfresh uri).1 := by
  simp only [loadAfresh, hresources]
  cases engine'.resources.fetch uri with
  | error problem => rfl
  | ok resource =>
      have htree := parse_congr hdelimiters hregistry resource.text uri
      dsimp only
      rw [htree]

/-- Loading afresh leaves a standard engine as it was, but for what it records. -/
theorem loadAfresh_of_standard (h : engine.registry.Standard) (uri : String) :
    (engine.loadAfresh uri).2 = { engine with log := (engine.loadAfresh uri).2.log } := by
  unfold loadAfresh
  cases engine.resources.fetch uri with
  | error problem => rfl
  | ok resource => exact parse_of_standard h resource.text uri

/-- **What loading does.** It takes the tree from the cache, or it fails as it does afresh, or it
publishes the fresh tree under a key that is free. -/
theorem load_cases (h : engine.registry.Standard) (uri : String) :
    (∃ published, engine.cache.get? (engine.cacheKey uri) = some published ∧
        engine.load uri = (.ok published, engine)) ∨
      (∃ problem, engine.cache.get? (engine.cacheKey uri) = none ∧
        (engine.loadAfresh uri).1 = .error problem ∧
        engine.load uri = (.error problem, engine)) ∨
      ∃ published cache, engine.cache.get? (engine.cacheKey uri) = none ∧
        (engine.loadAfresh uri).1 = .ok published.tree ∧
        (∀ key, cache.get? key =
          if engine.cacheKey uri = key then some published else engine.cache.get? key) ∧
        engine.load uri =
          (.ok published, { engine with cache, log := (engine.loadAfresh uri).2.log }) := by
  unfold load loadAfresh
  cases hcached : engine.cache.get? (engine.cacheKey uri) with
  | some published => exact .inl ⟨published, rfl, rfl⟩
  | none =>
      cases engine.resources.fetch uri with
      | error problem => exact .inr (.inl ⟨problem, rfl, rfl, rfl⟩)
      | ok resource =>
          -- parsing has not touched the cache, so the key is still free when the tree is published
          have hparse := parse_of_standard h resource.text uri
          let tree : Tree :=
            { (engine.parse resource.text uri).1 with modified := resource.modified }
          refine .inr (.inr ⟨(engine.cache.insert (engine.cacheKey uri) tree).1,
            (engine.cache.insert (engine.cacheKey uri) tree).2, rfl, ?_,
            fun key => TreeCache.get?_insert _ _ key tree, ?_⟩)
          · rw [TreeCache.tree_insert, hcached]
            rfl
          · dsimp only
            rw [hparse]
            rfl

/-- Whether the cache is up to date is settled by the cache, the registry and the loaders. -/
theorem CacheUpToDate.of_eq (h : engine.CacheUpToDate) (hcache : engine'.cache = engine.cache)
    (hregistry : engine'.registry = engine.registry)
    (hresources : engine'.resources = engine.resources) : engine'.CacheUpToDate := by
  intro key published hpublished
  rw [hcache] at hpublished
  obtain ⟨delimiters, hkey, htree⟩ := h key published hpublished
  refine ⟨delimiters, hkey, ?_⟩
  rw [← htree]
  apply loadAfresh_congr
  · rfl
  · exact hregistry
  · exact hresources

/-- The tree that is found in a cache that is up to date. -/
theorem CacheUpToDate.loadAfresh_eq (h : engine.CacheUpToDate) {published : Published}
    (hcached : engine.cache.get? (engine.cacheKey uri) = some published) :
    (engine.loadAfresh uri).1 = .ok published.tree := by
  obtain ⟨delimiters, hkey, htree⟩ := h _ _ hcached
  -- the key tells the delimiters, so the tree was parsed with those in force now
  have hdelimiters : delimiters = engine.delimiters := by
    cases delimiters
    cases hkey
    rfl
  subst hdelimiters
  exact htree

/-- Publishing the fresh tree keeps the cache up to date. -/
theorem CacheUpToDate.publish (h : engine.CacheUpToDate) {published : Published} {cache : TreeCache}
    (htree : (engine.loadAfresh uri).1 = .ok published.tree)
    (hget : ∀ key, cache.get? key =
      if engine.cacheKey uri = key then some published else engine.cache.get? key) :
    { engine with cache }.CacheUpToDate := by
  intro key published' hlookup
  change cache.get? key = some published' at hlookup
  rw [hget] at hlookup
  have hcongr : ∀ delimiters : Delimiters, ({ engine with cache, delimiters }.loadAfresh key.uri).1 =
      ({ engine with delimiters }.loadAfresh key.uri).1 := by
    intro delimiters
    apply loadAfresh_congr
    all_goals rfl
  split at hlookup
  · next hkey =>
      cases hlookup
      subst hkey
      exact ⟨engine.delimiters, rfl, (hcongr _).trans htree⟩
  · obtain ⟨delimiters, hkey, htree'⟩ := h key published' hlookup
    exact ⟨delimiters, hkey, (hcongr _).trans htree'⟩

end Engine

/-! ## Side by side -/

/-- A standard engine with a cache that is up to date, and one that differs from it in the cache and
the log at most. -/
structure Mirrors (engine fresh : Engine) : Prop where
  standard : engine.registry.Standard
  upToDate : engine.CacheUpToDate
  rest : ∃ cache log, fresh = { engine with cache, log }

variable {engine fresh : Engine}

/-- A change that has nothing to do with handlers, loaders and trees. -/
theorem Mirrors.change (h : Mirrors engine fresh) {changed changed' : Engine}
    (hregistry : changed.registry = engine.registry)
    (hresources : changed.resources = engine.resources) (hcache : changed.cache = engine.cache)
    (hrest : ∃ cache log, changed' = { changed with cache, log }) : Mirrors changed changed' :=
  ⟨hregistry ▸ h.standard, h.upToDate.of_eq hcache hregistry hresources, hrest⟩

theorem congruence_mirrors : Congruence (fun _ => True) Mirrors where
  resolve _ _ := trivial
  standard h := by
    obtain ⟨cache, log, rfl⟩ := h.rest
    exact ⟨h.standard, h.standard⟩
  delimiters_eq h := by
    obtain ⟨cache, log, rfl⟩ := h.rest
    rfl
  get?_eq h _ name := by
    obtain ⟨cache, log, rfl⟩ := h.rest
    rfl
  note h diagnostic := by
    obtain ⟨cache, log, rfl⟩ := h.rest
    exact h.change rfl rfl rfl ⟨_, _, rfl⟩
  setVariable h _ name value := by
    obtain ⟨cache, log, rfl⟩ := h.rest
    exact h.change rfl rfl rfl ⟨_, _, rfl⟩

/-- What is loaded is the fresh tree, from the cache or not. -/
theorem Mirrors.load (h : Mirrors engine fresh) (uri : String) :
    (engine.load uri).1.map Published.tree = (fresh.loadAfresh uri).1 ∧
      Mirrors (engine.load uri).2 (fresh.loadAfresh uri).2 := by
  have hfresh := Engine.loadAfresh_of_standard (congruence_mirrors.standard h).2 uri
  obtain ⟨cache, log, rfl⟩ := h.rest
  have htree : ({ engine with cache, log }.loadAfresh uri).1 = (engine.loadAfresh uri).1 := by
    apply Engine.loadAfresh_congr
    all_goals rfl
  rw [htree, hfresh]
  rcases Engine.load_cases h.standard uri with ⟨published, hcached, hload⟩ |
    ⟨problem, -, hproblem, hload⟩ | ⟨published, cache', -, hpublished, hget, hload⟩
  · rw [hload, h.upToDate.loadAfresh_eq hcached]
    exact ⟨rfl, h.change rfl rfl rfl ⟨_, _, rfl⟩⟩
  · rw [hload, hproblem]
    exact ⟨rfl, h.change rfl rfl rfl ⟨_, _, rfl⟩⟩
  · rw [hload, hpublished]
    have hup : { engine with cache := cache', log := (engine.loadAfresh uri).2.log }.CacheUpToDate :=
      (h.upToDate.publish hpublished hget).of_eq rfl rfl rfl
    exact ⟨rfl, h.standard, hup, ⟨_, _, rfl⟩⟩

/-- Loading in the middle of a render. -/
theorem relates_loadTree (uri : String) :
    Relates Mirrors (fun result result' => result.map Published.tree = result') (loadTree uri)
      (loadTreeAfresh uri) :=
  fun _ _ h => h.load uri

/-- An included template gives the same output, cached or not. -/
theorem agree_renderTemplateAfresh (nesting : Nat) (uri space : String) :
    Agree Mirrors (renderTemplate nesting uri space) (renderTemplateAfresh nesting uri space) := by
  -- induction on how deep includes may still be nested
  induction nesting generalizing uri space with
  | zero => exact (congruence_mirrors.agree_record _).then fun _ => agree_pure ""
  | succ nesting ih =>
      rw [renderTemplate, renderTemplateAfresh]
      refine (relates_loadTree uri).bind ?_
      rintro (problem | published) _ rfl
      · exact (congruence_mirrors.agree_record _).then fun _ => agree_pure ""
      · have hcontexts : ContextsAgree (fun _ => True) Mirrors ⟨space, renderTemplate nesting⟩
            ⟨space, renderTemplateAfresh nesting⟩ := ⟨rfl, trivial, fun uri space _ => ih uri space⟩
        exact congruence_mirrors.agree_renderNodes hcontexts published.tree.nodes

theorem Mirrors.render (h : Mirrors engine fresh) (tree : Tree) :
    (engine.render tree).1 = (fresh.renderAfresh tree).1 ∧
      Mirrors (engine.render tree).2 (fresh.renderAfresh tree).2 := by
  have hcontexts : ContextsAgree (fun _ => True) Mirrors .top
      ⟨"", renderTemplateAfresh maxIncludeDepth⟩ :=
    ⟨rfl, trivial, fun uri space _ => agree_renderTemplateAfresh maxIncludeDepth uri space⟩
  exact congruence_mirrors.agree_renderNodes hcontexts tree.nodes h

theorem Mirrors.fetch (h : Mirrors engine fresh) (uri : String) :
    (engine.fetch uri).1 = (fresh.fetchAfresh uri).1 ∧
      Mirrors (engine.fetch uri).2 (fresh.fetchAfresh uri).2 := by
  obtain ⟨hresult, hafter⟩ := h.load uri
  unfold Engine.fetch Engine.fetchAfresh
  revert hresult hafter
  rcases engine.load uri with ⟨problem | published, engine'⟩
  · rcases fresh.loadAfresh uri with ⟨result', fresh'⟩
    rintro rfl hafter
    exact ⟨rfl, congruence_mirrors.note hafter _⟩
  · rcases fresh.loadAfresh uri with ⟨result', fresh'⟩
    rintro rfl hafter
    obtain ⟨houtput, hrendered⟩ := hafter.render published.tree
    exact ⟨congrArg Except.ok houtput, hrendered⟩

theorem Mirrors.parse (h : Mirrors engine fresh) (text source : String) :
    (engine.parse text source).1 = (fresh.parse text source).1 ∧
      Mirrors (engine.parse text source).2 (fresh.parse text source).2 := by
  obtain ⟨hstandard, hstandard'⟩ := congruence_mirrors.standard h
  have hafter := Engine.parse_of_standard hstandard text source
  have hafter' := Engine.parse_of_standard hstandard' text source
  obtain ⟨cache, log, rfl⟩ := h.rest
  refine ⟨Engine.parse_congr rfl rfl text source, ?_⟩
  rw [hafter, hafter']
  exact h.change rfl rfl rfl ⟨_, _, rfl⟩

/-! ## Operations -/

/-- What an engine can be asked to do. -/
inductive Operation
  | setDelimiters (left right : String)
  | setVariable (space name : String) (value : Value)
  | unsetVariable (space name : String)
  | load (uri : String)
  | fetch (uri : String)
  | parse (text source : String)
  | render (tree : Tree)

/-- What an engine answers. -/
inductive Answer
  | done
  | refused (problem : ConfigProblem)
  | tree (result : Except ResourceProblem Tree)
  | output (result : Except ResourceProblem String)

namespace Engine

/-- Does what is asked. -/
def perform (engine : Engine) : Operation → Answer × Engine
  | .setDelimiters left right =>
    match engine.setDelimiters left right with
    | .ok engine => (.done, engine)
    | .error problem => (.refused problem, engine)
  | .setVariable space name value => (.done, engine.setVariable space name value)
  | .unsetVariable space name => (.done, engine.unsetVariable space name)
  | .load uri =>
    let (result, engine) := engine.load uri
    (.tree (result.map Published.tree), engine)
  | .fetch uri =>
    let (result, engine) := engine.fetch uri
    (.output result, engine)
  | .parse text source =>
    let (tree, engine) := engine.parse text source
    (.tree (.ok tree), engine)
  | .render tree =>
    let (output, engine) := engine.render tree
    (.output (.ok output), engine)

/-- Does what is asked, without a cache. -/
def performAfresh (engine : Engine) : Operation → Answer × Engine
  | .load uri =>
    let (result, engine) := engine.loadAfresh uri
    (.tree result, engine)
  | .fetch uri =>
    let (result, engine) := engine.fetchAfresh uri
    (.output result, engine)
  | .render tree =>
    let (output, engine) := engine.renderAfresh tree
    (.output (.ok output), engine)
  | operation => engine.perform operation

/-- Does one thing after the other and gives the answers. -/
def performAll (perform : Engine → Operation → Answer × Engine) :
    Engine → List Operation → List Answer × Engine
  | engine, [] => ([], engine)
  | engine, operation :: rest =>
    let (answer, engine) := perform engine operation
    let (answers, engine) := performAll perform engine rest
    (answer :: answers, engine)

end Engine

/-- **One operation** has the same answer with the cache and without. -/
theorem Mirrors.perform (h : Mirrors engine fresh) (operation : Operation) :
    (engine.perform operation).1 = (fresh.performAfresh operation).1 ∧
      Mirrors (engine.perform operation).2 (fresh.performAfresh operation).2 := by
  cases operation with
  | load uri =>
      obtain ⟨hresult, hafter⟩ := h.load uri
      exact ⟨congrArg Answer.tree hresult, hafter⟩
  | fetch uri =>
      obtain ⟨hresult, hafter⟩ := h.fetch uri
      exact ⟨congrArg Answer.output hresult, hafter⟩
  | render tree =>
      obtain ⟨houtput, hafter⟩ := h.render tree
      exact ⟨congrArg (fun output => Answer.output (.ok output)) houtput, hafter⟩
  | parse text source =>
      obtain ⟨htree, hafter⟩ := h.parse text source
      exact ⟨congrArg (fun tree => Answer.tree (.ok tree)) htree, hafter⟩
  | setVariable space name value => exact ⟨rfl, congruence_mirrors.setVariable h trivial name value⟩
  | unsetVariable space name =>
      -- both engines have the same variables, so the removal fails on both or on neither
      refine ⟨rfl, ?_⟩
      obtain ⟨cache, log, rfl⟩ := h.rest
      simp only [Engine.perform, Engine.performAfresh, Engine.unsetVariable]
      cases engine.store.unset space name with
      | error problem => exact h.change rfl rfl rfl ⟨_, _, rfl⟩
      | ok removed => exact h.change rfl rfl rfl ⟨_, _, rfl⟩
  | setDelimiters left right =>
      obtain ⟨cache, log, rfl⟩ := h.rest
      simp only [Engine.perform, Engine.performAfresh, Engine.setDelimiters]
      cases Delimiters.ofStrings? left right with
      | none => exact ⟨rfl, h.change rfl rfl rfl ⟨_, _, rfl⟩⟩
      | some delimiters => exact ⟨rfl, h.change rfl rfl rfl ⟨_, _, rfl⟩⟩

theorem Mirrors.performAll (h : Mirrors engine fresh) (operations : List Operation) :
    (Engine.performAll Engine.perform engine operations).1 =
        (Engine.performAll Engine.performAfresh fresh operations).1 ∧
      Mirrors (Engine.performAll Engine.perform engine operations).2
        (Engine.performAll Engine.performAfresh fresh operations).2 := by
  induction operations generalizing engine fresh with
  | nil => exact ⟨rfl, h⟩
  | cons operation rest ih =>
      obtain ⟨hanswer, hafter⟩ := h.perform operation
      obtain ⟨hanswers, hend⟩ := ih hafter
      exact ⟨by simp only [Engine.performAll, hanswer, hanswers], hend⟩

/-- **The cache cannot be noticed.** A standard engine whose cache is up to date, an empty one say,
answers a sequence of operations as it does without a cache, and it has the same variables behind.
The cache is still up to date then: under whatever delimiters a tree was published, a fresh parse
with those delimiters gives the same tree. -/
theorem answers_eq_afresh (engine : Engine) (hstandard : engine.registry.Standard)
    (hcache : engine.CacheUpToDate) (operations : List Operation) :
    let cached := Engine.performAll Engine.perform engine operations
    let afresh := Engine.performAll Engine.performAfresh engine operations
    cached.1 = afresh.1 ∧ cached.2.store = afresh.2.store ∧ cached.2.CacheUpToDate := by
  intro cached afresh
  have hstart : Mirrors engine engine := ⟨hstandard, hcache, ⟨_, _, rfl⟩⟩
  obtain ⟨hanswers, hend⟩ := hstart.performAll operations
  obtain ⟨cache, log, hrest⟩ := hend.rest
  exact ⟨hanswers, (congrArg Engine.store hrest).symm, hend.upToDate⟩

/-- A standard engine with a template that includes another one. -/
def album : Engine :=
  Engine.standard.registerLoader "" (.memory (Table.ofList
    [("page", "\x7binclude uri='entry'\x7d"), ("entry", "\x7b$x\x7d (x)")]))

/-- The delimiters are switched back and forth between two renders of the same page. -/
theorem answers_eq_afresh_album :
    let operations : List Operation := [.setVariable "" "x" (.integer 1), .fetch "page",
      .setDelimiters "(" ")", .fetch "entry", .setDelimiters "\x7b" "\x7d", .fetch "page"]
    let cached := Engine.performAll Engine.perform album operations
    let afresh := Engine.performAll Engine.performAfresh album operations
    album.registry.Standard ∧ album.CacheUpToDate ∧
      cached.1 = afresh.1 ∧ cached.2.store = afresh.2.store ∧ cached.2.CacheUpToDate := by
  intro operations cached afresh
  have hstandard : album.registry.Standard := Registry.standard_standardRegistry
  have hcache : album.CacheUpToDate := Engine.cacheUpToDate_of_empty rfl
  exact ⟨hstandard, hcache, answers_eq_afresh album hstandard hcache operations⟩

end TextTemplate
