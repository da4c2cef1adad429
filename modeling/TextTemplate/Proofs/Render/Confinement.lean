import TextTemplate.Proofs.Render.Relation
import TextTemplate.Proofs.Resource.Confinement

set_option autoImplicit false

/-! # Renders stay in the directories of the loaders

What a template includes is named by the template, and loading it is all that rendering has to do with the loaders.
So the boundary of `Proofs/Resource/Confinement.lean` holds for whole renders: on an engine whose loaders find other
files outside their directories, everything is rendered as before (`Engine.render_shielded`).

Main statement: `Engine.loaders_confined`. -/

namespace TextTemplate

namespace Engine

/-! ## Engines with shielded loaders -/

/-- The engine with other files outside the directories of its loaders. -/
def shielded (other : FileSystem) (engine : Engine) : Engine :=
  { engine with resources := engine.resources.shielded other }

/-- **Loading does not notice what lies outside the directories**, whatever the engine is. -/
theorem load_shielded (other : FileSystem) (engine : Engine) (uri : String) :
    (engine.shielded other).load uri = ((engine.load uri).1, (engine.load uri).2.shielded other) := by
  have hcache : (engine.shielded other).cache.get? ((engine.shielded other).cacheKey uri) =
      engine.cache.get? (engine.cacheKey uri) := rfl
  have hfetch : (engine.shielded other).resources.fetch uri = engine.resources.fetch uri :=
    Resources.fetch_shielded other engine.resources uri
  unfold load
  rw [hcache, hfetch]
  cases engine.cache.get? (engine.cacheKey uri) with
  | some published => rfl
  | none =>
      cases engine.resources.fetch uri with
      | error problem => rfl
      | ok resource => rfl

/-- A standard engine, and the same engine with other files outside the directories of its loaders. -/
def SameButOutside (other : FileSystem) (engine engine' : Engine) : Prop :=
  engine.registry.Standard ∧ engine' = engine.shielded other

variable {other : FileSystem}

theorem congruence_sameButOutside : Congruence (fun _ => True) (SameButOutside other) where
  resolve _ _ := trivial
  standard := by
    rintro engine _ ⟨hstandard, rfl⟩
    exact ⟨hstandard, hstandard⟩
  delimiters_eq := by
    rintro engine _ ⟨-, rfl⟩
    rfl
  get?_eq := by
    rintro engine _ space ⟨-, rfl⟩ - name
    rfl
  note := by
    rintro engine _ ⟨hstandard, rfl⟩ diagnostic
    exact ⟨hstandard, rfl⟩
  setVariable := by
    rintro engine _ space ⟨hstandard, rfl⟩ - name value
    exact ⟨hstandard, rfl⟩

theorem agree_loadTree (uri : String) : Agree (SameButOutside other) (loadTree uri) (loadTree uri) := by
  rintro engine _ ⟨hstandard, rfl⟩
  have hload := load_shielded other engine uri
  have hregistry : (engine.load uri).2.registry.Standard := by
    rw [registry_load hstandard uri]
    exact hstandard
  rw [run_loadTree, run_loadTree, hload]
  exact ⟨rfl, hregistry, rfl⟩

/-- **A render does not notice what lies outside the directories**, however templates are included in it. -/
theorem render_shielded {engine : Engine} (h : engine.registry.Standard) (other : FileSystem)
    (tree : Tree) :
    (engine.shielded other).render tree =
      ((engine.render tree).1, (engine.render tree).2.shielded other) := by
  have hcong : Congruence (fun _ => True) (SameButOutside other) := congruence_sameButOutside
  have htemplates : ∀ uri space, True →
      Agree (SameButOutside other) (Context.top.templateAt uri space) (Context.top.templateAt uri space) := by
    intro uri space _
    refine hcong.agree_renderTemplate (fun uri engine engine' hrelated => ?_) maxIncludeDepth uri trivial
    obtain ⟨hresult, hbehind⟩ := agree_loadTree uri hrelated
    exact ⟨by rw [hresult], hbehind⟩
  have hcontexts : ContextsAgree (fun _ => True) (SameButOutside other) .top .top :=
    ⟨rfl, trivial, htemplates⟩
  obtain ⟨houtput, -, hbehind⟩ := hcong.agree_renderNodes hcontexts tree.nodes
    (show SameButOutside other engine (engine.shielded other) from ⟨h, rfl⟩)
  exact Prod.ext houtput.symm hbehind

/-! ## Refused templates -/

/-- **A template whose name leaves the directory is not included.** All that happens is that the refusal is
recorded. -/
theorem run_renderTemplate_of_leaves {engine : Engine} {uri root : String} {files : FileSystem}
    (hcached : engine.cache.get? (engine.cacheKey uri) = none)
    (hloader : engine.resources.loaderFor? (Resources.splitUri uri).1 = some (.directory root files))
    (hleaves : Loader.Leaves (Resources.splitUri uri).2) (nesting : Nat) (space : String) :
    (renderTemplate (nesting + 1) uri space).run engine =
      ("", engine.note
        ⟨.error, "include", .resource (.outsideRoot (Resources.splitUri uri).2)⟩) := by
  have hfetch := (Resources.fetch_eq_outsideRoot_iff hloader).2 hleaves
  have hload : engine.load uri = (.error (.outsideRoot (Resources.splitUri uri).2), engine) := by
    rw [load, hcached, hfetch]
  rw [renderTemplate, run_bind, run_loadTree, hload]
  rfl

/-- **Directory loaders stay in their directories.** A name is refused if and only if it is absolute or has a component
`..`, and then no file is looked at. Every other name opens one path, which leads from the directory downwards along
ordinary names, and the file there is all that the answer depends on.

That goes for every name of a template too, whatever its scheme is, wherever it comes from: what stands behind the
scheme is refused on the same terms, an include of it gives nothing but the refusal in the log, and no fetch, no
load and no render of a standard engine would notice other files outside the directories. -/
theorem loaders_confined :
    (∀ root name : String, Loader.Confined root name) ∧
      (∀ (resources : Resources) (uri root : String) (files : FileSystem),
        resources.loaderFor? (Resources.splitUri uri).1 = some (.directory root files) →
        (resources.fetch uri = .error (.outsideRoot (Resources.splitUri uri).2) ↔
          Loader.Leaves (Resources.splitUri uri).2)) ∧
      (∀ (engine : Engine) (uri root : String) (files : FileSystem) (nesting : Nat) (space : String),
        engine.cache.get? (engine.cacheKey uri) = none →
        engine.resources.loaderFor? (Resources.splitUri uri).1 = some (.directory root files) →
        Loader.Leaves (Resources.splitUri uri).2 →
        (renderTemplate (nesting + 1) uri space).run engine =
          ("", engine.note
            ⟨.error, "include", .resource (.outsideRoot (Resources.splitUri uri).2)⟩)) ∧
      (∀ (other : FileSystem) (engine : Engine) (uri : String),
        (engine.shielded other).resources.fetch uri = engine.resources.fetch uri ∧
          (engine.shielded other).load uri =
            ((engine.load uri).1, (engine.load uri).2.shielded other)) ∧
      ∀ (other : FileSystem) (engine : Engine), engine.registry.Standard → ∀ tree : Tree,
        (engine.shielded other).render tree =
          ((engine.render tree).1, (engine.render tree).2.shielded other) := by
  refine ⟨Loader.confined, ?_, ?_, ?_, ?_⟩
  · intro resources uri root files hloader
    exact Resources.fetch_eq_outsideRoot_iff hloader
  · intro engine uri root files nesting space hcached hloader hleaves
    exact run_renderTemplate_of_leaves hcached hloader hleaves nesting space
  · intro other engine uri
    exact ⟨Resources.fetch_shielded other engine.resources uri, load_shielded other engine uri⟩
  · intro other engine hstandard tree
    exact render_shielded hstandard other tree

/-- A template asks for a file next to the directory, and gets the refusal. -/
theorem loaders_confined_next_door :
    let files : FileSystem := fun path => if path = "parts/../../secret" then .text "secret" else .missing
    let engine := Engine.standard.registerLoader "file" (.directory "parts" files)
    engine.registry.Standard ∧
      engine.cache.get? (engine.cacheKey "file:../../secret") = none ∧
      engine.resources.loaderFor? (Resources.splitUri "file:../../secret").1 =
        some (.directory "parts" files) ∧
      Loader.Leaves (Resources.splitUri "file:../../secret").2 ∧
      Loader.Confined "parts" "../../secret" ∧
      engine.resources.fetch "file:../../secret" =
        .error (.outsideRoot (Resources.splitUri "file:../../secret").2) ∧
      (renderTemplate 1 "file:../../secret" "").run engine =
        ("", engine.note
          ⟨.error, "include", .resource (.outsideRoot (Resources.splitUri "file:../../secret").2)⟩) ∧
      ∀ (other : FileSystem) (tree : Tree), (engine.shielded other).render tree =
        ((engine.render tree).1, (engine.render tree).2.shielded other) := by
  intro files engine
  have hstandard : engine.registry.Standard := Registry.standard_standardRegistry
  have hcached : engine.cache.get? (engine.cacheKey "file:../../secret") = none := rfl
  have hloader : engine.resources.loaderFor? (Resources.splitUri "file:../../secret").1 =
      some (.directory "parts" files) := by
    have hscheme : (Resources.splitUri "file:../../secret").1 = "file" := by decide
    rw [hscheme]
    rfl
  have hleaves : Loader.Leaves (Resources.splitUri "file:../../secret").2 := .inr (by decide)
  obtain ⟨hconfined, hfetch, hinclude, -, hrender⟩ := loaders_confined
  exact ⟨hstandard, hcached, hloader, hleaves, hconfined "parts" "../../secret",
    (hfetch engine.resources _ _ files hloader).2 hleaves,
    hinclude engine _ _ files 0 "" hcached hloader hleaves,
    fun other tree => hrender other engine hstandard tree⟩

end Engine

end TextTemplate
