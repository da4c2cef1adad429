import TextTemplate.Proofs.CommandLine.Binding
import TextTemplate.Proofs.Engine.Standard

set_option autoImplicit false

/-! # The file that a call is given

The argument of a call is a path, or a name in the configured directory (`Designates`). The name goes to the
engine as if it were the name of a template, and there what stands in front of its first colon is taken for a
scheme. No scheme has a loader of its own in the engine of a call (`exists_prepare`), so the directory is the
right one; but it is asked for the part behind the colon. Nobody notices if there is such a file.

Main statement: `CommandLine.asksFor_given_iff`. -/

namespace TextTemplate

/-! ## Segments of a path -/

namespace Path

theorem segments_ne_nil (path : List Char) : segments path ≠ [] := by
  unfold segments
  split
  · exact List.cons_ne_nil _ _
  split
  · exact List.cons_ne_nil _ _
  split
  · exact List.cons_ne_nil _ _
  · exact List.cons_ne_nil _ _

/-- A slash parts the segments, whatever stands in front of it. -/
theorem segments_append (front behind : List Char) :
    segments (front ++ '/' :: behind) = segments front ++ segments behind := by
  induction front with
  | nil =>
      have hslash : segments ('/' :: behind) = [] :: segments behind := by rw [segments, if_pos rfl]
      exact hslash
  | cons c front ih =>
      obtain ⟨first, more, hfront⟩ := List.exists_cons_of_ne_nil (segments_ne_nil front)
      rw [List.cons_append, segments, segments, ih, hfront]
      split
      · rfl
      · rfl

theorem segments_of_not_mem {part : List Char} (h : '/' ∉ part) : segments part = [part] := by
  induction part with
  | nil => rfl
  | cons c part ih =>
      rw [List.mem_cons, not_or] at h
      rw [segments, if_neg (Ne.symm h.1), ih h.2]

theorem slash_not_mem_of_mem_segments {path segment : List Char} (h : segment ∈ segments path) :
    '/' ∉ segment := by
  induction path generalizing segment with
  | nil =>
      rw [segments, List.mem_singleton] at h
      rw [h]
      exact List.not_mem_nil
  | cons c path ih =>
      rw [segments] at h
      split at h
      · rcases List.mem_cons.1 h with rfl | h
        · exact List.not_mem_nil
        · exact ih h
      · rename_i hc
        split at h
        · rw [List.mem_singleton.1 h, List.mem_singleton]
          exact Ne.symm hc
        · rename_i first more hsegments
          rw [hsegments] at ih
          rcases List.mem_cons.1 h with rfl | h
          · rw [List.mem_cons, not_or]
            exact ⟨Ne.symm hc, ih List.mem_cons_self⟩
          · exact ih (List.mem_cons_of_mem _ h)

/-- Parts that are joined by slashes are the segments again. -/
theorem segments_intercalate {parts : List (List Char)} (hne : parts ≠ [])
    (h : ∀ part ∈ parts, '/' ∉ part) : segments (['/'].intercalate parts) = parts := by
  induction parts with
  | nil => exact absurd rfl hne
  | cons part parts ih =>
      obtain ⟨hpart, hparts⟩ := List.forall_mem_cons.1 h
      cases parts with
      | nil =>
          have hjoin : ['/'].intercalate [part] = part := by simp [List.intercalate]
          rw [hjoin, segments_of_not_mem hpart]
      | cons next parts =>
          have hjoin : ['/'].intercalate (part :: next :: parts)
              = part ++ '/' :: ['/'].intercalate (next :: parts) := by
            simp [List.intercalate]
          rw [hjoin, segments_append, segments_of_not_mem hpart, ih (List.cons_ne_nil _ _) hparts,
            List.singleton_append]

end Path

namespace CommandLine

/-! ## Components of a path -/

/-- What the components of a path are like: none is empty or contains a slash, and a point stands in front at
most, if the path is not absolute. -/
structure Components (absolute : Bool) (parts : List (List Char)) : Prop where
  ne_nil : ∀ part ∈ parts, part ≠ []
  no_slash : ∀ part ∈ parts, '/' ∉ part
  no_point : ∀ part ∈ (if absolute then parts else parts.tail), part ≠ ['.']

theorem Components.dropLast {absolute : Bool} {parts : List (List Char)}
    (h : Components absolute parts) : Components absolute parts.dropLast where
  ne_nil part hpart := h.ne_nil part (List.mem_of_mem_dropLast hpart)
  no_slash part hpart := h.no_slash part (List.mem_of_mem_dropLast hpart)
  no_point part hpart := by
    refine h.no_point part ?_
    cases absolute with
    | true => exact List.mem_of_mem_dropLast hpart
    | false =>
        rw [if_neg (by decide), List.tail_dropLast] at hpart
        exact List.mem_of_mem_dropLast hpart

/-- Whether a path starts at the root of the file system. -/
def isAbsolute (path : String) : Bool := path.toList.head? = some '/'

theorem isAbsolute_of_head? {path : String} {c : Char} (h : path.toList.head? = some c) :
    isAbsolute path = decide (c = '/') := by
  simp [isAbsolute, h]

theorem components_of_segments {path : String} {first : List Char} {rest : List (List Char)}
    (h : Path.segments path.toList = first :: rest) :
    components path = (if first = [] then [] else [first])
      ++ rest.filter fun segment => segment ≠ [] && segment ≠ ['.'] := by
  rw [components, h]

theorem mem_components {path : String} {part : List Char} (h : part ∈ components path) :
    part ≠ [] ∧ part ∈ Path.segments path.toList := by
  cases hsegments : Path.segments path.toList with
  | nil =>
      rw [components, hsegments] at h
      cases h
  | cons first rest =>
      rw [components_of_segments hsegments, List.mem_append] at h
      rcases h with h | h
      · split at h
        · cases h
        · rename_i hne
          rw [List.mem_singleton.1 h]
          exact ⟨hne, List.mem_cons_self⟩
      · obtain ⟨hmem, hkeep⟩ := List.mem_filter.1 h
        rw [Bool.and_eq_true, decide_eq_true_eq] at hkeep
        exact ⟨hkeep.1, List.mem_cons_of_mem _ hmem⟩

theorem components_components (path : String) :
    Components (isAbsolute path) (components path) where
  ne_nil _ h := (mem_components h).1
  no_slash _ h := Path.slash_not_mem_of_mem_segments (mem_components h).2
  no_point part h := by
    have hfiltered : ∀ rest : List (List Char),
        part ∈ rest.filter (fun segment => segment ≠ [] && segment ≠ ['.']) → part ≠ ['.'] := by
      intro rest hpart
      have hkeep := (List.mem_filter.1 hpart).2
      rw [Bool.and_eq_true, decide_eq_true_eq, decide_eq_true_eq] at hkeep
      exact hkeep.2
    cases htext : path.toList with
    | nil =>
        have hnone : components path = [] := by rw [components, htext]; rfl
        rw [hnone] at h
        split at h
        · cases h
        · cases h
    | cons c rest =>
        by_cases hc : c = '/'
        · -- an absolute path has nothing in front of its first slash
          have hsegments : Path.segments path.toList = [] :: Path.segments rest := by
            rw [htext, Path.segments, if_pos hc]
          have habsolute : isAbsolute path = true := by
            rw [isAbsolute_of_head? (by rw [htext]; rfl), decide_eq_true hc]
          rw [habsolute, if_pos rfl, components_of_segments hsegments] at h
          exact hfiltered _ h
        · have habsolute : isAbsolute path = false := by
            rw [isAbsolute_of_head? (by rw [htext]; rfl), decide_eq_false hc]
          rw [habsolute, if_neg (by decide)] at h
          cases hsegments : Path.segments path.toList with
          | nil =>
              rw [components, hsegments] at h
              cases h
          | cons first more =>
              rw [components_of_segments hsegments] at h
              split at h
              · exact hfiltered more (List.mem_of_mem_tail h)
              · exact hfiltered more h

/-- A path with these components. -/
def pathOf (absolute : Bool) (parts : List (List Char)) : String :=
  (if absolute then "/" else "") ++ String.intercalate "/" (parts.map String.ofList)

theorem toList_pathOf (absolute : Bool) (parts : List (List Char)) :
    (pathOf absolute parts).toList = (if absolute then ['/'] else []) ++ ['/'].intercalate parts := by
  rw [pathOf, String.toList_append, String.toList_intercalate, List.map_map]
  cases absolute with
  | true => simp [Function.comp_def]
  | false => simp [Function.comp_def]

/-- **The components of such a path are those that it is made of.** -/
theorem components_pathOf {absolute : Bool} {parts : List (List Char)}
    (h : Components absolute parts) :
    components (pathOf absolute parts) = parts ∧ isAbsolute (pathOf absolute parts) = absolute := by
  have hkeep : ∀ rest : List (List Char), (∀ part ∈ rest, part ≠ []) →
      (∀ part ∈ rest, part ≠ ['.']) →
        rest.filter (fun segment => segment ≠ [] && segment ≠ ['.']) = rest := by
    intro rest hne hpoint
    refine List.filter_eq_self.2 fun part hpart => ?_
    rw [Bool.and_eq_true, decide_eq_true_eq, decide_eq_true_eq]
    exact ⟨hne part hpart, hpoint part hpart⟩
  have htext := toList_pathOf absolute parts
  cases absolute with
  | true =>
      rw [if_pos rfl] at htext
      refine ⟨?_, by rw [isAbsolute, htext]; rfl⟩
      have hsegments : Path.segments (pathOf true parts).toList
          = [] :: Path.segments (['/'].intercalate parts) := by
        rw [htext, List.singleton_append, Path.segments, if_pos rfl]
      rw [components_of_segments hsegments, if_pos rfl, List.nil_append]
      by_cases hparts : parts = []
      · rw [hparts]
        rfl
      · rw [Path.segments_intercalate hparts h.no_slash]
        exact hkeep parts h.ne_nil h.no_point
  | false =>
      rw [if_neg (by decide), List.nil_append] at htext
      cases parts with
      | nil => exact ⟨rfl, rfl⟩
      | cons first rest =>
          have hsegments : Path.segments (pathOf false (first :: rest)).toList = first :: rest := by
            rw [htext]
            exact Path.segments_intercalate (List.cons_ne_nil _ _) h.no_slash
          have hfirst : first ≠ [] := h.ne_nil first List.mem_cons_self
          constructor
          · rw [components_of_segments hsegments, if_neg hfirst, hkeep rest
              (fun part hpart => h.ne_nil part (List.mem_cons_of_mem _ hpart)) h.no_point]
            rfl
          · obtain ⟨c, tail, rfl⟩ := List.exists_cons_of_ne_nil hfirst
            have hslash : c ≠ '/' := fun heq =>
              h.no_slash _ List.mem_cons_self (heq ▸ List.mem_cons_self)
            have hhead : (pathOf false ((c :: tail) :: rest)).toList.head? = some c := by
              rw [htext]
              cases rest with
              | nil => rfl
              | cons next rest => rfl
            rw [isAbsolute_of_head? hhead, decide_eq_false hslash]

/-! ## The file that is given -/

/-- **The path names the file `name` in the directory `root`**: they have the same components, and a point or two
are no name of a file. -/
structure NamesFile (template root name : String) : Prop where
  components_eq : components template = components root ++ [name.toList]
  isAbsolute_eq : isAbsolute template = isAbsolute root
  ne_point : name ≠ "."
  ne_points : name ≠ ".."

/-- A path that names a file is split into its directory and that name. -/
theorem NamesFile.splitPath {template root name : String} (h : NamesFile template root name) :
    NamesFile template (splitPath template).1 name ∧ (splitPath template).2 = name := by
  have hlast : (components template).getLast? = some name.toList := by
    rw [h.components_eq, List.getLast?_concat]
  have hdirectory : (CommandLine.splitPath template).1
      = pathOf (isAbsolute template) (components template).dropLast := by
    simp only [CommandLine.splitPath, hlast, pathOf, isAbsolute, decide_eq_true_eq]
  obtain ⟨hcomponents, habsolute⟩ := components_pathOf (components_components template).dropLast
  constructor
  · refine ⟨?_, ?_, h.ne_point, h.ne_points⟩
    · rw [hdirectory, hcomponents, h.components_eq, List.dropLast_concat]
    · rw [hdirectory, habsolute]
  · have hpoint : name.toList ≠ ['.'] := fun heq =>
      h.ne_point (by rw [← String.ofList_toList (s := name), heq])
    have hpoints : name.toList ≠ ['.', '.'] := fun heq =>
      h.ne_points (by rw [← String.ofList_toList (s := name), heq])
    simp only [CommandLine.splitPath, hlast, hpoint, hpoints, decide_false, Bool.or_false,
      Bool.false_eq_true, if_false, String.ofList_toList]

/-- **The directory and the name that a template argument stands for.** With a configured directory the argument
is a name there, else it is the path of a file. -/
def Designates (templateRoot : Option String) (template root name : String) : Prop :=
  match templateRoot with
  | some configured => root = configured ∧ name = template
  | none => NamesFile template root name

theorem Designates.locate {templateRoot : Option String} {template root name : String}
    (h : Designates templateRoot template root name) :
    Designates templateRoot template (locate template templateRoot).1 name ∧
      (locate template templateRoot).2 = name := by
  cases templateRoot with
  | some configured => exact ⟨⟨rfl, h.2⟩, h.2.symm⟩
  | none => exact h.splitPath

end CommandLine

/-! ## What a load asks for -/

/-- **Loading the template asks this loader for this name**: there is no tree of it yet. -/
structure Engine.AsksFor (engine : Engine) (uri : String) (loader : Loader) (name : String) : Prop where
  not_cached : engine.cache.get? (engine.cacheKey uri) = none
  loader_eq : engine.resources.loaderFor? (Resources.splitUri uri).1 = some loader
  name_eq : (Resources.splitUri uri).2 = name

/-- What is fetched then is what the loader has under that name. -/
theorem Engine.AsksFor.fetch_eq_ok_iff {engine : Engine} {uri : String} {loader : Loader}
    {name : String} (h : engine.AsksFor uri loader name) (resource : Resource) :
    engine.resources.fetch uri = .ok resource ↔ loader.fetch name = .ok resource := by
  simp only [Resources.fetch, h.loader_eq, h.name_eq]
  cases hfetch : loader.fetch name with
  | ok found => rfl
  | error problem =>
      -- a template that is not found is reported under the scheme of its name
      cases problem with
      | notFound scheme name => exact iff_of_false nofun nofun
      | noLoader _ | outsideRoot _ | unreadable _ _ | unvisited _ => rfl

/-- The name of a template is asked for as it is if it contains no colon. -/
theorem Resources.splitUri_snd_eq_iff (uri : String) : (splitUri uri).2 = uri ↔ ':' ∉ uri.toList := by
  unfold splitUri
  cases hsplit : Text.splitFirst? [':'] uri.toList with
  | none =>
      have hinfix := Text.splitFirst?_eq_none_iff.1 hsplit
      exact iff_of_true rfl fun hmem => hinfix ((List.singleton_infix_iff _ _).2 hmem)
  | some cut =>
      obtain ⟨scheme, behind⟩ := cut
      have htext := Text.eq_append_of_splitFirst? hsplit
      refine iff_of_false (fun heq => ?_) (fun hmem => hmem (by rw [htext]; simp))
      -- what stands behind the colon is shorter
      have hlength := congrArg (fun text : String => text.toList.length) heq
      simp only [String.toList_ofList, htext, List.length_append, List.length_singleton] at hlength
      omega

namespace CommandLine

/-! ## The engine of a call -/

theorem validate_eq_ok {config validated : Config} (h : config.validate = .ok validated) :
    validated.left ≠ "" ∧ validated.right ≠ "" := by
  unfold Config.validate at h
  split at h
  · cases h
  · rename_i hempty
    cases h
    simpa using hempty

/-- The delimiters of a call are not empty. -/
theorem configOf_eq_ok {files : FileSystem} {options : Options} {config : Config}
    (h : configOf files options = .ok config) : config.left ≠ "" ∧ config.right ≠ "" := by
  unfold configOf at h
  cases hpath : options.config with
  | none =>
      rw [hpath] at h
      exact validate_eq_ok h
  | some path =>
      rw [hpath] at h
      cases hfile : Config.ofFile files path with
      | error problem =>
          simp only [hfile] at h
          cases h
      | ok config =>
          simp only [hfile] at h
          exact validate_eq_ok h

theorem resources_tryRegistry (engine : Engine) (result : Except RuntimeProblem Registry)
    (diagnostic : RuntimeProblem → Diagnostic) :
    (engine.tryRegistry result diagnostic).resources = engine.resources ∧
      (engine.tryRegistry result diagnostic).cache = engine.cache := by
  cases result with
  | ok registry => exact ⟨rfl, rfl⟩
  | error problem => exact ⟨rfl, rfl⟩

/-- Changes of the registry, one after the other, leave loaders and cached trees alone. -/
theorem resources_foldl {α : Type} (change : Engine → α → Engine)
    (h : ∀ engine item, (change engine item).resources = engine.resources ∧
      (change engine item).cache = engine.cache) (items : List α) (engine : Engine) :
    (items.foldl change engine).resources = engine.resources ∧
      (items.foldl change engine).cache = engine.cache := by
  induction items generalizing engine with
  | nil => exact ⟨rfl, rfl⟩
  | cons item items ih =>
      obtain ⟨hresources, hcache⟩ := ih (change engine item)
      obtain ⟨hresources', hcache'⟩ := h engine item
      exact ⟨hresources.trans hresources', hcache.trans hcache'⟩

/-- **An engine that is made from a configuration** has no cached trees, and no loader but the one for files. -/
theorem exists_ofConfig (files : FileSystem) {config : Config} (hleft : config.left ≠ "")
    (hright : config.right ≠ "") :
    ∃ engine, Engine.ofConfig files config = .ok engine ∧ engine.cache = {} ∧
      ∀ scheme, scheme ≠ "file" → engine.resources.loaders.get? scheme = none := by
  have hdelimiters : Delimiters.ofStrings? config.left config.right
      = some ⟨config.left, config.right, hleft, hright⟩ := by
    unfold Delimiters.ofStrings?
    rw [dif_neg (not_or.2 ⟨hleft, hright⟩)]
  have hkeep : ∀ engine : Engine,
      let behind := config.operators.foldl Engine.registerAutoloadOperators
        (config.functions.foldl Engine.registerAutoloadFunctions engine)
      behind.resources = engine.resources ∧ behind.cache = engine.cache := by
    intro engine behind
    have hfunctions := resources_foldl Engine.registerAutoloadFunctions
      (fun engine definition => resources_tryRegistry engine _ _) config.functions engine
    have hoperators := resources_foldl Engine.registerAutoloadOperators
      (fun engine definition => resources_tryRegistry engine _ _) config.operators
      (config.functions.foldl Engine.registerAutoloadFunctions engine)
    exact ⟨hoperators.1.trans hfunctions.1, hoperators.2.trans hfunctions.2⟩
  unfold Engine.ofConfig Engine.setDelimiters
  rw [hdelimiters]
  cases config.templateRoot with
  | none =>
      refine ⟨_, rfl, (hkeep _).2, fun scheme _ => ?_⟩
      rw [(hkeep _).1]
      rfl
  | some root =>
      refine ⟨_, rfl, (hkeep _).2, fun scheme hscheme => ?_⟩
      rw [(hkeep _).1]
      exact Table.get?_set_ne _ _ (Ne.symm hscheme)

/-- **The engine of a call finds every template through the loader of its directory**, whatever stands in front of
the first colon of the name. -/
theorem exists_prepare (files : FileSystem) {options : Options} {config : Config}
    (hconfig : configOf files options = .ok config) (template : String) :
    ∃ engine, prepare files options template
        = .ok (engine, (locate template config.templateRoot).2) ∧
      engine.cache = {} ∧ ∀ scheme, engine.resources.loaderFor? scheme
        = some (.directory (locate template config.templateRoot).1 files) := by
  obtain ⟨hleft, hright⟩ := configOf_eq_ok hconfig
  obtain ⟨engine, hengine, hcache, hother⟩ := exists_ofConfig files hleft hright
  let loader : Loader := .directory (locate template config.templateRoot).1 files
  refine ⟨(engine.registerLoader "file" loader).setDefaultLoader "file", ?_, hcache, fun scheme => ?_⟩
  · unfold prepare
    rw [hconfig]
    show (Engine.ofConfig files config >>= fun engine => _) = _
    rw [hengine]
    rfl
  · have hfile : (engine.resources.loaders.set "file" loader).get? "file" = some loader :=
      Table.get?_set_self _ _ _
    show ((engine.resources.loaders.set "file" loader).get? scheme <|>
      (engine.resources.loaders.set "file" loader).get? "file") = some loader
    by_cases hscheme : scheme = "file"
    · rw [hscheme, hfile]
      rfl
    · rw [Table.get?_set_ne _ _ (Ne.symm hscheme), hother scheme hscheme, hfile]
      rfl

/-- **The file that is given is asked for exactly if its name contains no colon.** For every call whose
configuration and bindings are accepted: the template is loaded through the loader of the directory that the
argument stands for; and that loader is asked for the name itself if there is no colon in it, else for what
stands behind the first one. -/
theorem asksFor_given_iff (files : FileSystem) (options : Options) (template : String)
    {config : Config} (hconfig : configOf files options = .ok config)
    (hbindings : ∀ binding ∈ options.bindings, '=' ∈ binding.toList) {name : String}
    (hgiven : ∃ root, Designates config.templateRoot template root name) :
    ∃ engine uri bound root, prepare files options template = .ok (engine, uri) ∧
      bindAll engine options.bindings = .ok bound ∧
      runOptions files options template
        = (if options.tree then printTree bound uri else renderFile bound uri) ∧
      Designates config.templateRoot template root name ∧
      (bound.AsksFor uri (.directory root files) name ↔ ':' ∉ name.toList) ∧
      ∀ scheme behind, Text.splitFirst? [':'] name.toList = some (scheme, behind) →
        bound.AsksFor uri (.directory root files) (String.ofList behind) := by
  obtain ⟨_, hgiven⟩ := hgiven
  obtain ⟨hroot, hname⟩ := hgiven.locate
  obtain ⟨engine, hprepare, hcache, hloader⟩ := exists_prepare files hconfig template
  rw [hname] at hprepare
  obtain ⟨store, hbind, -⟩ := exists_bindAll hbindings engine
  -- bindings change variables only
  let bound : Engine := { engine with store }
  have hcached : ∀ key, bound.cache.get? key = none := fun key => by
    show engine.cache.get? key = none
    rw [hcache]
    rfl
  refine ⟨engine, name, bound, _, hprepare, hbind, ?_, hroot, ⟨?_, ?_⟩, ?_⟩
  · simp only [runOptions, hprepare, hbind, bound]
  · intro hasks
    exact (Resources.splitUri_snd_eq_iff name).1 hasks.name_eq
  · intro hcolon
    exact ⟨hcached _, hloader _, (Resources.splitUri_snd_eq_iff name).2 hcolon⟩
  · intro scheme behind hsplit
    exact ⟨hcached _, hloader _, by simp only [Resources.splitUri, hsplit]⟩

/-- A file with a colon in its name, in a directory: the loader is asked for the rest of the name. -/
theorem asksFor_given_directory :
    let files : FileSystem := fun _ => .missing
    let options : Options := { bindings := ["x=1"], left := some "<" }
    let config : Config := { left := "<" }
    configOf files options = .ok config ∧
      (∀ binding ∈ options.bindings, '=' ∈ binding.toList) ∧
      (∃ root, Designates config.templateRoot "d//./a:b.tpl" root "a:b.tpl") ∧
      ∃ engine uri bound root, prepare files options "d//./a:b.tpl" = .ok (engine, uri) ∧
        bindAll engine options.bindings = .ok bound ∧
        runOptions files options "d//./a:b.tpl"
          = (if options.tree then printTree bound uri else renderFile bound uri) ∧
        Designates config.templateRoot "d//./a:b.tpl" root "a:b.tpl" ∧
        (bound.AsksFor uri (.directory root files) "a:b.tpl" ↔ ':' ∉ "a:b.tpl".toList) ∧
        ∀ scheme behind, Text.splitFirst? [':'] "a:b.tpl".toList = some (scheme, behind) →
          bound.AsksFor uri (.directory root files) (String.ofList behind) := by
  intro files options config
  have hconfig : configOf files options = .ok config := rfl
  have hbindings : ∀ binding ∈ options.bindings, '=' ∈ binding.toList := by decide
  have hgiven : ∃ root, Designates config.templateRoot "d//./a:b.tpl" root "a:b.tpl" :=
    ⟨"d", by decide, by decide, by decide, by decide⟩
  exact ⟨hconfig, hbindings, hgiven,
    asksFor_given_iff files options "d//./a:b.tpl" hconfig hbindings hgiven⟩

end CommandLine

/-! ## Another file is rendered -/

/-- **A text without delimiters is rendered as it is**, if a loader gives it. -/
theorem Engine.AsksFor.renderFile_plain {engine : Engine} {uri : String} {loader : Loader}
    {name : String} {resource : Resource} (h : engine.AsksFor uri loader name)
    (hresource : loader.fetch name = .ok resource)
    (hplain : ¬ engine.delimiters.opening <:+: resource.text.toList) :
    CommandLine.renderFile engine uri =
      { status := 0, output := resource.text, unvisited := CommandLine.unvisitedOf engine.log } := by
  have hfetch : engine.resources.fetch uri = .ok resource := (h.fetch_eq_ok_iff resource).2 hresource
  let tree : Tree := { (engine.parse resource.text uri).1 with modified := resource.modified }
  let inserted := engine.cache.insert (engine.cacheKey uri) tree
  let behind : Engine := { engine with cache := inserted.2 }
  have hload : engine.load uri = (.ok inserted.1, behind) := by
    unfold Engine.load
    rw [h.not_cached, hfetch]
    dsimp only
    rw [(Engine.parse_of_not_infix hplain uri).1]
  have htree : inserted.1.tree = tree := by
    rw [TreeCache.tree_insert, h.not_cached]
    rfl
  -- the tree is the one that the engine with the tree in its cache would have parsed
  have hparse : (behind.parse resource.text uri).1 = (engine.parse resource.text uri).1 :=
    Engine.parse_congr rfl rfl resource.text uri
  have hrender : behind.render inserted.1.tree = (resource.text, behind) := by
    have hbehind : ¬ behind.delimiters.opening <:+: resource.text.toList := hplain
    have hshown := (Engine.parse_of_not_infix hbehind uri).2
    rw [hparse] at hshown
    rw [htree]
    exact hshown
  unfold CommandLine.renderFile Engine.fetch
  rw [hload]
  dsimp only
  rw [hrender]

/-- Of the two files `a:b.tpl` and `b.tpl` the second one is rendered for the name of the first. -/
theorem CommandLine.not_asksFor_given_colon :
    let files : FileSystem := fun path =>
      if path = "a:b.tpl" then .text "right" else if path = "b.tpl" then .text "wrong" else .missing
    run files ["a:b.tpl"] = { status := 0, output := "wrong" } ∧
      ¬ ∀ (files : FileSystem) (options : Options) (template : String) (config : Config)
        (engine : Engine) (uri name : String), configOf files options = .ok config →
          prepare files options template = .ok (engine, uri) →
            (∃ root, Designates config.templateRoot template root name) →
              ∃ root, Designates config.templateRoot template root name ∧
                engine.AsksFor uri (.directory root files) name := by
  intro files
  let options : Options := { template := some "a:b.tpl" }
  let engine : Engine :=
    (Engine.standard.registerLoader "file" (.directory "" files)).setDefaultLoader "file"
  have hprepare : prepare files options "a:b.tpl" = .ok (engine, "a:b.tpl") := rfl
  have hasks : engine.AsksFor "a:b.tpl" (.directory "" files) "b.tpl" := ⟨rfl, rfl, by decide⟩
  constructor
  · have hresource : (Loader.directory "" files).fetch "b.tpl" = .ok ⟨"wrong", true⟩ := by
      decide
    exact hasks.renderFile_plain hresource (by decide)
  · intro h
    obtain ⟨root, -, hright⟩ := h files options "a:b.tpl" {} engine "a:b.tpl" "a:b.tpl" rfl hprepare
      ⟨"", by decide, by decide, by decide, by decide⟩
    have hname : "b.tpl" = "a:b.tpl" := hasks.name_eq.symm.trans hright.name_eq
    exact absurd hname (by decide)

end TextTemplate
