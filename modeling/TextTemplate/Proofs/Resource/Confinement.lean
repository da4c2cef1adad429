import TextTemplate.Proofs.CommandLine.TemplatePath

set_option autoImplicit false

/-! # Loaders stay in their directories

A directory loader is a boundary: whatever name a template makes up, it must not lead to a file elsewhere. The
loader knows nothing of the file system when it decides, so this is about names alone. A name leaves the directory
if it is absolute or if one of its components is `..` (`Loader.Leaves`); those are refused without a look at any
file. Every other name is looked up at a path which, resolved step by step, goes from the directory downwards only
(`Path.resolve_join`). Symbolic links are left out: they are no matter of names.

Since nothing else is looked at, what lies outside the directories of the loaders could be anything. A loader is
*shielded* if it finds other files there, and no fetch tells the difference (`Resources.fetch_shielded`). -/

namespace TextTemplate

open CommandLine (components isAbsolute mem_components components_of_segments)

/-! ## Where a path leads -/

namespace Path

/-- A place in a file system, by names alone: so many directories up from the working directory, or the top of the
file system, and then downwards along the names. -/
structure Location where
  absolute : Bool
  ups : Nat
  names : List (List Char)

/-- A name that leads downwards. -/
structure Ordinary (part : List Char) : Prop where
  ne_nil : part ≠ []
  ne_point : part ≠ ['.']
  ne_points : part ≠ ['.', '.']
  no_slash : '/' ∉ part

namespace Location

/-- Where `..` leads: it takes back the last name. Above the working directory it goes on, above the top it stays
there. -/
def up (location : Location) : Location :=
  if location.names ≠ [] then { location with names := location.names.dropLast }
  else if location.absolute then location
  else { location with ups := location.ups + 1 }

/-- Where the names lead from a place. -/
def down (location : Location) (names : List (List Char)) : Location :=
  { location with names := location.names ++ names }

/-- Where a segment of a path leads. -/
def step (location : Location) (segment : List Char) : Location :=
  if segment = [] ∨ segment = ['.'] then location
  else if segment = ['.', '.'] then location.up
  else location.down [segment]

/-- **A place below another one**: only names lead there. -/
def Below (location root : Location) : Prop :=
  location.absolute = root.absolute ∧ location.ups = root.ups ∧ root.names <+: location.names

instance (location root : Location) : Decidable (location.Below root) := by
  unfold Below
  infer_instance

theorem below_down (root : Location) (names : List (List Char)) : (root.down names).Below root :=
  ⟨rfl, rfl, names, rfl⟩

theorem down_nil (location : Location) : location.down [] = location := by
  rw [down, List.append_nil]

theorem down_down (location : Location) (names names' : List (List Char)) :
    (location.down names).down names' = location.down (names ++ names') := by
  simp only [down, List.append_assoc]

end Location

/-- **Where a path leads**, segment by segment. -/
def resolve (path : String) : Location :=
  (segments path.toList).foldl Location.step ⟨isAbsolute path, 0, []⟩

/-- The segments that lead downwards, unless they lead up. -/
def namesOf (segments : List (List Char)) : List (List Char) :=
  segments.filter fun segment => segment ≠ [] && segment ≠ ['.']

/-- Without `..`, segments lead downwards along their names. -/
theorem foldl_step {segments : List (List Char)} (h : ['.', '.'] ∉ segments) (location : Location) :
    segments.foldl Location.step location = location.down (namesOf segments) := by
  induction segments generalizing location with
  | nil => exact location.down_nil.symm
  | cons segment rest ih =>
      rw [List.mem_cons, not_or] at h
      rw [List.foldl_cons, ih h.2, Location.step]
      by_cases hstays : segment = [] ∨ segment = ['.']
      · have hnames : namesOf (segment :: rest) = namesOf rest :=
          List.filter_cons_of_neg (by simpa [or_iff_not_imp_left] using hstays)
        rw [if_pos hstays, hnames]
      · have hnames : namesOf (segment :: rest) = segment :: namesOf rest :=
          List.filter_cons_of_pos (by simpa [not_or] using hstays)
        rw [if_neg hstays, if_neg (Ne.symm h.1), hnames, Location.down_down, List.singleton_append]

/-- The segments of a path that do not lead up are ordinary names. -/
theorem ordinary_of_mem_namesOf {path part : List Char} (h : ['.', '.'] ∉ segments path)
    (hpart : part ∈ namesOf (segments path)) : Ordinary part := by
  obtain ⟨hmem, hkeep⟩ := List.mem_filter.1 hpart
  rw [Bool.and_eq_true, decide_eq_true_eq, decide_eq_true_eq] at hkeep
  exact ⟨hkeep.1, hkeep.2, fun heq => h (heq ▸ hmem), slash_not_mem_of_mem_segments hmem⟩

/-! ## Joining -/

/-- What stands behind a slash is resolved from what stands in front of it. -/
theorem resolve_append {root path : String} (front : List Char) {behind : List Char}
    (hroot : segments root.toList = segments front ∨ segments root.toList = segments front ++ [[]])
    (habsolute : isAbsolute path = isAbsolute root) (hpath : path.toList = front ++ '/' :: behind) :
    resolve path = (segments behind).foldl Location.step (resolve root) := by
  have hfront : resolve root = (segments front).foldl Location.step ⟨isAbsolute root, 0, []⟩ := by
    rcases hroot with hroot | hroot
    · rw [resolve, hroot]
    · -- the empty segment behind a slash leads nowhere
      rw [resolve, hroot, List.foldl_append]
      rfl
  rw [resolve, hpath, segments_append, List.foldl_append, habsolute, ← hfront]

/-- Whether a path is absolute is settled by its first part, unless that is empty. -/
theorem isAbsolute_append {root : String} (h : root ≠ "") (behind : String) :
    isAbsolute (root ++ behind) = isAbsolute root := by
  have hne : root.toList ≠ [] := fun hnil => h (String.toList_eq_nil_iff.1 hnil)
  rw [isAbsolute, String.toList_append, List.head?_append_of_ne_nil _ hne, isAbsolute]

/-- **A name is resolved from the directory that it is joined to**, unless it is absolute. -/
theorem resolve_join (root : String) {name : String} (h : isAbsolute name = false) :
    resolve (join root name) = (segments name.toList).foldl Location.step (resolve root) := by
  -- joining puts a slash in between, unless there is nothing in front of it or one already
  by_cases hempty : root = ""
  · have hjoin : join root name = name := by
      rw [join, hempty]
      simp
    rw [hjoin, hempty, resolve, h]
    rfl
  by_cases hslash : root.toList.getLast? = some '/'
  · have hjoin : join root name = root ++ name := by
      rw [join, if_pos (by simp [hslash])]
    obtain ⟨front, hfront⟩ := List.getLast?_eq_some_iff.1 hslash
    rw [hjoin]
    refine resolve_append front (.inr ?_) (isAbsolute_append hempty name) ?_
    · rw [hfront, segments_append]
      rfl
    · rw [String.toList_append, hfront, List.append_assoc]
      rfl
  · have hjoin : join root name = root ++ ("/" ++ name) := by
      rw [join, if_neg (by simp [hempty, hslash]), String.append_assoc]
    rw [hjoin]
    refine resolve_append root.toList (.inl rfl) (isAbsolute_append hempty _) ?_
    rw [String.toList_append, String.toList_append]
    rfl

/-- A name without `..` leads downwards from the directory. -/
theorem resolve_join_down (root : String) {name : String} (h : isAbsolute name = false)
    (hpoints : ['.', '.'] ∉ segments name.toList) :
    resolve (join root name) = (resolve root).down (namesOf (segments name.toList)) := by
  rw [resolve_join root h, foldl_step hpoints]

end Path

/-! ## Names that leave the directory -/

namespace Loader

/-- **A name leaves the directory that it is looked up in**: it is absolute, or one of its components is `..`. -/
def Leaves (name : String) : Prop := isAbsolute name = true ∨ ['.', '.'] ∈ components name

/-- A segment `..` is always a component. -/
theorem points_mem_components_iff (name : String) :
    ['.', '.'] ∈ components name ↔ ['.', '.'] ∈ Path.segments name.toList := by
  constructor
  · exact fun h => (mem_components h).2
  · intro h
    obtain ⟨first, rest, hsegments⟩ := List.exists_cons_of_ne_nil (Path.segments_ne_nil name.toList)
    rw [components_of_segments hsegments, List.mem_append]
    rw [hsegments] at h
    -- only empty segments and points are dropped, in front and behind
    rcases List.mem_cons.1 h with rfl | h
    · exact .inl (by rw [if_neg (by decide)]; exact List.mem_singleton_self _)
    · exact .inr (List.mem_filter.2 ⟨h, by decide⟩)

theorem staysInside_iff (name : String) : staysInside name = true ↔ ¬ Leaves name := by
  rw [Leaves, not_or, points_mem_components_iff]
  simp [staysInside, isAbsolute]

/-! ## What is opened -/

variable {root name : String}

/-- A name that leaves the directory is refused, whatever files there are. -/
theorem fetch_of_leaves (h : Leaves name) (files : FileSystem) :
    (directory root files).fetch name = .error (.outsideRoot name) := by
  have hstays : staysInside name = false := Bool.eq_false_iff.2 fun hstays => (staysInside_iff name).1 hstays h
  rw [fetch, hstays]
  rfl

/-- A name that stays is looked up at one path. -/
theorem fetch_of_not_leaves (h : ¬ Leaves name) (files : FileSystem) :
    (directory root files).fetch name =
      match files (Path.join root name) with
      | .text text => .ok ⟨text, true⟩
      | .missing => .error (.notFound "file" name)
      | .failure reason => .error (.unreadable name reason)
      | .unvisited => .error (.unvisited (Path.join root name)) := by
  rw [fetch, (staysInside_iff name).2 h]
  rfl

/-- **A name is refused if and only if it leaves the directory.** -/
theorem fetch_eq_outsideRoot_iff (files : FileSystem) :
    (directory root files).fetch name = .error (.outsideRoot name) ↔ Leaves name := by
  refine ⟨fun hfetch => ?_, fun h => fetch_of_leaves h files⟩
  by_contra h
  rw [fetch_of_not_leaves h] at hfetch
  cases hfile : files (Path.join root name) with
  | text | missing | failure | unvisited =>
      rw [hfile] at hfetch
      cases hfetch

/-- The path at which a name is looked up, if it is looked up at all: what a fetch asks of files that nobody has
visited. -/
def opened? (root name : String) : Option String :=
  match (directory root fun _ => .unvisited).fetch name with
  | .error (.unvisited path) => some path
  | _ => none

theorem opened?_of_leaves (h : Leaves name) : opened? root name = none := by
  rw [opened?, fetch_of_leaves h]

theorem opened?_of_not_leaves (h : ¬ Leaves name) : opened? root name = some (Path.join root name) := by
  rw [opened?, fetch_of_not_leaves h]

theorem opened?_eq_none_iff : opened? root name = none ↔ Leaves name := by
  refine ⟨fun hnone => ?_, opened?_of_leaves⟩
  by_contra h
  rw [opened?_of_not_leaves h] at hnone
  cases hnone

/-- **A fetch depends on nothing but the file that it opens.** -/
theorem fetch_congr {files files' : FileSystem}
    (h : ∀ path, opened? root name = some path → files path = files' path) :
    (directory root files).fetch name = (directory root files').fetch name := by
  by_cases hleaves : Leaves name
  · rw [fetch_of_leaves hleaves, fetch_of_leaves hleaves]
  · rw [fetch_of_not_leaves hleaves, fetch_of_not_leaves hleaves, h _ (opened?_of_not_leaves hleaves)]

/-- **What is opened lies below the directory**, along the ordinary names of which the name is made up. -/
theorem resolve_of_opened? {path : String} (h : opened? root name = some path) :
    Path.resolve path = (Path.resolve root).down (Path.namesOf (Path.segments name.toList)) ∧
      ∀ part ∈ Path.namesOf (Path.segments name.toList), Path.Ordinary part := by
  have hleaves : ¬ Leaves name := by
    intro hleaves
    rw [opened?_of_leaves hleaves] at h
    cases h
  obtain rfl := Option.some.inj ((opened?_of_not_leaves hleaves).symm.trans h)
  rw [Leaves, not_or, points_mem_components_iff, Bool.not_eq_true] at hleaves
  obtain ⟨habsolute, hpoints⟩ := hleaves
  exact ⟨Path.resolve_join_down root habsolute hpoints,
    fun part hpart => Path.ordinary_of_mem_namesOf hpoints hpart⟩

/-- **The loader of a directory is confined to it**, as far as this name goes. -/
structure Confined (root name : String) : Prop where
  /-- A name is refused if and only if it leaves the directory, whatever files there are. -/
  refused_iff : ∀ files : FileSystem,
    (directory root files).fetch name = .error (.outsideRoot name) ↔ Leaves name
  /-- Nothing is opened for such a name. -/
  opened?_eq_none_iff : opened? root name = none ↔ Leaves name
  /-- What is opened for another name lies below the directory. -/
  exists_down : ∀ path, opened? root name = some path →
    ∃ names, (∀ part ∈ names, Path.Ordinary part) ∧ Path.resolve path = (Path.resolve root).down names
  /-- Nothing else is opened. -/
  fetch_congr : ∀ files files' : FileSystem,
    (∀ path, opened? root name = some path → files path = files' path) →
      (directory root files).fetch name = (directory root files').fetch name

theorem confined (root name : String) : Confined root name where
  refused_iff := fetch_eq_outsideRoot_iff
  opened?_eq_none_iff := opened?_eq_none_iff
  exists_down _ hpath := ⟨_, (resolve_of_opened? hpath).2, (resolve_of_opened? hpath).1⟩
  fetch_congr _ _ h := fetch_congr h

/-! ## Shielded loaders -/

/-- The loader with other files outside its directory. -/
def shielded (other : FileSystem) : Loader → Loader
  | memory templates => memory templates
  | directory root files =>
    directory root fun path =>
      if (Path.resolve path).Below (Path.resolve root) then files path else other path

/-- A loader does not notice what lies outside its directory. -/
theorem fetch_shielded (other : FileSystem) (loader : Loader) (name : String) :
    (loader.shielded other).fetch name = loader.fetch name := by
  cases loader with
  | memory templates => rfl
  | directory root files =>
      refine fetch_congr fun path hpath => if_pos ?_
      rw [(resolve_of_opened? hpath).1]
      exact Path.Location.below_down _ _

end Loader

namespace Resources

/-- The loaders with other files outside their directories. -/
def shielded (other : FileSystem) (resources : Resources) : Resources :=
  { resources with loaders := resources.loaders.mapValues (Loader.shielded other) }

theorem loaderFor?_shielded (other : FileSystem) (resources : Resources) (scheme : String) :
    (resources.shielded other).loaderFor? scheme = (resources.loaderFor? scheme).map (Loader.shielded other) := by
  have hget : ∀ scheme, (resources.shielded other).loaders.get? scheme =
      (resources.loaders.get? scheme).map (Loader.shielded other) :=
    fun scheme => Table.get?_mapValues (Loader.shielded other) resources.loaders scheme
  have hfallback : (resources.shielded other).fallback = resources.fallback := rfl
  unfold loaderFor?
  rw [hget, hfallback]
  cases resources.loaders.get? scheme with
  | some loader => rfl
  | none =>
      cases resources.fallback with
      | none => rfl
      | some fallback => exact hget fallback

/-- **No template comes from outside the directories of the loaders**, whatever its name is. -/
theorem fetch_shielded (other : FileSystem) (resources : Resources) (uri : String) :
    (resources.shielded other).fetch uri = resources.fetch uri := by
  simp only [fetch, loaderFor?_shielded]
  cases resources.loaderFor? (splitUri uri).1 with
  | none => rfl
  | some loader =>
      rw [Option.map_some]
      dsimp only
      rw [Loader.fetch_shielded]

/-- What stands behind the scheme is refused if and only if it leaves the directory. -/
theorem fetch_eq_outsideRoot_iff {resources : Resources} {uri root : String} {files : FileSystem}
    (h : resources.loaderFor? (splitUri uri).1 = some (.directory root files)) :
    resources.fetch uri = .error (.outsideRoot (splitUri uri).2) ↔ Loader.Leaves (splitUri uri).2 := by
  rw [← Loader.fetch_eq_outsideRoot_iff files]
  simp only [fetch, h]
  cases (Loader.directory root files).fetch (splitUri uri).2 with
  | ok resource => rfl
  | error problem =>
      cases problem with
      | notFound scheme name =>
          -- what is not found is not refused, under whatever scheme that is reported
          constructor
          · intro h
            cases h
          · intro h
            cases h
      | noLoader | outsideRoot | unreadable | unvisited => rfl

end Resources

end TextTemplate
