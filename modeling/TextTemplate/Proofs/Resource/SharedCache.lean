import Mathlib.Data.List.DropRight
import Mathlib.Logic.Function.Basic
import TextTemplate.Proofs.Data.Table
import TextTemplate.Resource.Cache

set_option autoImplicit false

/-! # A cache that is shared

Several threads may use one cache. Looking a tree up and publishing one are done in one go each, but
a call of `getOrInsert` is not: it looks, builds a tree if there is none, and publishes it. While it
builds, others may publish a tree under the same key, or invalidate the template. `Step` says what
may happen next, and a `Run` is any row of such events from an empty cache.

Main statement: `first_published_wins`. In whatever order things happen, a call returns the tree that
is in the cache when it returns, and that is the first one inserted since the template was last
invalidated. And the calls are those of `TreeCache.getOrInsert`: one that nobody interrupts ends, at
whatever time it is made, just as `getOrInsert` does on the cache of that time. -/

namespace TextTemplate

variable {ε : Type}

/-! ## Calls and events -/

/-- How far a call has come. -/
inductive CallStage (ε : Type)
  | waiting
  /-- No tree was found under the key, so the builder runs. -/
  | building (key : CacheKey)
  /-- The builder has made a tree, which is not published yet. -/
  | publishing (key : CacheKey) (tree : Tree)
  | returned (key : CacheKey) (result : Except ε Published)

/-- A cache and the calls that share it, which are told apart by numbers. -/
structure SharedCache (ε : Type) where
  cache : TreeCache := {}
  calls : Nat → CallStage ε := fun _ => .waiting

/-- The call goes on. -/
def SharedCache.moveTo (shared : SharedCache ε) (call : Nat) (stage : CallStage ε) : SharedCache ε :=
  { shared with calls := Function.update shared.calls call stage }

/-- What can happen in one go. -/
inductive CacheEvent (ε : Type)
  /-- The call looks and finds a tree, which it returns. -/
  | found (call : Nat) (key : CacheKey)
  /-- The call looks and finds none. -/
  | missed (call : Nat) (key : CacheKey)
  /-- The builder of the call makes a tree. -/
  | built (call : Nat) (key : CacheKey) (tree : Tree)
  /-- The builder of the call fails, and so does the call. -/
  | failed (call : Nat) (key : CacheKey) (failure : ε)
  /-- The call inserts the tree of its builder and returns what is in the cache then. -/
  | published (call : Nat) (key : CacheKey) (tree : Tree)
  /-- A tree is inserted without a call. -/
  | inserted (key : CacheKey) (tree : Tree)
  | invalidated (uri : String)

namespace CacheEvent

/-- The call that the event belongs to. -/
def call? : CacheEvent ε → Option Nat
  | found call _ | missed call _ | built call _ _ | failed call _ _ | published call _ _ => some call
  | inserted _ _ | invalidated _ => none

/-- The tree that the event inserts under a key. -/
def inserted? (key : CacheKey) : CacheEvent ε → Option Tree
  | published _ key' tree | inserted key' tree => if key' = key then some tree else none
  | _ => none

/-- Whether the event drops the trees of a template. -/
def drops (uri : String) : CacheEvent ε → Bool
  | invalidated uri' => uri' = uri
  | _ => false

/-- Whether the event works on the cache, and does not just look or build. -/
def writes : CacheEvent ε → Bool
  | published _ _ _ | inserted _ _ | invalidated _ => true
  | _ => false

end CacheEvent

/-- **The first tree inserted** under a key since its template was last invalidated, by a history of
events, oldest first. -/
def firstInserted? (key : CacheKey) (history : List (CacheEvent ε)) : Option Tree :=
  (history.rtakeWhile fun event => !event.drops key.uri).findSome? (·.inserted? key)

/-! ## Interleavings -/

/-- **One thing happens** to a shared cache. -/
inductive SharedCache.Step (shared : SharedCache ε) : CacheEvent ε → SharedCache ε → Prop
  | found {call : Nat} {key : CacheKey} {published : Published}
      (stage_eq : shared.calls call = .waiting) (present : shared.cache.get? key = some published) :
      shared.Step (.found call key) (shared.moveTo call (.returned key (.ok published)))
  | missed {call : Nat} {key : CacheKey}
      (stage_eq : shared.calls call = .waiting) (absent : shared.cache.get? key = none) :
      shared.Step (.missed call key) (shared.moveTo call (.building key))
  | built {call : Nat} {key : CacheKey} (tree : Tree) (stage_eq : shared.calls call = .building key) :
      shared.Step (.built call key tree) (shared.moveTo call (.publishing key tree))
  | failed {call : Nat} {key : CacheKey} (failure : ε)
      (stage_eq : shared.calls call = .building key) :
      shared.Step (.failed call key failure) (shared.moveTo call (.returned key (.error failure)))
  | published {call : Nat} {key : CacheKey} {tree : Tree}
      (stage_eq : shared.calls call = .publishing key tree) :
      shared.Step (.published call key tree)
        { shared.moveTo call (.returned key (.ok (shared.cache.insert key tree).1)) with
          cache := (shared.cache.insert key tree).2 }
  | inserted (key : CacheKey) (tree : Tree) :
      shared.Step (.inserted key tree) { shared with cache := (shared.cache.insert key tree).2 }
  | invalidated (uri : String) :
      shared.Step (.invalidated uri) { shared with cache := shared.cache.invalidate uri }

/-- **What may have happened** to a new cache, and how it stands behind that. -/
inductive SharedCache.Run : List (CacheEvent ε) → SharedCache ε → Prop
  | start : Run [] {}
  | step {history : List (CacheEvent ε)} {shared shared' : SharedCache ε} {event : CacheEvent ε} :
      Run history shared → shared.Step event shared' → Run (history ++ [event]) shared'

/-! ## What a step does to the cache -/

namespace SharedCache

variable {shared shared' : SharedCache ε} {event : CacheEvent ε}

theorem calls_moveTo_self (shared : SharedCache ε) (call : Nat) (stage : CallStage ε) :
    (shared.moveTo call stage).calls call = stage := by
  simp [moveTo]

theorem calls_moveTo_ne (shared : SharedCache ε) {call other : Nat} (h : some other ≠ some call)
    (stage : CallStage ε) : (shared.moveTo other stage).calls call = shared.calls call := by
  have hne : call ≠ other := fun heq => h (congrArg some heq.symm)
  simp [moveTo, hne]

/-- Looking and building leave the cache alone. -/
theorem Step.cache_eq (h : shared.Step event shared') (hwrites : event.writes = false) :
    shared'.cache = shared.cache := by
  cases h with
  | found | missed | built | failed => rfl
  | published | inserted | invalidated => cases hwrites

/-- The keys of the cache are distinct. -/
theorem Step.nodup (h : shared.Step event shared') (hnodup : shared.cache.trees.keys.Nodup) :
    shared'.cache.trees.keys.Nodup := by
  have hinsert : ∀ key tree, (shared.cache.insert key tree).2.trees.keys.Nodup := by
    intro key tree
    unfold TreeCache.insert
    cases shared.cache.get? key with
    | none => exact Table.nodup_keys_set hnodup key _
    | some published => exact hnodup
  cases h with
  | found | missed | built | failed => exact hnodup
  | published => exact hinsert _ _
  | inserted key tree => exact hinsert key tree
  | invalidated uri => exact Table.nodup_keys_filter hnodup _

/-- Invalidating a template removes the keys with its name, whatever the delimiters, and no other. -/
theorem get?_invalidate {cache : TreeCache} (hnodup : cache.trees.keys.Nodup) (uri : String)
    (key : CacheKey) :
    (cache.invalidate uri).get? key = if key.uri = uri then none else cache.get? key := by
  have hfilter := Table.get?_filter hnodup (fun key _ => key.uri ≠ uri) key
  simp only [TreeCache.get?, TreeCache.invalidate]
  rw [hfilter]
  cases cache.trees.get? key with
  | none => simp
  | some published =>
      by_cases huri : key.uri = uri
      · simp [huri, Option.filter]
      · simp [huri, Option.filter]

/-- **A tree stays** until its template is invalidated. -/
theorem Step.get?_of_present (h : shared.Step event shared')
    (hnodup : shared.cache.trees.keys.Nodup) {key : CacheKey} {published : Published}
    (hpresent : shared.cache.get? key = some published) (hkept : event.drops key.uri = false) :
    shared'.cache.get? key = some published := by
  have hinsert : ∀ key' tree, (shared.cache.insert key' tree).2.get? key = some published := by
    intro key' tree
    rw [TreeCache.get?_insert]
    split
    · next hkey =>
        subst hkey
        simp only [TreeCache.insert, hpresent]
    · exact hpresent
  cases h with
  | found | missed | built | failed => exact hpresent
  | published => exact hinsert _ _
  | inserted key' tree => exact hinsert key' tree
  | invalidated uri =>
      have huri : uri ≠ key.uri := of_decide_eq_false hkept
      exact (get?_invalidate hnodup uri key).trans (by rw [if_neg huri.symm, hpresent])

/-- **The tree under a key after a step**: none if its template was invalidated, else the one that was
there, else the one that was inserted. -/
theorem Step.tree_eq (h : shared.Step event shared') (hnodup : shared.cache.trees.keys.Nodup)
    (key : CacheKey) :
    (shared'.cache.get? key).map Published.tree =
      if event.drops key.uri then none
      else ((shared.cache.get? key).map Published.tree).or (event.inserted? key) := by
  have hinsert : ∀ key' tree, ((shared.cache.insert key' tree).2.get? key).map Published.tree =
      ((shared.cache.get? key).map Published.tree).or (if key' = key then some tree else none) := by
    intro key' tree
    rw [TreeCache.get?_insert]
    split
    · next hkey =>
        subst hkey
        rw [Option.map_some, TreeCache.tree_insert]
        cases (shared.cache.get? key').map Published.tree with
        | none => rfl
        | some tree' => rfl
    · rw [Option.or_none]
  cases h with
  | found | missed | built | failed => exact (Option.or_none).symm
  | published => exact hinsert _ _
  | inserted key' tree => exact hinsert key' tree
  | invalidated uri =>
      simp only [CacheEvent.drops, CacheEvent.inserted?, Option.or_none, decide_eq_true_eq]
      rw [get?_invalidate hnodup]
      by_cases huri : uri = key.uri
      · rw [if_pos huri, if_pos huri.symm, Option.map_none]
      · rw [if_neg huri, if_neg (Ne.symm huri)]

end SharedCache

/-! ## What a run does to the cache -/

theorem firstInserted?_concat (key : CacheKey) (history : List (CacheEvent ε))
    (event : CacheEvent ε) :
    firstInserted? key (history ++ [event]) =
      if event.drops key.uri then none
      else (firstInserted? key history).or (event.inserted? key) := by
  unfold firstInserted?
  rw [List.rtakeWhile_concat]
  cases event.drops key.uri with
  | true => rfl
  | false =>
      rw [Bool.not_false, if_pos rfl, if_neg Bool.false_ne_true, List.findSome?_append,
        List.findSome?_singleton]

namespace SharedCache

variable {shared shared' : SharedCache ε} {event : CacheEvent ε} {history : List (CacheEvent ε)}

theorem Run.nodup (h : Run history shared) : shared.cache.trees.keys.Nodup := by
  induction h with
  | start => exact Table.nodup_keys_empty
  | step _ hstep ih => exact hstep.nodup ih

/-- **In the cache is what was inserted first** since the template was last invalidated. -/
theorem Run.tree_eq (h : Run history shared) (key : CacheKey) :
    (shared.cache.get? key).map Published.tree = firstInserted? key history := by
  induction h with
  | start => rfl
  | step hrun hstep ih => rw [hstep.tree_eq hrun.nodup, ih, firstInserted?_concat]

/-! ## What a call does -/

/-- **The events of a call**, and the stage that they have brought it to. -/
inductive Comes (call : Nat) : List (CacheEvent ε) → CallStage ε → Prop
  | waiting : Comes call [] .waiting
  | found (key : CacheKey) (published : Published) :
      Comes call [.found call key] (.returned key (.ok published))
  | missed (key : CacheKey) : Comes call [.missed call key] (.building key)
  | built (key : CacheKey) (tree : Tree) :
      Comes call [.missed call key, .built call key tree] (.publishing key tree)
  | failed (key : CacheKey) (failure : ε) :
      Comes call [.missed call key, .failed call key failure] (.returned key (.error failure))
  | published (key : CacheKey) (tree : Tree) (published : Published) :
      Comes call [.missed call key, .built call key tree, .published call key tree]
        (.returned key (.ok published))

/-- The events of a call among others. -/
def eventsOf (call : Nat) (history : List (CacheEvent ε)) : List (CacheEvent ε) :=
  history.filter fun event => event.call? = some call

theorem eventsOf_concat (call : Nat) (history : List (CacheEvent ε)) (event : CacheEvent ε) :
    eventsOf call (history ++ [event]) =
      if event.call? = some call then eventsOf call history ++ [event] else eventsOf call history := by
  unfold eventsOf
  rw [List.filter_append, List.filter_cons, List.filter_nil]
  by_cases hcall : event.call? = some call
  · simp [hcall]
  · simp [hcall]

/-- An event moves no call but its own. -/
theorem Step.calls_of_ne (h : shared.Step event shared') {call : Nat} (hne : event.call? ≠ some call) :
    shared'.calls call = shared.calls call := by
  cases h with
  | found | missed | built | failed | published => exact shared.calls_moveTo_ne hne _
  | inserted | invalidated => rfl

/-- A step takes its call from one stage to the next. -/
theorem Step.comes (h : shared.Step event shared') {call : Nat} {events : List (CacheEvent ε)}
    (hcall : event.call? = some call) (hcomes : Comes call events (shared.calls call)) :
    Comes call (events ++ [event]) (shared'.calls call) := by
  cases h with
  | @found _ key published stage_eq present =>
      cases hcall
      rw [stage_eq] at hcomes
      cases hcomes
      rw [calls_moveTo_self]
      exact .found key published
  | @missed _ key stage_eq absent =>
      cases hcall
      rw [stage_eq] at hcomes
      cases hcomes
      rw [calls_moveTo_self]
      exact .missed key
  | @built _ key tree stage_eq =>
      cases hcall
      rw [stage_eq] at hcomes
      cases hcomes
      rw [calls_moveTo_self]
      exact .built key tree
  | @failed _ key failure stage_eq =>
      cases hcall
      rw [stage_eq] at hcomes
      cases hcomes
      rw [calls_moveTo_self]
      exact .failed key failure
  | @published _ key tree stage_eq =>
      cases hcall
      rw [stage_eq] at hcomes
      cases hcomes
      have hcalls := shared.calls_moveTo_self call (.returned key (.ok (shared.cache.insert key tree).1))
      exact hcalls.symm ▸ .published key tree _
  | inserted | invalidated => cases hcall

theorem Run.comes (h : Run history shared) (call : Nat) :
    Comes call (eventsOf call history) (shared.calls call) := by
  induction h with
  | start => exact .waiting
  | step _ hstep ih =>
      rw [eventsOf_concat]
      split
      · next hcall => exact hstep.comes hcall ih
      · next hcall => rwa [hstep.calls_of_ne hcall]

/-! ## Looking back on a run -/

/-- If nothing has happened, the cache is new. -/
theorem Run.eq_start (h : Run [] shared) : shared = {} := by
  generalize hnil : [] = history at h
  cases h with
  | start => rfl
  | step => simp at hnil

/-- What has happened last was a step. -/
theorem Run.exists_last (h : Run (history ++ [event]) shared) :
    ∃ earlier, Run history earlier ∧ earlier.Step event shared := by
  generalize hwhole : history ++ [event] = whole at h
  cases h with
  | start => simp at hwhole
  | @step history' earlier _ event' hrun hstep =>
      obtain ⟨rfl, hlast⟩ := List.append_inj' hwhole rfl
      cases hlast
      exact ⟨earlier, hrun, hstep⟩

/-- Every event of a run was a step from a state that the run had reached. -/
theorem Run.exists_step {before after : List (CacheEvent ε)}
    (h : Run (before ++ event :: after) shared) :
    ∃ earlier later, Run before earlier ∧ earlier.Step event later := by
  induction after using List.reverseRecOn generalizing shared with
  | nil =>
      obtain ⟨earlier, hrun, hstep⟩ := h.exists_last
      exact ⟨earlier, shared, hrun, hstep⟩
  | append_singleton after last ih =>
      rw [← List.cons_append, ← List.append_assoc] at h
      obtain ⟨earlier, hrun, -⟩ := h.exists_last
      exact ih hrun

/-- An event leads to one state only. -/
theorem Step.unique {other : SharedCache ε} (h : shared.Step event shared')
    (hother : shared.Step event other) : other = shared' := by
  cases h with
  | found _ present =>
      cases hother with
      | found _ present' =>
          cases present.symm.trans present'
          rfl
  | missed | built | failed | published | inserted | invalidated =>
      cases hother
      rfl

/-- **A history leads to one state only.** -/
theorem Run.unique (h : Run history shared) (hother : Run history shared') : shared' = shared := by
  induction history using List.reverseRecOn generalizing shared shared' with
  | nil => rw [h.eq_start, hother.eq_start]
  | append_singleton history event ih =>
      obtain ⟨earlier, hrun, hstep⟩ := h.exists_last
      obtain ⟨earlier', hrun', hstep'⟩ := hother.exists_last
      obtain rfl := ih hrun hrun'
      exact hstep.unique hstep'

/-! ## Calls that nobody interrupts -/

/-- **The events of a call that nobody interrupts.** If its builder runs, that gives `build`. -/
def undisturbed (shared : SharedCache ε) (call : Nat) (key : CacheKey) (build : Except ε Tree) :
    List (CacheEvent ε) :=
  match shared.cache.get? key, build with
  | some _, _ => [.found call key]
  | none, .ok tree => [.missed call key, .built call key tree, .published call key tree]
  | none, .error failure => [.missed call key, .failed call key failure]

/-- A call of `getOrInsert` that is made in one go. -/
def getOrInsert (shared : SharedCache ε) (call : Nat) (key : CacheKey) (build : Except ε Tree) :
    SharedCache ε :=
  { shared.moveTo call (.returned key (shared.cache.getOrInsert key build).1) with
    cache := (shared.cache.getOrInsert key build).2 }

/-- Of the stages of a call the last one counts. -/
theorem moveTo_moveTo (shared : SharedCache ε) (call : Nat) (stage stage' : CallStage ε) :
    (shared.moveTo call stage).moveTo call stage' = shared.moveTo call stage' := by
  simp [moveTo]

/-- A call can be made without interruption, and then it is `getOrInsert`. -/
theorem Run.getOrInsert (hrun : Run history shared) {call : Nat}
    (hwaiting : shared.calls call = .waiting) (key : CacheKey) (build : Except ε Tree) :
    Run (history ++ shared.undisturbed call key build) (shared.getOrInsert call key build) := by
  unfold undisturbed SharedCache.getOrInsert TreeCache.getOrInsert
  cases hcached : shared.cache.get? key with
  | some published => exact hrun.step (.found hwaiting hcached)
  | none =>
      have hmissed := hrun.step (.missed hwaiting hcached)
      have hbuilding := shared.calls_moveTo_self call (.building key)
      cases build with
      | error failure =>
          have hfailed := hmissed.step (.failed failure hbuilding)
          rw [List.append_assoc, moveTo_moveTo] at hfailed
          exact hfailed
      | ok tree =>
          have hbuilt := hmissed.step (.built tree hbuilding)
          rw [moveTo_moveTo] at hbuilt
          have hpublished := hbuilt.step (.published (shared.calls_moveTo_self call _))
          rw [List.append_assoc, List.append_assoc, moveTo_moveTo] at hpublished
          exact hpublished

/-- **A call that nobody interrupts is `getOrInsert`**: it can be made at any time, and there is no
other way for it to end. -/
theorem Run.undisturbed_iff (hrun : Run history shared) {call : Nat}
    (hwaiting : shared.calls call = .waiting) (key : CacheKey) (build : Except ε Tree)
    (last : SharedCache ε) :
    Run (history ++ shared.undisturbed call key build) last ↔
      last = shared.getOrInsert call key build := by
  have hgetOrInsert := hrun.getOrInsert hwaiting key build
  constructor
  · intro hlast
    exact hgetOrInsert.unique hlast
  · rintro rfl
    exact hgetOrInsert

/-! ## The first one wins -/

/-- **What can be relied on** whenever something happens to a shared cache. -/
structure FirstWins (history : List (CacheEvent ε)) (shared : SharedCache ε) (event : CacheEvent ε)
    (shared' : SharedCache ε) : Prop where
  /-- A call that returns a tree now returns the one that is in the cache now, which is the first one
  inserted since the template was last invalidated. -/
  returned : ∀ call key published, shared'.calls call ≠ shared.calls call →
    shared'.calls call = .returned key (.ok published) →
      shared'.cache.get? key = some published ∧
        firstInserted? key (history ++ [event]) = some published.tree
  /-- A tree in the cache is never replaced. -/
  present : ∀ key published, shared.cache.get? key = some published →
    event ≠ .invalidated key.uri → shared'.cache.get? key = some published
  /-- No event of a call that has failed has worked on the cache. -/
  failed : ∀ call key failure, shared'.calls call = .returned key (.error failure) →
    ∀ own ∈ eventsOf call (history ++ [event]), own.writes = false
  /-- What does not work on the cache leaves it alone. -/
  cache_eq : event.writes = false → shared'.cache = shared.cache
  /-- A builder runs only for a call that has looked once and found no tree. -/
  absent : ∀ call key,
    ((∃ tree, event = .built call key tree) ∨ ∃ failure, event = .failed call key failure) →
      eventsOf call history = [.missed call key] ∧
        ∃ before after earlier, history = before ++ .missed call key :: after ∧
          Run before earlier ∧ earlier.cache.get? key = none
  /-- Invalidating removes the trees of one template, for all delimiters, and no other. -/
  invalidated : ∀ uri, event = .invalidated uri → ∀ key,
    shared'.cache.get? key = if key.uri = uri then none else shared.cache.get? key
  /-- A call that nobody interrupts can be made before this event, and it ends as `getOrInsert` does
  and in no other way. -/
  undisturbed : ∀ call key build, shared.calls call = .waiting → ∀ last,
    Run (history ++ shared.undisturbed call key build) last ↔
      last = shared.getOrInsert call key build

/-- What a call returns is in the cache when it returns. -/
theorem Step.get?_of_returned (h : shared.Step event shared') {call : Nat} {key : CacheKey}
    {published : Published} (hnew : shared'.calls call ≠ shared.calls call)
    (hreturned : shared'.calls call = .returned key (.ok published)) :
    shared'.cache.get? key = some published := by
  have hcall : event.call? = some call := by
    by_contra hne
    exact hnew (h.calls_of_ne hne)
  cases h with
  | found stage_eq present =>
      cases hcall
      rw [calls_moveTo_self] at hreturned
      cases hreturned
      exact present
  | missed | built | failed =>
      cases hcall
      rw [calls_moveTo_self] at hreturned
      cases hreturned
  | @published call' key' tree stage_eq =>
      cases hcall
      have hresult := (shared.calls_moveTo_self _ _).symm.trans hreturned
      cases hresult
      exact (TreeCache.get?_insert _ _ _ _).trans (if_pos rfl)
  | inserted | invalidated => cases hcall

/-- A builder that has run belongs to a call that is building. -/
theorem Step.building (h : shared.Step event shared') {call : Nat} {key : CacheKey}
    (hbuilder : (∃ tree, event = .built call key tree) ∨
      ∃ failure, event = .failed call key failure) : shared.calls call = .building key := by
  rcases hbuilder with ⟨tree, rfl⟩ | ⟨failure, rfl⟩
  · cases h with
    | built _ stage_eq => exact stage_eq
  · cases h with
    | failed _ stage_eq => exact stage_eq

end SharedCache

/-- **The first tree published wins**, in whatever order calls, insertions and invalidations get in
each other's way, and whatever the builders of the calls do; and a call that nothing gets in the way of
is `getOrInsert`. -/
theorem first_published_wins {history : List (CacheEvent ε)} {shared shared' : SharedCache ε}
    {event : CacheEvent ε} (hrun : SharedCache.Run history shared)
    (hstep : shared.Step event shared') :
    SharedCache.FirstWins history shared event shared' where
  returned call key published hnew hreturned := by
    have hcached := hstep.get?_of_returned hnew hreturned
    refine ⟨hcached, ?_⟩
    rw [← (hrun.step hstep).tree_eq key, hcached]
    rfl
  present key published hpresent hkept := by
    refine hstep.get?_of_present hrun.nodup hpresent ?_
    cases event with
    | invalidated uri => exact decide_eq_false fun huri => hkept (congrArg _ huri)
    | _ => rfl
  failed call key failure hreturned own hown := by
    have hcomes := (hrun.step hstep).comes call
    rw [hreturned] at hcomes
    generalize SharedCache.eventsOf call (history ++ [event]) = events at hcomes hown
    cases hcomes
    rcases List.mem_pair.1 hown with rfl | rfl
    · rfl
    · rfl
  cache_eq := hstep.cache_eq
  absent call key hbuilder := by
    have hcomes := hrun.comes call
    rw [hstep.building hbuilder] at hcomes
    have hevents : SharedCache.eventsOf call history = [.missed call key] := by
      generalize SharedCache.eventsOf call history = events at hcomes
      cases hcomes
      rfl
    refine ⟨hevents, ?_⟩
    have hmissed : .missed call key ∈ history :=
      (List.mem_filter.1 (hevents ▸ List.mem_singleton_self _)).1
    obtain ⟨before, after, rfl⟩ := List.append_of_mem hmissed
    obtain ⟨earlier, later, hearlier, hlook⟩ := hrun.exists_step
    cases hlook with
    | missed _ absent => exact ⟨before, after, earlier, rfl, hearlier, absent⟩
  invalidated uri huri key := by
    subst huri
    cases hstep with
    | invalidated => exact SharedCache.get?_invalidate hrun.nodup uri key
  undisturbed _ key build hwaiting := hrun.undisturbed_iff hwaiting key build

/-- Two calls find nothing and build. The second one publishes first, so the first one returns the tree
of the second. -/
theorem first_published_wins_race :
    let key : CacheKey := ⟨"page", "(", ")"⟩
    let slow : Tree := ⟨[.text "slow"], "page", "(", ")", false⟩
    let quick : Tree := ⟨[.text "quick"], "page", "(", ")", false⟩
    let history : List (CacheEvent Unit) := [.missed 0 key, .missed 1 key, .built 0 key slow,
      .built 1 key quick, .published 1 key quick]
    ∃ shared shared', SharedCache.Run history shared ∧ shared.Step (.published 0 key slow) shared' ∧
      SharedCache.FirstWins history shared (.published 0 key slow) shared' ∧
      shared'.calls 0 = .returned key (.ok ⟨0, quick⟩) := by
  intro key slow quick history
  let looked : SharedCache Unit :=
    (({} : SharedCache Unit).moveTo 0 (.building key)).moveTo 1 (.building key)
  let built := (looked.moveTo 0 (.publishing key slow)).moveTo 1 (.publishing key quick)
  have hlooked : SharedCache.Run [.missed 0 key, .missed 1 key] looked :=
    (SharedCache.Run.start.step (.missed rfl rfl)).step (.missed rfl rfl)
  have hbuilt : SharedCache.Run ([.missed 0 key, .missed 1 key] ++ [.built 0 key slow] ++
      [.built 1 key quick]) built := (hlooked.step (.built slow rfl)).step (.built quick rfl)
  have hrun := hbuilt.step (.published (rfl : built.calls 1 = .publishing key quick))
  have hstep := SharedCache.Step.published
    (rfl : ({ built.moveTo 1 (.returned key (.ok (built.cache.insert key quick).1)) with
      cache := (built.cache.insert key quick).2 } : SharedCache Unit).calls 0 = .publishing key slow)
  exact ⟨_, _, hrun, hstep, first_published_wins hrun hstep, rfl⟩

end TextTemplate
