import Mathlib.Data.List.Induction
import Mathlib.Data.List.Nodup
import TextTemplate.Data.Table

set_option autoImplicit false

/-! # The view of a table after bulk changes

`Table.get?` after `mapValues`, `filter` and `setAll`. A table that was built by setting and erasing
binds every key once (`keys.Nodup`, kept by every operation), and only for such a table does a
filter act on the view key by key. -/

namespace TextTemplate.Table

variable {κ α β : Type} [DecidableEq κ]

/-! ## Distinct keys -/

omit [DecidableEq κ] in
theorem nodup_keys_empty : (∅ : Table κ α).keys.Nodup := List.nodup_nil

theorem nodup_keys_set {table : Table κ α} (h : table.keys.Nodup) (key : κ) (value : α) :
    (table.set key value).keys.Nodup := by
  rw [keys_set]
  split
  · exact h
  · rename_i hk
    rw [List.nodup_append]
    refine ⟨h, List.nodup_singleton key, ?_⟩
    rintro a ha b hb rfl
    exact hk (List.mem_singleton.1 hb ▸ ha)

theorem nodup_keys_setAll {table : Table κ α} (h : table.keys.Nodup) (pairs : List (κ × α)) :
    (table.setAll pairs).keys.Nodup := by
  induction pairs generalizing table with
  | nil => exact h
  | cons pair rest ih => exact ih (nodup_keys_set h pair.1 pair.2)

omit [DecidableEq κ] in
theorem nodup_keys_filter {table : Table κ α} (h : table.keys.Nodup) (keep : κ → α → Bool) :
    (table.filter keep).keys.Nodup :=
  h.sublist (List.filter_sublist.map _)

theorem nodup_keys_erase {table : Table κ α} (h : table.keys.Nodup) (key : κ) :
    (table.erase key).keys.Nodup :=
  nodup_keys_filter h _

omit [DecidableEq κ] in
theorem nodup_keys_mapValues {table : Table κ α} (h : table.keys.Nodup) (f : α → β) :
    (table.mapValues f).keys.Nodup := by
  have hk : (table.mapValues f).keys = table.keys := by
    simp [keys, mapValues, Function.comp_def]
  rwa [hk]

/-! ## Values -/

theorem find?_eq_none_of_not_mem {key : κ} {pairs : List (κ × α)}
    (h : key ∉ pairs.map (·.1)) : find? key pairs = none := by
  induction pairs with
  | nil => rfl
  | cons pair rest ih =>
      rw [List.map_cons, List.mem_cons, not_or] at h
      rw [find?, if_neg (Ne.symm h.1), ih h.2]

theorem mem_of_find?_eq_some {key : κ} {value : α} {pairs : List (κ × α)}
    (h : find? key pairs = some value) : (key, value) ∈ pairs := by
  induction pairs with
  | nil => cases h
  | cons pair rest ih =>
      rw [find?] at h
      split at h
      · rename_i hkey
        cases h
        rw [← hkey]
        exact List.mem_cons_self
      · exact List.mem_cons_of_mem _ (ih h)

/-- What a key is bound to, if every key is bound once. -/
theorem find?_eq_some_iff {pairs : List (κ × α)} (h : (pairs.map (·.1)).Nodup) {key : κ} {value : α} :
    find? key pairs = some value ↔ (key, value) ∈ pairs := by
  refine ⟨mem_of_find?_eq_some, fun hmem => ?_⟩
  induction pairs with
  | nil => cases hmem
  | cons pair rest ih =>
      obtain ⟨k, old⟩ := pair
      rw [List.map_cons, List.nodup_cons] at h
      rw [find?]
      rcases List.mem_cons.1 hmem with heq | hmem
      · cases heq
        rw [if_pos rfl]
      · -- the first pair binds another key
        rw [if_neg (fun heq => h.1 (List.mem_map.2 ⟨_, hmem, heq.symm⟩)), ih h.2 hmem]

omit [DecidableEq κ] in
theorem length_keys (table : Table κ α) : table.keys.length = table.entries.length :=
  List.length_map _

omit [DecidableEq κ] in
theorem mem_keys_iff {table : Table κ α} {key : κ} :
    key ∈ table.keys ↔ ∃ value, (key, value) ∈ table.entries := by
  simp [keys]

omit [DecidableEq κ] in
/-- Under a key that is bound once there is one value. -/
theorem eq_of_mem_entries {table : Table κ α} (h : table.keys.Nodup) {key : κ} {a b : α}
    (ha : (key, a) ∈ table.entries) (hb : (key, b) ∈ table.entries) : a = b :=
  congrArg Prod.snd (List.inj_on_of_nodup_map h ha hb rfl)

theorem get?_mapValues (f : α → β) (table : Table κ α) (key : κ) :
    (table.mapValues f).get? key = (table.get? key).map f := by
  obtain ⟨pairs⟩ := table
  simp only [get?, mapValues]
  induction pairs with
  | nil => rfl
  | cons pair rest ih =>
      rw [List.map_cons, find?, find?]
      split
      · rfl
      · exact ih

/-- **A filter acts on the view key by key** if every key is bound once. -/
theorem get?_filter {table : Table κ α} (h : table.keys.Nodup) (keep : κ → α → Bool) (key : κ) :
    (table.filter keep).get? key = (table.get? key).filter (keep key) := by
  obtain ⟨pairs⟩ := table
  have hp : (pairs.map (·.1)).Nodup := h
  simp only [get?, filter]
  induction pairs with
  | nil => rfl
  | cons pair rest ih =>
      obtain ⟨k, value⟩ := pair
      rw [List.map_cons, List.nodup_cons] at hp
      have hrest := ih hp.2 hp.2
      by_cases hk : k = key
      · subst hk
        rw [find?_eq_none_of_not_mem hp.1, Option.filter_none] at hrest
        by_cases hkeep : keep k value = true
        · simp [find?, hkeep, Option.filter]
        · simp [find?, hkeep, hrest, Option.filter]
      · by_cases hkeep : keep k value = true
        · simp [find?, hkeep, hk, hrest]
        · simp [find?, hkeep, hk, hrest]

theorem setAll_concat (table : Table κ α) (pairs : List (κ × α)) (pair : κ × α) :
    table.setAll (pairs ++ [pair]) = (table.setAll pairs).set pair.1 pair.2 := by
  rw [setAll, List.foldl_append]
  rfl

/-- The pairs that are bound last win over what was bound before. -/
theorem get?_setAll (table : Table κ α) (pairs : List (κ × α)) (key : κ) :
    (table.setAll pairs).get? key = ((ofList pairs).get? key).or (table.get? key) := by
  induction pairs using List.reverseRecOn with
  | nil => rfl
  | append_singleton pairs pair ih =>
      rw [ofList, setAll_concat, setAll_concat, get?_set, get?_set, ih]
      split
      · rfl
      · rfl

/-- The keys in the order of first mention. -/
theorem keys_ofList (pairs : List (κ × α)) : (ofList pairs).keys = (pairs.map (·.1)).eraseDups := by
  induction pairs using List.reverseRecOn with
  | nil => rfl
  | append_singleton pairs pair ih =>
      rw [ofList, setAll_concat, keys_set, ← ofList, ih, List.map_append, List.map_singleton,
        List.eraseDups_append]
      by_cases hk : pair.1 ∈ pairs.map (·.1)
      · simp [hk, List.removeAll]
      · simp [hk, List.removeAll, List.eraseDups_cons]

/-- A key is bound to the value that comes last. -/
theorem get?_ofList (pairs : List (κ × α)) (key : κ) :
    (ofList pairs).get? key = ((pairs.filter (·.1 = key)).getLast?).map (·.2) := by
  induction pairs using List.reverseRecOn with
  | nil => rfl
  | append_singleton pairs pair ih =>
      rw [ofList, setAll_concat, get?_set, ← ofList, ih, List.filter_append]
      by_cases hk : pair.1 = key
      · simp [hk]
      · simp [hk]

/-- Keys that are all bound to one value. -/
theorem get?_ofList_map_const (keys : List κ) (value : α) (key : κ) :
    (ofList (keys.map fun k => (k, value))).get? key = if key ∈ keys then some value else none := by
  induction keys using List.reverseRecOn with
  | nil => rfl
  | append_singleton keys k ih =>
      rw [ofList, List.map_append, List.map_singleton, setAll_concat, get?_set]
      rw [ofList] at ih
      rw [ih]
      by_cases hk : k = key
      · simp [hk]
      · simp [hk, Ne.symm hk]

/-- Pairs whose values are mapped. -/
theorem get?_ofList_map (f : α → β) (pairs : List (κ × α)) (key : κ) :
    (ofList (pairs.map fun (k, value) => (k, f value))).get? key
      = ((ofList pairs).get? key).map f := by
  induction pairs using List.reverseRecOn with
  | nil => rfl
  | append_singleton pairs pair ih =>
      obtain ⟨k, value⟩ := pair
      rw [ofList, ofList, List.map_append, List.map_singleton, setAll_concat, setAll_concat,
        get?_set, get?_set]
      rw [ofList, ofList] at ih
      rw [ih]
      by_cases hk : k = key
      · rw [if_pos hk, if_pos hk, Option.map_some]
      · rw [if_neg hk, if_neg hk]

end TextTemplate.Table
