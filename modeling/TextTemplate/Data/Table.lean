set_option autoImplicit false

/-! # Tables in order of first insertion

A `Table` binds keys to values and remembers the order in which the keys arrived. Setting a key
that is already bound keeps its place and replaces its value; erasing a key forgets its place.
Variables, tag parameters, handlers, loaders and cached trees are all kept in tables.

The view of a table is `Table.get?`: after that the lemmas `get?_set` and `get?_erase` say all
there is to say about an operation, apart from the order, which `keys_set` describes. -/

namespace TextTemplate

/-- Bindings from keys to values, in order of first insertion. -/
structure Table (κ α : Type) where
  entries : List (κ × α)
deriving Repr

namespace Table

variable {κ α β : Type}

instance : EmptyCollection (Table κ α) := ⟨⟨[]⟩⟩

instance : Inhabited (Table κ α) := ⟨∅⟩

/-- The keys in order. -/
def keys (table : Table κ α) : List κ := table.entries.map (·.1)

/-- The number of bindings. -/
def size (table : Table κ α) : Nat := table.entries.length

/-- Applies `f` to every value and keeps the keys. -/
def mapValues (f : α → β) (table : Table κ α) : Table κ β :=
  ⟨table.entries.map fun (key, value) => (key, f value)⟩

/-- Keeps the bindings that satisfy `keep`. -/
def filter (keep : κ → α → Bool) (table : Table κ α) : Table κ α :=
  ⟨table.entries.filter fun (key, value) => keep key value⟩

variable [DecidableEq κ]

/-! ## Looking up -/

/-- The value of the first binding of `key` in a list of bindings. -/
def find? (key : κ) : List (κ × α) → Option α
  | [] => none
  | (k, value) :: rest => if k = key then some value else find? key rest

/-- The value bound to `key`. -/
def get? (table : Table κ α) (key : κ) : Option α := find? key table.entries

/-- Whether `key` is bound. -/
def contains (table : Table κ α) (key : κ) : Bool := (table.get? key).isSome

/-! ## Changing -/

/-- Replaces the first binding of `key`, or appends one. -/
def put (key : κ) (value : α) : List (κ × α) → List (κ × α)
  | [] => [(key, value)]
  | (k, old) :: rest => if k = key then (k, value) :: rest else (k, old) :: put key value rest

/-- Binds `key` to `value`; a key that was bound keeps its place. -/
def set (table : Table κ α) (key : κ) (value : α) : Table κ α := ⟨put key value table.entries⟩

/-- Removes the binding of `key`. -/
def erase (table : Table κ α) (key : κ) : Table κ α := table.filter fun k _ => k ≠ key

/-- Binds the pairs one after another. -/
def setAll (table : Table κ α) (pairs : List (κ × α)) : Table κ α :=
  pairs.foldl (fun table (key, value) => table.set key value) table

/-- The table that results from binding the pairs one after another. -/
def ofList (pairs : List (κ × α)) : Table κ α := setAll ∅ pairs

/-! ## The view -/

@[simp] theorem get?_empty (key : κ) : (∅ : Table κ α).get? key = none := rfl

theorem find?_put_self (key : κ) (value : α) (pairs : List (κ × α)) :
    find? key (put key value pairs) = some value := by
  induction pairs with
  | nil => simp [put, find?]
  | cons pair rest ih =>
    obtain ⟨k, old⟩ := pair
    by_cases h : k = key
    · simp [put, find?, h]
    · simp [put, find?, h, ih]

theorem find?_put_ne {key other : κ} (value : α) (pairs : List (κ × α)) (h : key ≠ other) :
    find? other (put key value pairs) = find? other pairs := by
  induction pairs with
  | nil => simp [put, find?, h]
  | cons pair rest ih =>
    obtain ⟨k, old⟩ := pair
    by_cases hk : k = key
    · subst hk
      simp [put, find?, h]
    · by_cases ho : k = other
      · subst ho
        simp [put, find?, hk]
      · simp [put, find?, hk, ho, ih]

@[simp] theorem get?_set_self (table : Table κ α) (key : κ) (value : α) :
    (table.set key value).get? key = some value :=
  find?_put_self key value table.entries

theorem get?_set_ne (table : Table κ α) {key other : κ} (value : α) (h : key ≠ other) :
    (table.set key value).get? other = table.get? other :=
  find?_put_ne value table.entries h

theorem get?_set (table : Table κ α) (key other : κ) (value : α) :
    (table.set key value).get? other = if key = other then some value else table.get? other := by
  by_cases h : key = other
  · subst h
    simp
  · simp [get?_set_ne table value h, h]

theorem find?_filter_ne {key other : κ} (pairs : List (κ × α)) (h : key ≠ other) :
    find? other (pairs.filter fun (k, _) => k ≠ key) = find? other pairs := by
  induction pairs with
  | nil => rfl
  | cons pair rest ih =>
    obtain ⟨k, old⟩ := pair
    by_cases hk : k = key
    · subst hk
      simpa [find?, h] using ih
    · by_cases ho : k = other
      · subst ho
        simp [find?, hk]
      · simpa [find?, hk, ho] using ih

theorem find?_filter_self (key : κ) (pairs : List (κ × α)) :
    find? key (pairs.filter fun (k, _) => k ≠ key) = none := by
  induction pairs with
  | nil => rfl
  | cons pair rest ih =>
    obtain ⟨k, old⟩ := pair
    by_cases hk : k = key
    · simpa [hk] using ih
    · simpa [find?, hk] using ih

@[simp] theorem get?_erase_self (table : Table κ α) (key : κ) :
    (table.erase key).get? key = none :=
  find?_filter_self key table.entries

theorem get?_erase_ne (table : Table κ α) {key other : κ} (h : key ≠ other) :
    (table.erase key).get? other = table.get? other :=
  find?_filter_ne table.entries h

/-! ## Order -/

theorem map_fst_put (key : κ) (value : α) (pairs : List (κ × α)) :
    (put key value pairs).map (·.1) =
      if key ∈ pairs.map (·.1) then pairs.map (·.1) else pairs.map (·.1) ++ [key] := by
  induction pairs with
  | nil => simp [put]
  | cons pair rest ih =>
    obtain ⟨k, old⟩ := pair
    by_cases h : k = key
    · simp [put, h]
    · have h' : key ≠ k := fun e => h e.symm
      by_cases hm : key ∈ rest.map (·.1)
      · simp [put, h, ih, List.mem_cons, hm]
      · simp [put, h, ih, List.mem_cons, hm, h']

/-- A new key goes to the end, a bound one stays where it is. -/
theorem keys_set (table : Table κ α) (key : κ) (value : α) :
    (table.set key value).keys = if key ∈ table.keys then table.keys else table.keys ++ [key] :=
  map_fst_put key value table.entries

end Table

end TextTemplate
