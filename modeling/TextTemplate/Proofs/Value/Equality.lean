import Mathlib.Data.List.Perm.Subperm
import TextTemplate.Proofs.Data.Table
import TextTemplate.Value

set_option autoImplicit false

/-! # Equality of values

`Value.same` compares from left to right: each item of an array with the item in the same place, and each entry of a
map with what the other map has under its key. No entry of the right map is ever looked up in the left one; instead
the numbers of entries are compared. That is enough if every key is bound once, because then a map that is as long as
another one and has all its keys has no others (`same_map_iff`).

So equality has no direction after all, and `Equal` says it without one, which makes it symmetric and transitive at
sight. The comparison decides it for values without reals (`same_iff_equal`). With reals it would not even be
reflexive, as a real that is not a number differs from itself.

Main statement: `same_equivalence`. -/

namespace TextTemplate.Value

/-! ## Values without reals -/

/-- **The value holds no real**, at no depth, and its maps bind every key once. -/
inductive RealFree : Value → Prop
  | null : RealFree .null
  | bool (value : Bool) : RealFree (.bool value)
  | integer (value : Int64) : RealFree (.integer value)
  | text (value : String) : RealFree (.text value)
  | object (host : HostObject Value) : RealFree (.object host)
  | array {items : List Value} : (∀ item ∈ items, RealFree item) → RealFree (.array items)
  | map {entries : Table String Value} : entries.keys.Nodup →
    (∀ entry ∈ entries.entries, RealFree entry.2) → RealFree (.map entries)

/-! ## Arrays and maps, compared from the left -/

/-- **Two lists hold equal values in the same places.** -/
def SameItems (items others : List Value) : Prop :=
  items.length = others.length ∧
    ∀ (place : Nat) (a b : Value), items[place]? = some a → others[place]? = some b → a.same b = true

/-- **Two maps bind the same keys, and each of them to equal values**, in whatever order. -/
structure SameBindings (left right : Table String Value) : Prop where
  mem_keys_iff : ∀ key, key ∈ left.keys ↔ key ∈ right.keys
  same : ∀ key a b, (key, a) ∈ left.entries → (key, b) ∈ right.entries → a.same b = true

theorem sameItems_iff (items others : List Value) :
    sameItems items others = true ↔ SameItems items others := by
  induction items generalizing others with
  | nil =>
      cases others with
      | nil => exact iff_of_true rfl ⟨rfl, fun place a b ha => nomatch ha⟩
      | cons b bs => exact iff_of_false Bool.false_ne_true (fun h => nomatch h.1)
  | cons a as ih =>
      cases others with
      | nil => exact iff_of_false Bool.false_ne_true (fun h => nomatch h.1)
      | cons b bs =>
          rw [sameItems, Bool.and_eq_true, ih bs]
          constructor
          · rintro ⟨hfirst, hlength, hrest⟩
            refine ⟨congrArg Nat.succ hlength, fun place x y hx hy => ?_⟩
            cases place with
            | zero =>
                cases hx
                cases hy
                exact hfirst
            | succ place => exact hrest place x y hx hy
          · rintro ⟨hlength, hsame⟩
            exact ⟨hsame 0 a b rfl rfl, Nat.succ.inj hlength,
              fun place x y hx hy => hsame (place + 1) x y hx hy⟩

/-- Arrays are equal if they are as long and hold equal items in the same places. -/
theorem same_array_iff (items others : List Value) :
    (array items).same (array others) = true ↔ SameItems items others := by
  rw [same]
  exact sameItems_iff items others

theorem sameEntries_iff (entries others : List (String × Value)) :
    sameEntries entries others = true ↔
      ∀ entry ∈ entries, ∃ b, Table.find? entry.1 others = some b ∧ entry.2.same b = true := by
  induction entries with
  | nil => exact iff_of_true (by rw [sameEntries]) nofun
  | cons entry rest ih =>
      obtain ⟨key, a⟩ := entry
      rw [sameEntries, Bool.and_eq_true, ih, List.forall_mem_cons]
      refine and_congr_left fun _ => ?_
      cases hfind : Table.find? key others with
      | none => exact iff_of_false Bool.false_ne_true (fun ⟨_, hb, _⟩ => nomatch hb)
      | some b =>
          constructor
          · exact fun h => ⟨b, rfl, h⟩
          · rintro ⟨_, ⟨rfl⟩, h⟩
            exact h

/-- What the comparison of maps asks for, if the right one binds each key once. -/
theorem same_map_iff_found (left : Table String Value) {right : Table String Value}
    (hright : right.keys.Nodup) :
    (map left).same (map right) = true ↔
      left.keys.length = right.keys.length ∧
        ∀ entry ∈ left.entries, ∃ b, (entry.1, b) ∈ right.entries ∧ entry.2.same b = true := by
  rw [Table.length_keys, Table.length_keys]
  obtain ⟨left⟩ := left
  obtain ⟨right⟩ := right
  have hfind : ∀ key b, Table.find? key right = some b ↔ (key, b) ∈ right :=
    fun key b => Table.find?_eq_some_iff hright
  rw [same, Bool.and_eq_true, beq_iff_eq, sameEntries_iff]
  simp only [hfind]

/-- **Maps are equal if they bind the same keys to equal values.** The comparison finds the keys of the left map in
the right one and counts the keys of both; as all of them are distinct, the right map has no others. -/
theorem same_map_iff {left right : Table String Value} (hleft : left.keys.Nodup) (hright : right.keys.Nodup) :
    (map left).same (map right) = true ↔ SameBindings left right := by
  rw [same_map_iff_found left hright]
  constructor
  · rintro ⟨hlength, hfound⟩
    have hsubset : left.keys ⊆ right.keys := by
      intro key hkey
      obtain ⟨a, ha⟩ := Table.mem_keys_iff.1 hkey
      obtain ⟨b, hb, -⟩ := hfound _ ha
      exact Table.mem_keys_iff.2 ⟨b, hb⟩
    -- as many distinct keys on the left as there are on the right: that is all of them
    have hperm : left.keys.Perm right.keys := (hleft.subperm hsubset).perm_of_length_le (by omega)
    refine ⟨fun key => hperm.mem_iff, fun key a b ha hb => ?_⟩
    obtain ⟨c, hc, hsame⟩ := hfound _ ha
    rw [Table.eq_of_mem_entries hright hb hc]
    exact hsame
  · intro h
    have hperm : left.keys.Perm right.keys := (List.perm_ext_iff_of_nodup hleft hright).2 h.mem_keys_iff
    refine ⟨hperm.length_eq, fun entry hentry => ?_⟩
    have hkey : entry.1 ∈ right.keys := (h.mem_keys_iff entry.1).1 (Table.mem_keys_iff.2 ⟨_, hentry⟩)
    obtain ⟨b, hb⟩ := Table.mem_keys_iff.1 hkey
    exact ⟨b, hb, h.same _ _ _ hentry hb⟩

/-- Values of different kinds are never equal. -/
theorem typeName_eq_of_same {a b : Value} (h : a.same b = true) : a.typeName = b.typeName := by
  unfold same at h
  split at h
  case h_9 => cases h
  all_goals rfl

/-! ## Equality without a direction -/

/-- **Two values are equal**: scalars if they are the same, objects if they have the same identity, arrays if they
are as long and equal in every place, and maps if they bind the same keys to equal values. -/
inductive Equal : Value → Value → Prop
  | null : Equal .null .null
  | bool (value : Bool) : Equal (.bool value) (.bool value)
  | integer (value : Int64) : Equal (.integer value) (.integer value)
  | text (value : String) : Equal (.text value) (.text value)
  | object {host other : HostObject Value} : host.id = other.id → Equal (.object host) (.object other)
  | array {items others : List Value} : items.length = others.length →
    (∀ (place : Nat) (a b : Value), items[place]? = some a → others[place]? = some b → Equal a b) →
    Equal (.array items) (.array others)
  | map {left right : Table String Value} : (∀ key, key ∈ left.keys ↔ key ∈ right.keys) →
    (∀ key a b, (key, a) ∈ left.entries → (key, b) ∈ right.entries → Equal a b) →
    Equal (.map left) (.map right)

/-- A value is equal to itself, as a key has one value only. -/
theorem RealFree.equal_self {a : Value} (h : a.RealFree) : Equal a a := by
  induction h with
  | null => exact .null
  | bool value => exact .bool value
  | integer value => exact .integer value
  | text value => exact .text value
  | object host => exact .object rfl
  | array _ ih =>
      refine .array rfl fun place a b ha hb => ?_
      cases ha.symm.trans hb
      exact ih a (List.mem_of_getElem? ha)
  | map hkeys _ ih =>
      refine .map (fun _ => Iff.rfl) fun key a b ha hb => ?_
      rw [Table.eq_of_mem_entries hkeys hb ha]
      exact ih _ ha

theorem Equal.symm {a b : Value} (h : Equal a b) : Equal b a := by
  induction h with
  | null => exact .null
  | bool value => exact .bool value
  | integer value => exact .integer value
  | text value => exact .text value
  | object hid => exact .object hid.symm
  | array hlength _ ih => exact .array hlength.symm fun place b a hb ha => ih place a b ha hb
  | map hkeys _ ih => exact .map (fun key => (hkeys key).symm) fun key b a hb ha => ih key a b ha hb

theorem Equal.trans {a b c : Value} (h : Equal a b) (h' : Equal b c) : Equal a c := by
  induction h generalizing c with
  | null => exact h'
  | bool value => exact h'
  | integer value => exact h'
  | text value => exact h'
  | object hid =>
      cases h' with
      | object hid' => exact .object (hid.trans hid')
  | array hlength _ ih =>
      cases h' with
      | array hlength' hequal' =>
          refine .array (hlength.trans hlength') fun place x z hx hz => ?_
          -- the place is one of the array in between, too
          have hplace := hlength ▸ (List.getElem?_eq_some_iff.1 hx).1
          have hy := List.getElem?_eq_getElem hplace
          exact ih place x _ hx hy (hequal' place _ z hy hz)
  | map hkeys _ ih =>
      cases h' with
      | map hkeys' hequal' =>
          refine .map (fun key => (hkeys key).trans (hkeys' key)) fun key x z hx hz => ?_
          obtain ⟨y, hy⟩ := Table.mem_keys_iff.1 ((hkeys key).1 (Table.mem_keys_iff.2 ⟨x, hx⟩))
          exact ih key x y hx hy (hequal' key y z hy hz)

/-- What the comparison takes to be equal is equal. -/
theorem RealFree.equal_of_same {a b : Value} (ha : a.RealFree) (hb : b.RealFree) (h : a.same b = true) :
    Equal a b := by
  induction ha generalizing b with
  | null =>
      cases b with
      | null => exact .null
      | _ => cases h
  | bool value =>
      cases b with
      | bool other =>
          obtain rfl : value = other := beq_iff_eq.1 h
          exact .bool value
      | _ => cases h
  | integer value =>
      cases b with
      | integer other =>
          obtain rfl : value = other := beq_iff_eq.1 h
          exact .integer value
      | _ => cases h
  | text value =>
      cases b with
      | text other =>
          obtain rfl : value = other := beq_iff_eq.1 h
          exact .text value
      | _ => cases h
  | object host =>
      cases b with
      | object other => exact .object (beq_iff_eq.1 h)
      | _ => cases h
  | array _ ih =>
      cases b with
      | array others =>
          cases hb with
          | array hothers =>
              obtain ⟨hlength, hsame⟩ := (same_array_iff _ others).1 h
              refine .array hlength fun place x y hx hy => ?_
              exact ih x (List.mem_of_getElem? hx) (hothers y (List.mem_of_getElem? hy)) (hsame place x y hx hy)
      | _ => cases h
  | map hkeys _ ih =>
      cases b with
      | map right =>
          cases hb with
          | map hkeys' hentries' =>
              obtain ⟨hmem, hsame⟩ := (same_map_iff hkeys hkeys').1 h
              refine .map hmem fun key x y hx hy => ?_
              exact ih _ hx (hentries' _ hy) (hsame key x y hx hy)
      | _ => cases h

/-- And what is equal is taken to be equal. -/
theorem Equal.same {a b : Value} (h : Equal a b) (ha : a.RealFree) (hb : b.RealFree) : a.same b = true := by
  induction h with
  | null => rfl
  | bool value => exact beq_self_eq_true value
  | integer value => exact beq_self_eq_true value
  | text value => exact beq_self_eq_true value
  | object hid => exact beq_iff_eq.2 hid
  | array hlength _ ih =>
      cases ha with
      | array hitems =>
          cases hb with
          | array hothers =>
              refine (same_array_iff _ _).2 ⟨hlength, fun place x y hx hy => ?_⟩
              exact ih place x y hx hy (hitems x (List.mem_of_getElem? hx)) (hothers y (List.mem_of_getElem? hy))
  | map hmem _ ih =>
      cases ha with
      | map hkeys hentries =>
          cases hb with
          | map hkeys' hentries' =>
              refine (same_map_iff hkeys hkeys').2 ⟨hmem, fun key x y hx hy => ?_⟩
              exact ih key x y hx hy (hentries _ hx) (hentries' _ hy)

/-- **The comparison decides equality** of values without reals. -/
theorem same_iff_equal {a b : Value} (ha : a.RealFree) (hb : b.RealFree) : a.same b = true ↔ Equal a b :=
  ⟨ha.equal_of_same hb, fun h => h.same ha hb⟩

/-! ## Laws -/

/-- **Equality is an equivalence that ignores the order of maps.** For values without reals, it is reflexive,
symmetric and transitive. Two maps are equal if and only if they bind the same keys to equal values, in whatever
order; two arrays, if and only if they are as long and hold equal items in the same places; and values of different
kinds are never equal. -/
theorem same_equivalence :
    Equivalence (fun a b : { value : Value // value.RealFree } => a.1.same b.1 = true) ∧
      (∀ left right : Table String Value, left.keys.Nodup → right.keys.Nodup →
        ((map left).same (map right) = true ↔ SameBindings left right)) ∧
      (∀ items others : List Value, (array items).same (array others) = true ↔ SameItems items others) ∧
      ∀ a b : Value, a.typeName ≠ b.typeName → a.same b = false := by
  refine ⟨⟨fun a => ?_, fun {a b} h => ?_, fun {a b c} h h' => ?_⟩, fun _ _ => same_map_iff, same_array_iff,
    fun a b hkind => ?_⟩
  · exact (same_iff_equal a.2 a.2).2 a.2.equal_self
  · have hequal := (same_iff_equal a.2 b.2).1 h
    exact (same_iff_equal b.2 a.2).2 hequal.symm
  · have hequal := (same_iff_equal a.2 b.2).1 h
    have hequal' := (same_iff_equal b.2 c.2).1 h'
    exact (same_iff_equal a.2 c.2).2 (hequal.trans hequal')
  · exact Bool.eq_false_iff.2 fun h => hkind (typeName_eq_of_same h)

/-- Two maps with the same two keys, in opposite orders on both levels. -/
theorem same_equivalence_reordered :
    let inner : Table String Value := ⟨[("x", null), ("y", text "")]⟩
    let inner' : Table String Value := ⟨[("y", text ""), ("x", null)]⟩
    let left : Table String Value := ⟨[("a", array [map inner]), ("b", bool true)]⟩
    let right : Table String Value := ⟨[("b", bool true), ("a", array [map inner'])]⟩
    left.keys.Nodup ∧ right.keys.Nodup ∧ SameBindings left right ∧
      (map left).RealFree ∧ (map right).RealFree ∧
      (map left).same (map right) = true ∧ (map right).same (map left) = true ∧
      (array [map left]).typeName ≠ (map left).typeName ∧ (array [map left]).same (map left) = false := by
  intro inner inner' left right
  have hleft : left.keys.Nodup := by decide
  have hright : right.keys.Nodup := by decide
  have hsame : (map left).same (map right) = true := by decide
  have hkind : (array [map left]).typeName ≠ (map left).typeName := by decide
  have hinner : (map inner).RealFree := by
    refine .map (by decide) ?_
    simp only [inner, List.forall_mem_cons]
    exact ⟨.null, .text _, nofun⟩
  have hinner' : (map inner').RealFree := by
    refine .map (by decide) ?_
    simp only [inner', List.forall_mem_cons]
    exact ⟨.text _, .null, nofun⟩
  have hfree : (map left).RealFree := by
    refine .map hleft ?_
    simp only [left, List.forall_mem_cons]
    exact ⟨.array (List.forall_mem_singleton.2 hinner), .bool _, nofun⟩
  have hfree' : (map right).RealFree := by
    refine .map hright ?_
    simp only [right, List.forall_mem_cons]
    exact ⟨.bool _, .array (List.forall_mem_singleton.2 hinner'), nofun⟩
  obtain ⟨hequivalence, hmap, -, hkinds⟩ := same_equivalence
  exact ⟨hleft, hright, (hmap left right hleft hright).1 hsame, hfree, hfree', hsame,
    hequivalence.symm (x := ⟨_, hfree⟩) (y := ⟨_, hfree'⟩) hsame, hkind, hkinds _ _ hkind⟩

end TextTemplate.Value
