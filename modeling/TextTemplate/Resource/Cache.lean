import TextTemplate.Data.Table
import TextTemplate.Node

set_option autoImplicit false

/-! # The tree cache

Parsed trees are kept by the name of the template and the delimiters. The first tree published under a key stays
until its template is invalidated; whoever publishes another one in the meantime gets the first. Each publication has
a number, which tells a tree from a later one that looks the same. -/

namespace TextTemplate

/-- What a tree is kept under. -/
structure CacheKey where
  uri : String
  left : String
  right : String
deriving BEq, DecidableEq, Repr

/-- A tree and the number of its publication. -/
structure Published where
  number : Nat
  tree : Tree

/-- The trees published so far. -/
structure TreeCache where
  trees : Table CacheKey Published := ∅
  fresh : Nat := 0
deriving Inhabited

namespace TreeCache

/-- The tree under a key. -/
def get? (cache : TreeCache) (key : CacheKey) : Option Published := cache.trees.get? key

/-- Publishes a tree, unless there is one under the key already, and gives the one that is there then. -/
def insert (cache : TreeCache) (key : CacheKey) (tree : Tree) : Published × TreeCache :=
  match cache.get? key with
  | some published => (published, cache)
  | none =>
    let published : Published := ⟨cache.fresh, tree⟩
    (published, ⟨cache.trees.set key published, cache.fresh + 1⟩)

/-- The tree under a key, published now from what `build` gives if there is none. A failure publishes nothing. -/
def getOrInsert {ε : Type} (cache : TreeCache) (key : CacheKey) (build : Except ε Tree) :
    Except ε Published × TreeCache :=
  match cache.get? key with
  | some published => (.ok published, cache)
  | none =>
    match build with
    | .ok tree =>
      let (published, cache) := cache.insert key tree
      (.ok published, cache)
    | .error failure => (.error failure, cache)

/-- Drops every tree of a template. -/
def invalidate (cache : TreeCache) (uri : String) : TreeCache :=
  { cache with trees := cache.trees.filter fun key _ => key.uri ≠ uri }

/-- The number of trees. -/
def size (cache : TreeCache) : Nat := cache.trees.size

/-! ## The view -/

/-- After publishing, what was given is under the key, and the other keys are left alone. -/
theorem get?_insert (cache : TreeCache) (key key' : CacheKey) (tree : Tree) :
    (cache.insert key tree).2.get? key' =
      if key = key' then some (cache.insert key tree).1 else cache.get? key' := by
  unfold insert
  cases h : cache.get? key with
  | none => exact Table.get?_set _ _ _ _
  | some published =>
    by_cases hkey : key = key'
    · rw [if_pos hkey, ← hkey, h]
    · rw [if_neg hkey]

/-- What is given is the tree that was there, or else the new one. -/
theorem tree_insert (cache : TreeCache) (key : CacheKey) (tree : Tree) :
    (cache.insert key tree).1.tree = ((cache.get? key).map Published.tree).getD tree := by
  unfold insert
  cases cache.get? key with
  | none => rfl
  | some published => rfl

end TreeCache

end TextTemplate
