import TextTemplate.Value.Path

set_option autoImplicit false

/-! # The variable store

Variables are kept by namespace and name. A namespace is a plain text: `outer:inner` has nothing to do with `outer`
as far as the store is concerned, and the empty text is the global namespace. -/

namespace TextTemplate

/-- The variables of an engine. -/
structure Store where
  bindings : Table (String × String) Value := ∅
deriving Inhabited

namespace Store

/-- The value of a variable. -/
def get? (store : Store) (space name : String) : Option Value := store.bindings.get? (space, name)

/-- Whether a variable is set. -/
def has (store : Store) (space name : String) : Bool := (store.get? space name).isSome

/-- Sets a variable. -/
def set (store : Store) (space name : String) (value : Value) : Store :=
  ⟨store.bindings.set (space, name) value⟩

/-- Removes a variable and gives the value it had. -/
def unset (store : Store) (space name : String) : Except RuntimeProblem (Value × Store) :=
  match store.get? space name with
  | some value => .ok (value, ⟨store.bindings.erase (space, name)⟩)
  | none => .error (.unsetUndefined space name)

/-- The value at the end of a path from a variable. -/
def getPath (store : Store) (space name : String) (path : List Value) : Except RuntimeProblem Value :=
  match store.get? space name with
  | some value => value.resolve path
  | none => .error (.undefinedVariable space name)

/-- Whether a variable is set and a path from it leads somewhere. -/
def hasPath (store : Store) (space name : String) (path : List Value) : Bool :=
  match store.getPath space name path with
  | .ok _ => true
  | .error _ => false

/-! ## The view -/

theorem get?_set (store : Store) (space name space' name' : String) (value : Value) :
    (store.set space name value).get? space' name' =
      if space = space' ∧ name = name' then some value else store.get? space' name' := by
  simp [get?, set, Table.get?_set]

@[simp] theorem get?_set_self (store : Store) (space name : String) (value : Value) :
    (store.set space name value).get? space name = some value := by
  simp [get?_set]

theorem get?_set_of_space_ne (store : Store) {space space' : String} (name name' : String)
    (value : Value) (h : space ≠ space') :
    (store.set space name value).get? space' name' = store.get? space' name' := by
  simp [get?_set, h]

end Store

end TextTemplate
