import TextTemplate.Problem
import TextTemplate.Value

set_option autoImplicit false

/-! # Paths into values

One step takes a value and a key and gives the entry under that key. The key must be a text or a number and is used
by its text: arrays read it as a position, maps as a name, objects as an attribute. A path is a list of keys; the
first step that fails ends the walk. -/

namespace TextTemplate.Value

/-- The text of a key. -/
def keyText (key : Value) : Except RuntimeProblem String :=
  match key with
  | text _ | integer _ | real _ => .ok key.display
  | _ => .error (.invalidAttributeKey key.typeName)

/-- The attribute of an object under a key. -/
def attribute? (host : HostObject Value) (key : String) : Except RuntimeProblem Value :=
  match host.access with
  | .denied => .error (.noAttributeCapability host.typeName)
  | .hollow => .ok null
  | .record fields =>
    match fields.get? key with
    | some value => .ok value
    | none => .error (.noSuchObjectAttribute key)

/-- The entry of a value under the text of a key. -/
def entry (value : Value) (key : String) : Except RuntimeProblem Value :=
  match value with
  | array items =>
    match (indexOfKey? key).bind (items[·]?) with
    | some item => .ok item
    | none => .error (.noSuchArrayAttribute key)
  | map entries =>
    match entries.get? key with
    | some item => .ok item
    | none => .error (.noSuchArrayAttribute key)
  | object host => attribute? host key
  | other => .error (.notAContainer other.typeName)

/-- The entry of a value under a key. -/
def step (value key : Value) : Except RuntimeProblem Value := do
  value.entry (← key.keyText)

/-- The value at the end of a path. -/
def resolve (value : Value) : List Value → Except RuntimeProblem Value
  | [] => .ok value
  | key :: path =>
    match value.step key with
    | .ok next => next.resolve path
    | .error problem => .error problem

end TextTemplate.Value
