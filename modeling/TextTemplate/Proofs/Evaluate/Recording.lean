import TextTemplate.Proofs.Data.Table
import TextTemplate.Proofs.Render.Relation

set_option autoImplicit false

/-! # Evaluation that only records

With the built-in operators alone, an expression can do nothing to an engine but record problems. What it
records depends on the engine but not on what was recorded before, so the same expression records the same
problems again (`RecordsOnly`).

The value of an expression comes from the template or from a variable, and no built-in operator makes an
object. So if no variable holds an object, at whatever depth, no value of an expression does
(`Value.ObjectFree`).

Main statement: `recordsOnly_evaluate`. -/

namespace TextTemplate

/-! ## Values without objects -/

/-- **The value holds no object**, at no depth. -/
inductive Value.ObjectFree : Value → Prop
  | null : ObjectFree .null
  | bool (value : Bool) : ObjectFree (.bool value)
  | integer (value : Int64) : ObjectFree (.integer value)
  | real (value : Float) : ObjectFree (.real value)
  | text (value : String) : ObjectFree (.text value)
  | array {items : List Value} : (∀ item ∈ items, ObjectFree item) → ObjectFree (.array items)
  | map {entries : Table String Value} :
    (∀ entry ∈ entries.entries, ObjectFree entry.2) → ObjectFree (.map entries)

namespace Value.ObjectFree

variable {value key next : Value}

theorem ofNumber (number : Number) : (Value.ofNumber number).ObjectFree := by
  cases number with
  | integer value => exact .integer value
  | real value => exact .real value

/-- What is found in a value without objects is one, too. -/
theorem entry {text : String} (h : value.ObjectFree) (hentry : value.entry text = .ok next) :
    next.ObjectFree := by
  unfold Value.entry at hentry
  cases h with
  | null | bool _ | integer _ | real _ | text _ => cases hentry
  | array hitems =>
      dsimp only at hentry
      split at hentry
      · rename_i items item hitem
        cases hentry
        obtain ⟨index, -, hindex⟩ := Option.bind_eq_some_iff.1 hitem
        exact hitems _ (List.mem_of_getElem? hindex)
      · cases hentry
  | map hentries =>
      dsimp only at hentry
      split at hentry
      · rename_i entries item hitem
        cases hentry
        exact hentries _ (Table.mem_of_find?_eq_some hitem)
      · cases hentry

theorem step (h : value.ObjectFree) (hstep : value.step key = .ok next) : next.ObjectFree := by
  unfold Value.step at hstep
  cases hkey : key.keyText with
  | error problem =>
      rw [hkey] at hstep
      cases hstep
  | ok text =>
      rw [hkey] at hstep
      exact h.entry hstep

theorem mapText (f : String → String) (value : Value) : (Builtin.mapText f value).ObjectFree := by
  unfold Builtin.mapText
  split
  · exact .null
  · exact .text _

/-- **No built-in operator makes an object.** -/
theorem apply (builtin : Builtin) (h : value.ObjectFree) {arguments : List Value}
    (harguments : ∀ argument ∈ arguments, argument.ObjectFree) :
    (builtin.apply value arguments).ObjectFree := by
  cases builtin with
  | upcase | downcase => exact mapText _ value
  | reverse =>
      cases h with
      | array hitems => exact .array fun item hitem => hitems item (List.mem_reverse.1 hitem)
      | null => exact .null
      | bool _ | integer _ | real _ | text _ | map _ => exact .text _
  | identity => exact h
  | count => exact .integer _
  | fallback =>
      show (Builtin.fallbackOf value arguments).ObjectFree
      unfold Builtin.fallbackOf
      split
      · exact h
      · split
        · rename_i argument hfind
          exact harguments argument (List.mem_of_find?_eq_some hfind)
        · cases hlast : arguments.getLast? with
          | none =>
              rw [List.getLast?_eq_none_iff.1 hlast]
              exact h
          | some last =>
              rw [List.getLastD_eq_getLast?, hlast]
              exact harguments last (List.mem_of_getLast? hlast)

end Value.ObjectFree

/-! ## Actions that only record -/

variable {α β : Type}

/-- **The action only records.** Whatever is in the log, it has one and the same value, which is `good`, and
appends the same diagnostics to the log; everything else in the engine stays. -/
def RecordsOnly (engine : Engine) (good : α → Prop) (action : Render α) : Prop :=
  ∃ value notes, good value ∧ ∀ log : Log,
    action.run { engine with log } = (value, { engine with log := log ++ notes })

variable {engine : Engine} {good : α → Prop} {good' : β → Prop}

theorem recordsOnly_pure {value : α} (h : good value) : RecordsOnly engine good (pure value) :=
  ⟨value, [], h, fun log => by rw [List.append_nil]; rfl⟩

/-- One action after the other: their diagnostics come one after the other. -/
theorem RecordsOnly.bind {action : Render α} {next : α → Render β} (h : RecordsOnly engine good action)
    (hnext : ∀ value, good value → RecordsOnly engine good' (next value)) :
    RecordsOnly engine good' (action >>= next) := by
  obtain ⟨value, notes, hgood, hrun⟩ := h
  obtain ⟨value', notes', hgood', hrun'⟩ := hnext value hgood
  refine ⟨value', notes ++ notes', hgood', fun log => ?_⟩
  rw [run_bind, hrun, hrun', List.append_assoc]

theorem recordsOnly_record (diagnostic : Diagnostic) :
    RecordsOnly engine (fun _ => True) (record diagnostic) :=
  ⟨(), [diagnostic], trivial, fun _ => rfl⟩

/-- An action may look at whatever stands in the engine besides the log. -/
theorem recordsOnly_get (view : Engine → α) (next : α → Render β)
    (hview : ∀ log : Log, view { engine with log } = view engine)
    (hnext : RecordsOnly engine good' (next (view engine))) :
    RecordsOnly engine good' (get >>= fun engine => next (view engine)) := by
  obtain ⟨value, notes, hgood, hrun⟩ := hnext
  refine ⟨value, notes, hgood, fun log => ?_⟩
  show (next (view { engine with log })).run { engine with log } = _
  rw [hview, hrun]

/-! ## Operators -/

/-- The operators are the built-in ones; that there is no other one is recorded. -/
theorem recordsOnly_operatorHandler? (hstandard : engine.registry.Standard) (name : String) :
    RecordsOnly engine (fun handler => handler = none ∨ handler = some .builtins)
      (operatorHandler? name) := by
  obtain ⟨result, hresult, hcases⟩ := Registry.exists_operator_of_standard name
  unfold operatorHandler?
  rcases hcases with rfl | ⟨handler, rfl, hhandler⟩
  · refine ⟨none, [.ofRuntime (.unregisteredOperator name)], .inl rfl, fun log => ?_⟩
    simp only [StateT.run_bind, StateT.run_get, pure_bind, hresult _ hstandard]
    rfl
  · refine ⟨some .builtins, [], .inr rfl, fun log => ?_⟩
    simp only [StateT.run_bind, StateT.run_get, pure_bind, hresult _ hstandard, hhandler,
      List.append_nil]
    rfl

variable {value : Value} {arguments : List (Render Value)}

theorem recordsOnly_evaluateAll
    (h : ∀ argument ∈ arguments, RecordsOnly engine Value.ObjectFree argument) :
    RecordsOnly engine (fun values : List Value => ∀ value ∈ values, value.ObjectFree)
      (evaluateAll arguments) := by
  induction arguments with
  | nil => exact recordsOnly_pure fun _ hnone => absurd hnone List.not_mem_nil
  | cons argument rest ih =>
      have hrest := ih fun other hother => h other (List.mem_cons_of_mem _ hother)
      refine (h argument List.mem_cons_self).bind fun value hvalue => ?_
      refine hrest.bind fun values hvalues => ?_
      exact recordsOnly_pure (List.forall_mem_cons.2 ⟨hvalue, hvalues⟩)

/-- A wrong number of arguments is recorded and leaves the value as it is. -/
theorem recordsOnly_applySettled (builtin : Builtin) (hvalue : value.ObjectFree)
    (h : ∀ argument ∈ arguments, RecordsOnly engine Value.ObjectFree argument) :
    RecordsOnly engine Value.ObjectFree (applySettled builtin value arguments) := by
  unfold applySettled
  split
  · refine (recordsOnly_evaluateAll h).bind fun values hvalues => ?_
    exact recordsOnly_pure (hvalue.apply builtin hvalues)
  · exact (recordsOnly_record _).bind fun _ _ => recordsOnly_pure hvalue

theorem recordsOnly_applyBuiltin (builtin : Builtin) (hvalue : value.ObjectFree)
    (h : ∀ argument ∈ arguments, RecordsOnly engine Value.ObjectFree argument) :
    RecordsOnly engine Value.ObjectFree (applyBuiltin builtin value arguments) := by
  have hall := recordsOnly_applySettled builtin hvalue h
  rw [applyBuiltin_eq]
  split
  · next argument _ =>
      split
      · refine (h argument List.mem_cons_self).bind fun first hfirst => ?_
        exact recordsOnly_applySettled builtin hfirst fun _ hnone => absurd hnone List.not_mem_nil
      · exact hall
  · exact hall

/-- An operator without a handler is recorded and leaves the value as it is. -/
theorem recordsOnly_applyOperator (hstandard : engine.registry.Standard) (space name : String)
    (hvalue : value.ObjectFree)
    (h : ∀ argument ∈ arguments, RecordsOnly engine Value.ObjectFree argument) :
    RecordsOnly engine Value.ObjectFree (applyOperator space name value arguments) := by
  refine (recordsOnly_operatorHandler? hstandard name).bind fun handler hhandler => ?_
  rcases hhandler with rfl | rfl
  · exact recordsOnly_pure hvalue
  · simp only [applyAction]
    cases Builtin.ofName? name with
    | none => exact (recordsOnly_record _).bind fun _ _ => recordsOnly_pure hvalue
    | some builtin => exact recordsOnly_applyBuiltin builtin hvalue h

/-! ## Expressions -/

/-- A step that fails is recorded and ends in nothing. -/
theorem recordsOnly_stepInto (hvalue : value.ObjectFree) (key : Value)
    {next : Value → Render Value}
    (hnext : ∀ found : Value, found.ObjectFree → RecordsOnly engine Value.ObjectFree (next found)) :
    RecordsOnly engine Value.ObjectFree (stepInto value key next) := by
  unfold stepInto
  cases hstep : value.step key with
  | ok found => exact hnext found (hvalue.step hstep)
  | error problem => exact (recordsOnly_record _).bind fun _ _ => recordsOnly_pure .null

/-- **No variable holds an object.** -/
def Store.ObjectFree (store : Store) : Prop :=
  ∀ space name value, store.get? space name = some value → value.ObjectFree

theorem Store.objectFree_empty : ({} : Store).ObjectFree := fun _ _ _ h => by cases h

theorem Store.ObjectFree.set {store : Store} (h : store.ObjectFree) (space name : String)
    (hvalue : value.ObjectFree) : (store.set space name value).ObjectFree := by
  intro space' name' value' hget
  rw [Store.get?_set] at hget
  split at hget
  · cases hget
    exact hvalue
  · exact h space' name' value' hget

mutual

/-- **Evaluating an expression only records**, and its value holds no object. -/
theorem recordsOnly_evaluate (hstandard : engine.registry.Standard) (hstore : engine.store.ObjectFree)
    (space : String) :
    ∀ expression : Expression, RecordsOnly engine Value.ObjectFree (evaluate space expression)
  | ⟨operand, operators⟩ => by
      rw [evaluate]
      have hoperand := recordsOnly_evaluateOperand hstandard hstore space operand
      refine hoperand.bind fun value hvalue => ?_
      exact recordsOnly_applyChain hstandard hstore space operators hvalue

theorem recordsOnly_applyChain (hstandard : engine.registry.Standard)
    (hstore : engine.store.ObjectFree) (space : String) :
    ∀ (operators : List Operator) {value : Value}, value.ObjectFree →
      RecordsOnly engine Value.ObjectFree (applyChain space operators value)
  | [], _, hvalue => by
      rw [applyChain]
      exact recordsOnly_pure hvalue
  | ⟨name, arguments⟩ :: rest, _, hvalue => by
      rw [applyChain]
      have harguments := recordsOnly_of_mem_suspend hstandard hstore space arguments
      refine (recordsOnly_applyOperator hstandard space name hvalue harguments).bind
        fun value hvalue => ?_
      exact recordsOnly_applyChain hstandard hstore space rest hvalue

theorem recordsOnly_of_mem_suspend (hstandard : engine.registry.Standard)
    (hstore : engine.store.ObjectFree) (space : String) :
    ∀ (arguments : List Expression), ∀ argument ∈ suspend space arguments,
      RecordsOnly engine Value.ObjectFree argument
  | [] => by
      rw [suspend]
      exact fun _ hnone => absurd hnone List.not_mem_nil
  | expression :: rest => by
      rw [suspend]
      intro argument hargument
      rcases List.mem_cons.1 hargument with rfl | hargument
      · exact recordsOnly_evaluate hstandard hstore space expression
      · exact recordsOnly_of_mem_suspend hstandard hstore space rest argument hargument

theorem recordsOnly_evaluateOperand (hstandard : engine.registry.Standard)
    (hstore : engine.store.ObjectFree) (space : String) :
    ∀ operand : Operand, RecordsOnly engine Value.ObjectFree (evaluateOperand space operand)
  | .text text | .word text => by
      rw [evaluateOperand]
      exact recordsOnly_pure (.text text)
  | .number number => by
      rw [evaluateOperand]
      exact recordsOnly_pure (.ofNumber number)
  | .null | .call => by
      rw [evaluateOperand]
      exact recordsOnly_pure .null
  | .reference ⟨explicit, name, attributes⟩ => by
      rw [evaluateOperand]
      -- the variable is looked up in the store, which does not depend on the log
      refine recordsOnly_get (fun engine => engine.store.get? (resolveSpace space explicit) name)
        (fun value? => match value? with
          | some value => follow space attributes value
          | none => do
            record (.ofRuntime (.undefinedVariable (resolveSpace space explicit) name))
            pure .null)
        (fun _ => rfl) ?_
      cases hvalue : engine.store.get? (resolveSpace space explicit) name with
      | some value =>
          exact recordsOnly_follow hstandard hstore space attributes (hstore _ _ _ hvalue)
      | none => exact (recordsOnly_record _).bind fun _ _ => recordsOnly_pure .null

theorem recordsOnly_follow (hstandard : engine.registry.Standard) (hstore : engine.store.ObjectFree)
    (space : String) :
    ∀ (attributes : List Attribute) {value : Value}, value.ObjectFree →
      RecordsOnly engine Value.ObjectFree (follow space attributes value)
  | [], _, hvalue => by
      rw [follow]
      exact recordsOnly_pure hvalue
  | .key name :: rest, _, hvalue => by
      rw [follow]
      exact recordsOnly_stepInto hvalue _ fun _ hfound =>
        recordsOnly_follow hstandard hstore space rest hfound
  | .index digits :: rest, _, hvalue => by
      rw [follow]
      exact recordsOnly_stepInto hvalue _ fun _ hfound =>
        recordsOnly_follow hstandard hstore space rest hfound
  | .computed expression :: rest, _, hvalue => by
      rw [follow]
      refine (recordsOnly_evaluate hstandard hstore space expression).bind fun key _ => ?_
      split
      · exact recordsOnly_pure .null
      · exact recordsOnly_stepInto hvalue key fun _ hfound =>
          recordsOnly_follow hstandard hstore space rest hfound

end

end TextTemplate
