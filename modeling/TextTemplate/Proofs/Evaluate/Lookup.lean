import TextTemplate.Render

set_option autoImplicit false

/-! # References and paths

The store can be asked for the value at the end of a path, a list of keys that are all given. A
reference in a template has a path too, but its keys may be expressions. It evaluates one key after the
other, each when the walk has come so far, and stops at the first step that fails.

Main statement: `evaluate_reference_getPath`. A reference has the value that the store has at the end of
its path, and what it records is the problem that the store has with that path. Only a key that is
nothing makes a difference: it ends the walk as well, but it is not worth a diagnostic of its own. -/

namespace TextTemplate

/-! ## Keys -/

/-- The key of a step: its text, or the value of its expression. -/
def Attribute.evaluateKey (space : String) : Attribute → Render Value
  | .key name => pure (.text name)
  | .index digits => pure (.text digits)
  | .computed expression => evaluate space expression

/-- Evaluates the keys of steps from left to right. -/
def evaluateKeys (space : String) (attributes : List Attribute) : Render (List Value) :=
  evaluateAll (attributes.map (Attribute.evaluateKey space))

theorem run_evaluateKeys_cons {space : String} {step : Attribute} {rest : List Attribute}
    {engine reached behind : Engine} {key : Value} {keys : List Value}
    (hkey : (step.evaluateKey space).run engine = (key, reached))
    (hkeys : (evaluateKeys space rest).run reached = (keys, behind)) :
    (evaluateKeys space (step :: rest)).run engine = (key :: keys, behind) := by
  unfold evaluateKeys at *
  rw [List.map_cons, evaluateAll, run_bind, hkey, run_bind, hkeys]
  rfl

/-- Every step is taken in the same way, once its key is there. -/
theorem follow_cons (space : String) (step : Attribute) (rest : List Attribute) (value : Value) :
    follow space (step :: rest) value = step.evaluateKey space >>= fun key =>
      if key.isNull then pure .null else stepInto value key fun next => follow space rest next := by
  cases step with
  | computed expression => rw [follow, Attribute.evaluateKey]
  | key _ | index _ =>
      rw [follow, Attribute.evaluateKey, pure_bind]
      rfl

/-! ## Steps that fail -/

namespace Value

variable {value key : Value} {problem : RuntimeProblem}

/-- An entry that is not there is an error, whatever the value is. -/
theorem severity_of_entry {text : String} (h : value.entry text = .error problem) :
    problem.severity = .error := by
  unfold entry at h
  cases value with
  | array items | map entries =>
      dsimp only at h
      split at h
      · cases h
      · cases h
        rfl
  | object host =>
      dsimp only [attribute?] at h
      split at h
      · cases h
        rfl
      · cases h
      · split at h
        · cases h
        · cases h
          rfl
  | null | bool _ | integer _ | real _ | text _ =>
      cases h
      rfl

/-- A step that fails is an error, whatever it fails for. -/
theorem severity_of_step (h : value.step key = .error problem) : problem.severity = .error := by
  unfold step at h
  cases hkey : key.keyText with
  | ok text =>
      rw [hkey] at h
      exact severity_of_entry h
  | error cause =>
      obtain rfl : cause = problem := by
        rw [hkey] at h
        exact Except.error.inj h
      cases key with
      | text _ | integer _ | real _ => cases hkey
      | null | bool _ | array _ | map _ | object _ =>
          cases hkey
          rfl

/-- Nothing is not a key. -/
theorem isNull_of_step {next : Value} (h : value.step key = .ok next) : key.isNull = false := by
  cases key with
  | null => cases h
  | _ => rfl

end Value

variable {value next key : Value} {problem : RuntimeProblem} {space : String} {step : Attribute}
  {rest : List Attribute} {engine reached behind : Engine}

/-- **A walk that stops at a step.** The keys up to that step are evaluated, and no others. The earlier
ones lead somewhere, and with the key of the step there is `problem`. So the outcome is nothing, and
the problem is recorded, unless the key is nothing itself. -/
def StopsAtStep (resolve : List Value → Except RuntimeProblem Value) (space : String)
    (attributes : List Attribute) (engine : Engine) (problem : RuntimeProblem)
    (outcome : Value × Engine) : Prop :=
  ∃ before step after, attributes = before ++ step :: after ∧
    ∃ earlier reached key behind, (evaluateKeys space before).run engine = (earlier, reached) ∧
      (step.evaluateKey space).run reached = (key, behind) ∧
      (∃ value, resolve earlier = .ok value) ∧ resolve (earlier ++ [key]) = .error problem ∧
      outcome = (.null, if key.isNull then behind else behind.note ⟨.error, "", .runtime problem⟩)

/-- The first step may be the one where the walk stops. -/
theorem stopsAtStep_first (hkey : (step.evaluateKey space).run engine = (key, behind))
    (hstep : value.step key = .error problem) :
    StopsAtStep value.resolve space (step :: rest) engine problem
      (.null, if key.isNull then behind else behind.note ⟨.error, "", .runtime problem⟩) := by
  refine ⟨[], step, rest, rfl, [], engine, key, behind, rfl, hkey, ⟨value, rfl⟩, ?_, rfl⟩
  rw [List.nil_append, Value.resolve, hstep]

/-- Or it stops at a later one. -/
theorem StopsAtStep.cons {outcome : Value × Engine}
    (hkey : (step.evaluateKey space).run engine = (key, reached))
    (hstep : value.step key = .ok next)
    (h : StopsAtStep next.resolve space rest reached problem outcome) :
    StopsAtStep value.resolve space (step :: rest) engine problem outcome := by
  obtain ⟨before, last, after, hrest, earlier, start, lastKey, behind, hearlier, hlast,
    ⟨found, hfound⟩, hproblem, houtcome⟩ := h
  refine ⟨step :: before, last, after, by rw [hrest, List.cons_append], key :: earlier, start,
    lastKey, behind, run_evaluateKeys_cons hkey hearlier, hlast, ⟨found, ?_⟩, ?_, houtcome⟩
  · rw [Value.resolve, hstep]
    exact hfound
  · rw [List.cons_append, Value.resolve, hstep]
    exact hproblem

/-! ## The walk -/

theorem run_follow_error (hkey : (step.evaluateKey space).run engine = (key, reached))
    (hstep : value.step key = .error problem) :
    (follow space (step :: rest) value).run engine =
      (.null, if key.isNull then reached else
        reached.note ⟨.error, "", .runtime problem⟩) := by
  rw [follow_cons, run_bind, hkey]
  dsimp only
  split
  · rfl
  · rw [stepInto, hstep, ← Value.severity_of_step hstep]
    rfl

theorem run_follow_ok (hkey : (step.evaluateKey space).run engine = (key, reached))
    (hstep : value.step key = .ok next) :
    (follow space (step :: rest) value).run engine = (follow space rest next).run reached := by
  rw [follow_cons, run_bind, hkey]
  dsimp only
  rw [if_neg (by rw [Value.isNull_of_step hstep]; decide), stepInto, hstep]

/-- **The steps into a value follow the path of their keys**, up to the step where that fails. -/
theorem run_follow (space : String) (attributes : List Attribute) (value : Value) (engine : Engine) :
    let keys := (evaluateKeys space attributes).run engine
    let walked := (follow space attributes value).run engine
    (∀ found, value.resolve keys.1 = .ok found → walked = (found, keys.2)) ∧
      ∀ problem, value.resolve keys.1 = .error problem →
        StopsAtStep value.resolve space attributes engine problem walked := by
  induction attributes generalizing value engine with
  | nil =>
      intro keys walked
      have hwalked : walked = (value, engine) := by
        show (follow space [] value).run engine = _
        rw [follow]
        rfl
      refine ⟨fun found hfound => ?_, fun problem hproblem => by cases hproblem⟩
      cases hfound
      exact hwalked
  | cons step rest ih =>
      cases hkey : (step.evaluateKey space).run engine with
      | mk key reached =>
          cases hkeys : (evaluateKeys space rest).run reached with
          | mk others behind =>
              rw [run_evaluateKeys_cons hkey hkeys]
              dsimp only
              cases hstep : value.step key with
              | error problem =>
                  -- the path ends here, because of the key or because of what it does not lead to
                  rw [run_follow_error hkey hstep, Value.resolve, hstep]
                  refine ⟨fun found hfound => (by cases hfound), fun cause hcause => ?_⟩
                  cases hcause
                  exact stopsAtStep_first hkey hstep
              | ok next =>
                  obtain ⟨hfound, hstops⟩ := ih next reached
                  rw [hkeys] at hfound hstops
                  rw [run_follow_ok hkey hstep, Value.resolve, hstep]
                  refine ⟨hfound, fun problem hproblem => ?_⟩
                  exact (hstops problem hproblem).cons hkey hstep

/-! ## References -/

section

variable {explicit : Option String} {name : String} {attributes : List Attribute}

/-- The steps are taken into the value of the variable. -/
theorem run_evaluate_reference_of_some
    (h : engine.store.get? (resolveSpace space explicit) name = some value) :
    (evaluate space (.ofOperand (.reference ⟨explicit, name, attributes⟩))).run engine =
      (follow space attributes value).run engine := by
  rw [evaluate_ofOperand, evaluateOperand]
  simp only [StateT.run_bind, StateT.run_get, pure_bind, h]

/-- A variable that is not set is recorded. -/
theorem run_evaluate_reference_of_none
    (h : engine.store.get? (resolveSpace space explicit) name = none) :
    (evaluate space (.ofOperand (.reference ⟨explicit, name, attributes⟩))).run engine =
      (.null, engine.note (.ofRuntime (.undefinedVariable (resolveSpace space explicit) name))) := by
  rw [evaluate_ofOperand, evaluateOperand]
  simp only [StateT.run_bind, StateT.run_get, pure_bind, h]
  rfl

end

/-- **A reference agrees with the store**, on every engine and with any steps behind the variable. If
the store has a value at the end of the path, the reference has that value, and nothing happens but that
the keys are evaluated. If the store has a problem with the path, the reference comes to nothing and
records that problem: as a warning if the variable is not set, and then no key is evaluated, or as an
error at the step that fails, behind which no key is evaluated. A key that is nothing ends the walk
without an error. -/
theorem evaluate_reference_getPath (engine : Engine) (space : String) (explicit : Option String)
    (name : String) (attributes : List Attribute) :
    let path := engine.store.getPath (resolveSpace space explicit) name
    let keys := (evaluateKeys space attributes).run engine
    let looked := (evaluate space (.ofOperand (.reference ⟨explicit, name, attributes⟩))).run engine
    (∀ value, path keys.1 = .ok value → looked = (value, keys.2)) ∧
      ∀ problem, path keys.1 = .error problem →
        engine.store.get? (resolveSpace space explicit) name = none ∧
            problem = .undefinedVariable (resolveSpace space explicit) name ∧
            looked = (.null, engine.note ⟨.warning, "", .runtime problem⟩) ∨
          StopsAtStep path space attributes engine problem looked := by
  intro path keys looked
  cases hget : engine.store.get? (resolveSpace space explicit) name with
  | none =>
      have hpath : path = fun _ => .error (.undefinedVariable (resolveSpace space explicit) name) := by
        funext keys
        show Store.getPath _ _ _ _ = _
        rw [Store.getPath, hget]
      rw [hpath]
      refine ⟨fun value hvalue => (by cases hvalue), fun problem hproblem => .inl ?_⟩
      cases hproblem
      exact ⟨rfl, rfl, run_evaluate_reference_of_none hget⟩
  | some value =>
      have hpath : path = value.resolve := by
        funext keys
        show Store.getPath _ _ _ _ = _
        rw [Store.getPath, hget]
      rw [hpath, show looked = _ from run_evaluate_reference_of_some hget]
      obtain ⟨hfound, hstops⟩ := run_follow space attributes value engine
      exact ⟨hfound, fun problem hproblem => .inr (hstops problem hproblem)⟩

end TextTemplate
