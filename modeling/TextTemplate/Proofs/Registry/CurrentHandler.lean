import TextTemplate.Proofs.Registry.Run

set_option autoImplicit false

/-! # Whether a tag has children, by what was registered

Here handlers are only registered and unregistered, and nothing is loaded. The answer that is due for
a tag depends on the handler that serves it now: the flag that this fixes, else its own answer, and a
yes if nothing serves the tag (`due`).

But flags stand in a table of their own. A registration records the flags of its handler for all
tags, not only for the one it binds, and neither a later registration nor an unregistration takes
them back. Main statement: `hasChildren_due_iff`, the answer is the one that is due **exactly** if
the flag that was recorded last for the tag, if any, is that answer. -/

namespace TextTemplate

/-- Something that is done to the tags of a registry without loading. -/
inductive Registration
  | bind (name : String) (handler : FunctionHandler)
  | bindAll (handler : FunctionHandler)
  | unbind (name : String)

namespace Registration

def operation : Registration → Registry.Operation
  | bind name handler => .registerFunction name handler
  | bindAll handler => .registerFunctions handler
  | unbind name => .unregisterFunction name

/-- The handler of the tag `name` behind a registration, by the one before. -/
def rebind (name : String) (handler? : Option FunctionHandler) :
    Registration → Option FunctionHandler
  | bind tag handler => if tag = name then some handler else handler?
  | bindAll handler => if name ∈ handler.names then some handler else handler?
  | unbind tag => if tag = name then none else handler?

/-- The flag on record for the tag `name` behind a registration, by the one before. -/
def record (name : String) (flag? : Option Bool) : Registration → Option Bool
  | bind _ handler | bindAll handler => (handler.fixes name).or flag?
  | unbind _ => flag?

/-- **The handler that serves a tag now.** -/
def current? (registrations : List Registration) (name : String) : Option FunctionHandler :=
  registrations.foldl (rebind name) none

/-- **The flag that was recorded last** for a tag, by whatever handler. -/
def recorded? (registrations : List Registration) (name : String) : Option Bool :=
  registrations.foldl (record name) none

/-- **The answer that is due** for a tag: by the handler that serves it now, or else a yes. -/
def due (registrations : List Registration) (name : String) : Bool :=
  match current? registrations name with
  | none => true
  | some handler => (handler.fixes name).getD (handler.owns 0 name)

theorem current?_concat (registrations : List Registration) (registration : Registration)
    (name : String) :
    current? (registrations ++ [registration]) name
      = rebind name (current? registrations name) registration := by
  rw [current?, List.foldl_append]
  rfl

theorem recorded?_concat (registrations : List Registration) (registration : Registration)
    (name : String) :
    recorded? (registrations ++ [registration]) name
      = record name (recorded? registrations name) registration := by
  rw [recorded?, List.foldl_append]
  rfl

/-- A handler that serves a tag and fixes its flag has put one on record. -/
theorem recorded?_isSome (registrations : List Registration) {name : String}
    {handler : FunctionHandler} (h : current? registrations name = some handler)
    (hfix : (handler.fixes name).isSome = true) : (recorded? registrations name).isSome = true := by
  induction registrations using List.reverseRecOn with
  | nil => cases h
  | append_singleton registrations registration ih =>
      rw [current?_concat] at h
      rw [recorded?_concat]
      have hbind : ∀ other : FunctionHandler,
          other = handler ∨ current? registrations name = some handler →
          ((other.fixes name).or (recorded? registrations name)).isSome = true := by
        intro other hcurrent
        rw [Option.isSome_or, Bool.or_eq_true]
        rcases hcurrent with rfl | hcurrent
        · exact Or.inl hfix
        · exact Or.inr (ih hcurrent)
      cases registration with
      | bind tag other =>
          rw [rebind] at h
          split at h
          · exact hbind other (Or.inl (Option.some.inj h))
          · exact hbind other (Or.inr h)
      | bindAll other =>
          rw [rebind] at h
          split at h
          · exact hbind other (Or.inl (Option.some.inj h))
          · exact hbind other (Or.inr h)
      | unbind tag =>
          rw [rebind] at h
          split at h
          · cases h
          · exact ih h

end Registration

/-- The handler in a slot, unless it is yet to be made. -/
def Slot.handler? {α : Type} : Slot α → Option α
  | live handler => some handler.handler
  | pending _ => none

namespace Registry

open Registration

/-! ## The tables behind registrations -/

/-- Each tag is bound to its current handler, the flags are those on record, and no handler was
asked. -/
structure Reflects (registry : Registry) (registrations : List Registration) : Prop where
  functions : ∀ name, (registry.functions.get? name).map Slot.handler?
    = (current? registrations name).map some
  flags : ∀ name, registry.childFlags.get? name = (recorded? registrations name).map .known
  asked : registry.asked = ∅

theorem reflects_fresh : Reflects {} [] := ⟨fun _ => rfl, fun _ => rfl, rfl⟩

/-- What a registration records stands before what was on record. -/
theorem flags_recordChildTags {registry : Registry} {flag? : Option Bool} {name : String}
    (h : registry.childFlags.get? name = flag?.map .known) (handler : FunctionHandler) :
    (registry.recordChildTags handler).childFlags.get? name
      = ((handler.fixes name).or flag?).map .known := by
  rw [childFlags_recordChildTags, h]
  cases handler.fixes name with
  | none => rfl
  | some flag => rfl

theorem Reflects.apply {registry : Registry} {registrations : List Registration}
    (h : registry.Reflects registrations) (registration : Registration) :
    (registry.apply registration.operation).Reflects (registrations ++ [registration]) := by
  cases registration with
  | bind tag handler =>
      refine ⟨fun name => ?_, fun name => ?_, h.asked⟩
      · rw [current?_concat, rebind]
        show ((registry.functions.set tag (.live ⟨registry.fresh, handler⟩)).get? name).map _ = _
        rw [Table.get?_set]
        split
        · rfl
        · exact h.functions name
      · rw [recorded?_concat]
        exact flags_recordChildTags (h.flags name) handler
  | bindAll handler =>
      refine ⟨fun name => ?_, fun name => ?_, h.asked⟩
      · rw [current?_concat, rebind]
        show ((registry.functions.setAll (handler.names.map fun name =>
          (name, .live ⟨registry.fresh, handler⟩))).get? name).map _ = _
        rw [Table.get?_setAll, Table.get?_ofList_map_const]
        split
        · rfl
        · exact h.functions name
      · rw [recorded?_concat]
        exact flags_recordChildTags (h.flags name) handler
  | unbind tag =>
      show (registry.orElse (registry.unregisterFunction tag)).Reflects _
      unfold unregisterFunction
      split
      · refine ⟨fun name => ?_, fun name => ?_, h.asked⟩
        · rw [current?_concat, rebind]
          by_cases hn : tag = name
          · subst hn
            simp [orElse]
          · simp only [orElse, Table.get?_erase_ne _ hn, if_neg hn]
            exact h.functions name
        · rw [recorded?_concat]
          exact h.flags name
      · rename_i hcontains
        refine ⟨fun name => ?_, fun name => ?_, h.asked⟩
        · rw [current?_concat, rebind]
          split
          · -- the tag was not bound, so nothing had to be removed
            rename_i hn
            subst hn
            have hnone : registry.functions.get? tag = none := by
              simpa [Table.contains] using hcontains
            simp [orElse, hnone]
          · exact h.functions name
        · rw [recorded?_concat]
          exact h.flags name

theorem reflects_run (registrations : List Registration) :
    (run (registrations.map Registration.operation)).Reflects registrations := by
  induction registrations using List.reverseRecOn with
  | nil => exact reflects_fresh
  | append_singleton registrations registration ih =>
      rw [List.map_append, run, List.foldl_append]
      exact ih.apply registration

/-! ## The answer -/

/-- The flag on record answers, or else the current handler, or else it is a yes. -/
theorem Reflects.hasChildren {registry : Registry} {registrations : List Registration}
    (h : registry.Reflects registrations) (name : String) :
    (registry.hasChildren name).1 = .ok ((recorded? registrations name).getD
      (((current? registrations name).map fun handler => handler.owns 0 name).getD true)) := by
  have hflag := h.flags name
  cases hrecorded : recorded? registrations name with
  | some flag =>
      rw [hrecorded] at hflag
      rw [hasChildren_of_known hflag]
      rfl
  | none =>
      rw [hrecorded] at hflag
      rw [hasChildren_of_none hflag]
      have hslot := h.functions name
      cases hf : registry.functions.get? name with
      | none =>
          rw [hf] at hslot
          rw [Option.map_eq_none_iff.1 hslot.symm]
          rfl
      | some slot =>
          rw [hf] at hslot
          cases slot with
          | pending pending =>
              cases hc : current? registrations name with
              | none => simp [hc] at hslot
              | some handler => simp [hc, Slot.handler?] at hslot
          | live handler =>
              cases hc : current? registrations name with
              | none => simp [hc] at hslot
              | some current =>
                  obtain rfl : handler.handler = current := by
                    simpa [hc, Slot.handler?] using hslot
                  simp only [function, hf, ask, h.asked]
                  rfl

/-- **The answer is the one that is due exactly if the flag on record is**, if there is one. -/
theorem hasChildren_due_iff (registrations : List Registration) (name : String) :
    ((run (registrations.map Registration.operation)).hasChildren name).1
        = .ok (due registrations name) ↔
      ∀ flag, recorded? registrations name = some flag → flag = due registrations name := by
  rw [(reflects_run registrations).hasChildren name, Except.ok.injEq]
  cases hrecorded : recorded? registrations name with
  | some flag => simp
  | none =>
      -- a current handler that fixes a flag would have put it on record
      refine iff_of_true ?_ fun flag h => by cases h
      unfold due
      cases hc : current? registrations name with
      | none => rfl
      | some handler =>
          cases hfix : handler.fixes name with
          | none =>
              simp only [hfix]
              rfl
          | some flag =>
              have hsome := recorded?_isSome registrations hc (by rw [hfix]; rfl)
              rw [hrecorded] at hsome
              cases hsome

/-- A handler that fixes that its tag `a` has no children. -/
def childless : FunctionHandler :=
  ⟨["a"], [("a", false)], FunctionHandler.always false, .nothing⟩

/-- **A flag outlives its handler**: the tag `a`, which nothing serves any more, is said to have no
children. The handler fixes flags of its own tags only, and it does not count. -/
theorem not_hasChildren_due_unbound :
    childless.Pure ∧ (∀ entry ∈ childless.childTags, entry.1 ∈ childless.names) ∧
      current? [.bindAll childless, .unbind "a"] "a" = none ∧
      due [.bindAll childless, .unbind "a"] "a" = true ∧
      ((run ([.bindAll childless, .unbind "a"].map Registration.operation)).hasChildren "a").1
        = .ok false := by
  refine ⟨fun _ _ => rfl, by decide, by decide, by decide, by decide⟩

end Registry

end TextTemplate
