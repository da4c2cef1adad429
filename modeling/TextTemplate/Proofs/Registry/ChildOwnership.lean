import TextTemplate.Node.Build
import TextTemplate.Proofs.Registry.Run

set_option autoImplicit false

/-! # Whether a tag has children, asked twice

The builder asks at the opening tag and again at the end tag. The first question may load a handler,
and the flags which that handler fixes are known only from then on. So the second answer can differ
from the first: a handler that is loaded to be asked itself has the flag it fixes passed over the
first time, but not the second time.

`Registry.Steady` says, from the tables and the handlers alone, when nothing of the kind happens.
Main statement: `ownsChildren_steady_iff`, behind every run both answers are the same, and the flag
of the handler that serves the tag if that fixes one, **exactly** for a tag that is steady. -/

namespace TextTemplate

/-- The handler fixes no other answer for the tag. -/
def FunctionHandler.Allows (handler : FunctionHandler) (tag : String) (answer : Bool) : Prop :=
  ∀ flag, handler.fixes tag = some flag → flag = answer

namespace Registry

/-! ## The question -/

/-- Whether a tag has children, with a handler that cannot be loaded taken for a yes. -/
def ownsChildren (registry : Registry) (name : String) : Bool × Registry :=
  match registry.hasChildren name with
  | (.ok answer, registry) => (answer, registry)
  | (.error _, registry) => (true, registry)

/-- This is the question that the builder asks. -/
theorem ownsChildren_builder (builder : Builder) (name : String) :
    ((builder.ownsChildren name).1, (builder.ownsChildren name).2.registry)
      = builder.registry.ownsChildren name := by
  unfold Builder.ownsChildren ownsChildren
  cases builder.registry.hasChildren name with
  | mk result behind =>
      cases result with
      | ok answer => rfl
      | error problem => rfl

theorem ownsChildren_snd (registry : Registry) (name : String) :
    (registry.ownsChildren name).2 = registry.apply (.hasChildren name) := by
  show _ = (registry.hasChildren name).2
  unfold ownsChildren
  cases registry.hasChildren name with
  | mk result behind =>
      cases result with
      | ok answer => rfl
      | error problem => rfl

/-- A flag that is known answers. -/
theorem ownsChildren_of_known {registry : Registry} {name : String} {flag : Bool}
    (h : registry.childFlags.get? name = some (.known flag)) :
    registry.ownsChildren name = (flag, registry) := by
  rw [ownsChildren, hasChildren_of_known h]

/-- Without a flag the handler answers, which is loaded if need be. -/
theorem ownsChildren_of_none {registry : Registry} {name : String}
    (h : registry.childFlags.get? name = none) :
    registry.ownsChildren name =
      match registry.functions.get? name with
      | none => (true, registry)
      | some (.live handler) => registry.ask handler name
      | some (.pending pending) =>
        match registry.product? pending with
        | none => (true, registry.withoutMade pending)
        | some made => (registry.withMade pending made).ask ⟨registry.fresh, made⟩ name := by
  rw [ownsChildren, hasChildren_of_none h]
  cases hf : registry.functions.get? name with
  | none => rfl
  | some slot =>
      cases slot with
      | live handler => simp only [function, hf]
      | pending pending =>
          simp only [function, hf, loadFunctions_eq]
          cases registry.product? pending with
          | none => rfl
          | some made => rfl

/-- A flag that waits makes the registry load, and then the question is asked again. -/
theorem ownsChildren_of_pending {registry : Registry} (hd : registry.Distinct) {name : String}
    {pending : Pending} (h : registry.childFlags.get? name = some (.pending pending)) :
    registry.ownsChildren name =
      match registry.product? pending with
      | none => (true, registry.withoutMade pending)
      | some made => (registry.withMade pending made).ownsChildren name := by
  rw [ownsChildren, hasChildren_of_pending hd h]
  cases registry.product? pending with
  | none => rfl
  | some made => rfl

/-! ## Who serves a tag -/

/-- The handler that serves a tag, made for this purpose if need be. -/
def server? (registry : Registry) (name : String) : Option FunctionHandler :=
  match registry.functions.get? name with
  | some (.live handler) => some handler.handler
  | some (.pending pending) => registry.product? pending
  | none => none

/-- Whether the descriptor decides who serves the tag once it is used: the tag waits for it, or its
handler takes the tag over. -/
def decides (registry : Registry) (pending : Pending) (name : String) : Bool :=
  (registry.functions.get? name).any (·.waitsFor pending.id) ||
    (registry.product? pending).any (name ∈ ·.names)

/-- The handler that serves a tag once a descriptor was used. -/
def serverBehind? (registry : Registry) (pending : Pending) (name : String) :
    Option FunctionHandler :=
  if registry.decides pending name then registry.product? pending else registry.server? name

theorem server?_withMade {registry : Registry} {pending : Pending} {made : FunctionHandler}
    (h : registry.product? pending = some made) (name : String) :
    (registry.withMade pending made).server? name = registry.serverBehind? pending name := by
  rw [serverBehind?, decides, h, server?, functions_withMade, server?]
  by_cases hn : name ∈ made.names
  · simp [hn]
  · cases registry.functions.get? name with
    | none => simp [hn]
    | some slot =>
        cases slot with
        | live handler => simp [hn, Slot.waitsFor]
        | pending other =>
            by_cases hw : other.id = pending.id
            · simp [hn, Slot.waitsFor, hw]
            · have hother := product?_congr (loaders_withMade registry pending made) other
              simp [hn, Slot.waitsFor, hw, hother]

theorem server?_withoutMade {registry : Registry} (hd : registry.Distinct) {pending : Pending}
    (h : registry.product? pending = none) (name : String) :
    (registry.withoutMade pending).server? name = registry.serverBehind? pending name := by
  rw [serverBehind?, decides, h, server?, functions_withoutMade hd.functions, server?]
  cases registry.functions.get? name with
  | none => simp
  | some slot =>
      cases slot with
      | live handler => simp [Slot.waitsFor, Option.filter]
      | pending other =>
          by_cases hw : other.id = pending.id
          · simp [Slot.waitsFor, hw, Option.filter]
          · have hother := product?_congr (loaders_withoutMade registry pending) other
            simp [Slot.waitsFor, hw, Option.filter, hother]

/-- A tag that waits for a descriptor is served by what that makes. -/
theorem serverBehind?_of_pending {registry : Registry} {pending : Pending} {name : String}
    (h : registry.functions.get? name = some (.pending pending)) :
    registry.serverBehind? pending name = registry.server? name := by
  simp [serverBehind?, decides, server?, h, Slot.waitsFor]

/-- The lookup of a tag finds the handler that serves it. -/
theorem function_eq_ok_iff (registry : Registry) (name : String) (handler : FunctionHandler) :
    (∃ live, (registry.function name).1 = .ok live ∧ live.handler = handler) ↔
      registry.server? name = some handler := by
  unfold function server?
  cases registry.functions.get? name with
  | none => simp
  | some slot =>
      cases slot with
      | live live => simp
      | pending pending =>
          simp only [loadFunctions_eq]
          cases registry.product? pending with
          | none => simp
          | some made => simp

/-! ## Handlers that do not count -/

/-- **Every handler at hand answers the same question always the same**: those that are registered,
and those that the loaders make. -/
structure Pure (registry : Registry) : Prop where
  live : ∀ name handler, registry.functions.get? name = some (.live handler) → handler.handler.Pure
  made : ∀ name factory parameter handler, registry.loaders.get? name = some factory →
    factory parameter = some (.function handler) → handler.Pure

/-- An operation brings in no handler that counts. -/
def Operation.Pure : Operation → Prop
  | .registerFunction _ handler | .registerFunctions handler => handler.Pure
  | .registerLoader _ factory =>
    ∀ parameter handler, factory parameter = some (.function handler) → handler.Pure
  | _ => True

theorem Pure.product? {registry : Registry} (h : registry.Pure) {pending : Pending}
    {made : FunctionHandler} (hp : registry.product? pending = some made) : made.Pure := by
  obtain ⟨factory, hf, hm⟩ := product?_eq_some_iff.1 hp
  exact h.made _ factory _ made hf hm

/-- A registry with the same loaders is as good as its new handlers of tags. -/
theorem Pure.of_functions {registry registry' : Registry} (h : registry.Pure)
    (hl : registry'.loaders = registry.loaders)
    (hf : ∀ name handler, registry'.functions.get? name = some (.live handler) →
      handler.handler.Pure ∨ registry.functions.get? name = some (.live handler)) :
    registry'.Pure := by
  refine ⟨fun name handler hn => ?_, fun name factory parameter handler hn => ?_⟩
  · rcases hf name handler hn with hp | hn
    · exact hp
    · exact h.live name handler hn
  · rw [hl] at hn
    exact h.made name factory parameter handler hn

theorem Pure.withoutMade {registry : Registry} (hd : registry.Distinct) (h : registry.Pure)
    (pending : Pending) : (registry.withoutMade pending).Pure := by
  refine h.of_functions rfl fun n handler hn => .inr ?_
  rw [functions_withoutMade hd.functions, Option.filter_eq_some_iff] at hn
  exact hn.1

theorem Pure.withMade {registry : Registry} (h : registry.Pure) {pending : Pending}
    {made : FunctionHandler} (hp : registry.product? pending = some made) :
    (registry.withMade pending made).Pure := by
  have hmade := h.product? hp
  refine h.of_functions rfl fun n handler hn => ?_
  rw [functions_withMade] at hn
  split at hn
  · cases hn
    exact .inl hmade
  · obtain ⟨slot, hslot, he⟩ := Option.map_eq_some_iff.1 hn
    split at he
    · cases he
      exact .inl hmade
    · exact .inr (he ▸ hslot)

theorem Pure.loadFunctions {registry : Registry} (hd : registry.Distinct) (h : registry.Pure)
    (name : String) (pending : Pending) : (registry.loadFunctions name pending).2.Pure := by
  rw [loadFunctions_eq]
  cases hp : registry.product? pending with
  | none => exact h.withoutMade hd pending
  | some made => exact h.withMade hp

/-- **No operation brings in a handler that counts**, if it does not itself. -/
theorem Pure.apply {registry : Registry} (hd : registry.Distinct) (h : registry.Pure)
    {operation : Operation} (ho : operation.Pure) : (registry.apply operation).Pure := by
  cases operation with
  | registerFunction name handler =>
      refine h.of_functions rfl fun n live hn => ?_
      have hset : (registry.functions.set name (.live ⟨registry.fresh, handler⟩)).get? n
          = some (.live live) := hn
      rw [Table.get?_set] at hset
      split at hset
      · cases hset
        exact .inl ho
      · exact .inr hset
  | registerFunctions handler =>
      refine h.of_functions rfl fun n live hn => ?_
      have hset : (registry.functions.setAll (handler.names.map fun name =>
          (name, .live ⟨registry.fresh, handler⟩))).get? n = some (.live live) := hn
      rw [Table.get?_setAll, Table.get?_ofList_map_const] at hset
      split at hset
      · cases hset
        exact .inl ho
      · exact .inr hset
  | registerAutoloadFunctions definition =>
      refine orElse_induction h fun registry' hr => ?_
      obtain ⟨descriptor, -, rfl⟩ := registerAutoloadFunctions_ok hr
      refine h.of_functions rfl fun n live hn => .inr ?_
      have hset : (registry.functions.setAll (descriptor.names.map fun name =>
          (name, .pending ⟨registry.fresh, descriptor⟩))).get? n = some (.live live) := hn
      rw [Table.get?_setAll, Table.get?_ofList_map_const] at hset
      split at hset
      · cases hset
      · exact hset
  | registerLoader name factory =>
      refine ⟨h.live, fun n factory' parameter handler hn hm => ?_⟩
      have hset : (registry.loaders.set name factory).get? n = some factory' := hn
      rw [Table.get?_set] at hset
      split at hset
      · cases hset
        exact ho parameter handler hm
      · exact h.made n factory' parameter handler hset hm
  | unregisterFunction name =>
      refine orElse_induction h fun registry' hr => ?_
      rw [unregisterFunction_ok hr]
      refine h.of_functions rfl fun n live hn => .inr ?_
      have herase : (registry.functions.erase name).get? n = some (.live live) := hn
      rw [Table.erase, Table.get?_filter hd.functions, Option.filter_eq_some_iff] at herase
      exact herase.1
  | function name =>
      refine (function_induction (P := fun r => r.Distinct ∧ r.Pure) ⟨hd, h⟩ ?_ name).2
      rintro registry name pending ⟨hd, h⟩
      exact ⟨hd.loadFunctions name pending, h.loadFunctions hd name pending⟩
  | hasChildren name =>
      refine (hasChildren_induction (P := fun r => r.Distinct ∧ r.Pure) ⟨hd, h⟩ ?_ ?_ name).2
      · rintro registry name pending ⟨hd, h⟩
        exact ⟨hd.loadFunctions name pending, h.loadFunctions hd name pending⟩
      · rintro registry handler name ⟨hd, h⟩
        exact ⟨⟨hd.functions, hd.operators, hd.childFlags⟩, h.live, h.made⟩
  | registerLiteral name =>
      show (registry.registerLiteral name).Pure
      unfold registerLiteral
      split
      · exact h
      · exact ⟨h.live, h.made⟩
  | registerAutoloadOperators definition =>
      refine orElse_induction h fun registry' hr => ?_
      obtain ⟨descriptor, -, rfl⟩ := registerAutoloadOperators_ok hr
      exact ⟨h.live, h.made⟩
  | unregisterOperator name =>
      refine orElse_induction h fun registry' hr => ?_
      rw [unregisterOperator_ok hr]
      exact ⟨h.live, h.made⟩
  | operator name =>
      refine operator_induction h (fun registry name pending h => ?_) name
      obtain ⟨hf, -, hl⟩ := loadOperators_frame registry name pending
      exact h.of_functions hl fun n live hn => .inr (hf ▸ hn)
  | registerOperator name handler => exact ⟨h.live, h.made⟩
  | registerOperators handler => exact ⟨h.live, h.made⟩
  | unregisterLiteral name => exact ⟨h.live, h.made⟩

/-- **Behind a run** names are distinct and no handler counts. -/
theorem pure_run {operations : List Operation} (h : ∀ operation ∈ operations, operation.Pure) :
    (run operations).Distinct ∧ (run operations).Pure := by
  refine run_induction (P := fun r => r.Distinct ∧ r.Pure) ⟨distinct_fresh, ?_, ?_⟩
    fun operation ho registry hr => ?_
  · intro name handler hn
    cases hn
  · intro name factory parameter handler hn
    cases hn
  · exact ⟨hr.1.apply operation, hr.2.apply hr.1 (h operation ho)⟩

/-! ## Steady tags -/

/-- The answer for a tag whose flag does not wait: the flag, or else the answer of the handler. -/
def answer (registry : Registry) (name : String) : Bool :=
  match registry.childFlags.get? name with
  | some (.known flag) => flag
  | _ => ((registry.server? name).map fun handler => handler.owns 0 name).getD true

/-- **No answer that was given is overruled.** The flag that the handler of a tag fixes, if it fixes
one, must be the answer of whatever comes first in the lookup:

* the known flag of the tag;
* without a flag, the handler itself, asked about the tag;
* if the flag waits for a descriptor, the flag that the handler made for it fixes, or else again the
  handler of the tag;
* if that handler cannot be made, a yes, which must also be the answer of whoever serves the tag
  then. -/
def Steady (registry : Registry) (name : String) : Prop :=
  match registry.childFlags.get? name with
  | some (.known flag) => ∀ handler, registry.server? name = some handler → handler.Allows name flag
  | none => ∀ handler, registry.server? name = some handler →
      handler.Allows name (handler.owns 0 name)
  | some (.pending pending) =>
    match registry.product? pending with
    | some made => ∀ handler, registry.serverBehind? pending name = some handler →
        handler.Allows name ((made.fixes name).getD (handler.owns 0 name))
    | none => ∀ handler, registry.serverBehind? pending name = some handler →
        handler.owns 0 name = true ∧ handler.Allows name true

/-- Two questions in a row have **one answer**, and it is the flag of the handler that serves the
tag then, if that fixes one. -/
def AnswersStably (registry : Registry) (name : String) : Prop :=
  let first := registry.ownsChildren name
  let second := first.2.ownsChildren name
  first.1 = second.1 ∧
    ∀ handler, (second.2.function name).1 = .ok handler →
      ∀ flag, handler.handler.fixes name = some flag → first.1 = flag ∧ second.1 = flag

/-! ### Flags that do not wait -/

/-- **A question that the tables answer.** It leaves the tag its handler, and the only flag that can
come up is one that this handler fixes, if it was loaded to answer. -/
structure AnsweredByTables (registry : Registry) (name : String) : Prop where
  answer_eq : (registry.ownsChildren name).1 = registry.answer name
  server_eq : (registry.ownsChildren name).2.server? name = registry.server? name
  flag : (registry.ownsChildren name).2.childFlags.get? name = registry.childFlags.get? name ∨
    registry.childFlags.get? name = none ∧
      ∃ handler, registry.server? name = some handler ∧
        (registry.ownsChildren name).2.childFlags.get? name = (handler.fixes name).map .known

/-- The case of a tag that waits for its handler. -/
theorem answeredByTables_of_waiting {registry : Registry} (hd : registry.Distinct)
    (hp : registry.Pure) {name : String} {pending : Pending}
    (hflag : registry.childFlags.get? name = none)
    (hslot : registry.functions.get? name = some (.pending pending)) :
    registry.AnsweredByTables name := by
  have howns := ownsChildren_of_none hflag
  have hserver : registry.server? name = registry.product? pending := by rw [server?, hslot]
  have hanswer : registry.answer name
      = ((registry.product? pending).map fun handler => handler.owns 0 name).getD true := by
    rw [answer, hflag, hserver]
  cases hmade : registry.product? pending with
  | none =>
      simp only [hslot, hmade] at howns
      refine ⟨?_, ?_, .inl ?_⟩
      · rw [howns, hanswer, hmade]
        rfl
      · rw [howns]
        calc (registry.withoutMade pending).server? name
            = registry.serverBehind? pending name := server?_withoutMade hd hmade name
          _ = registry.server? name := serverBehind?_of_pending hslot
      · rw [howns]
        show (registry.withoutMade pending).childFlags.get? name = _
        rw [childFlags_withoutMade hd.childFlags, hflag]
        rfl
  | some made =>
      simp only [hslot, hmade] at howns
      refine ⟨?_, ?_, .inr ⟨hflag, made, ?_, ?_⟩⟩
      · rw [howns, hanswer, hmade]
        exact hp.product? hmade _ name
      · rw [howns]
        calc (registry.withMade pending made).server? name
            = registry.serverBehind? pending name := server?_withMade hmade name
          _ = registry.server? name := serverBehind?_of_pending hslot
      · rw [hserver, hmade]
      · rw [howns]
        show (registry.withMade pending made).childFlags.get? name = _
        rw [childFlags_withMade hd.childFlags, hflag]
        cases made.fixes name with
        | none => rfl
        | some flag => rfl

theorem answeredByTables {registry : Registry} (hd : registry.Distinct) (hp : registry.Pure)
    {name : String} (hs : ∀ pending, registry.childFlags.get? name ≠ some (.pending pending)) :
    registry.AnsweredByTables name := by
  cases hflag : registry.childFlags.get? name with
  | some flag =>
      cases flag with
      | pending pending => exact absurd hflag (hs pending)
      | known flag =>
          have howns := ownsChildren_of_known hflag
          refine ⟨?_, by rw [howns], .inl (by rw [howns])⟩
          rw [howns, answer, hflag]
  | none =>
      have howns := ownsChildren_of_none hflag
      cases hslot : registry.functions.get? name with
      | none =>
          simp only [hslot] at howns
          refine ⟨?_, by rw [howns], .inl (by rw [howns])⟩
          rw [howns, answer, hflag, server?, hslot]
          rfl
      | some slot =>
          cases slot with
          | live handler =>
              simp only [hslot] at howns
              -- the question is counted, which nothing here depends on
              refine ⟨?_, by rw [howns]; rfl, .inl (by rw [howns]; rfl)⟩
              rw [howns, answer, hflag, server?, hslot]
              exact hp.live name handler hslot _ name
          | pending pending => exact answeredByTables_of_waiting hd hp hflag hslot

/-- The answers in terms of the tables behind both questions. -/
theorem answersStably_iff (registry : Registry) (name : String) :
    registry.AnswersStably name ↔
      (registry.ownsChildren name).1 = ((registry.ownsChildren name).2.ownsChildren name).1 ∧
        ∀ handler,
          ((registry.ownsChildren name).2.ownsChildren name).2.server? name = some handler →
            handler.Allows name (registry.ownsChildren name).1 := by
  constructor
  · rintro ⟨hsame, hflags⟩
    refine ⟨hsame, fun handler hserver flag hfix => ?_⟩
    obtain ⟨live, hlive, rfl⟩ := (function_eq_ok_iff _ name handler).2 hserver
    exact (hflags live hlive flag hfix).1.symm
  · rintro ⟨hsame, hallows⟩
    refine ⟨hsame, fun live hlive flag hfix => ?_⟩
    have hserver := (function_eq_ok_iff _ name live.handler).1 ⟨live, hlive, rfl⟩
    have hflag := hallows live.handler hserver flag hfix
    exact ⟨hflag.symm, hsame ▸ hflag.symm⟩

/-- **For a flag that does not wait**, the handler of the tag must allow the answer. -/
theorem answersStably_of_settled {registry : Registry} (hd : registry.Distinct) (hp : registry.Pure)
    {name : String} (hs : ∀ pending, registry.childFlags.get? name ≠ some (.pending pending)) :
    registry.AnswersStably name ↔
      ∀ handler, registry.server? name = some handler →
        handler.Allows name (registry.answer name) := by
  obtain ⟨hfirst, hserver, hflag⟩ := answeredByTables hd hp hs
  have hd' : (registry.ownsChildren name).2.Distinct := by
    rw [ownsChildren_snd]
    exact hd.apply _
  have hp' : (registry.ownsChildren name).2.Pure := by
    rw [ownsChildren_snd]
    exact hp.apply hd trivial
  -- the first answer leaves no flag that waits, so the tables answer the second question too
  have hs' : ∀ pending,
      (registry.ownsChildren name).2.childFlags.get? name ≠ some (.pending pending) := by
    intro pending h
    rcases hflag with hsame | ⟨-, handler, -, hfix⟩
    · exact hs pending (hsame ▸ h)
    · rw [hfix] at h
      obtain ⟨flag, -, he⟩ := Option.map_eq_some_iff.1 h
      cases he
  obtain ⟨hsecond, hserver', -⟩ := answeredByTables hd' hp' hs'
  rw [answersStably_iff, hfirst, hsecond, hserver', hserver]
  refine ⟨fun h => h.2, fun h => ⟨?_, h⟩⟩
  rcases hflag with hsame | ⟨hnone, handler, hhandler, hfix⟩
  · rw [answer, answer, hsame, hserver]
  · -- a flag has come up, and it is that of the handler which gave the first answer
    have hanswer : registry.answer name = handler.owns 0 name := by
      rw [answer, hnone, hhandler]
      rfl
    have hallows := h handler hhandler
    rw [hanswer] at hallows ⊢
    rw [answer, hfix, hserver, hhandler]
    cases hf : handler.fixes name with
    | none => rfl
    | some flag => exact (hallows flag hf).symm

/-! ### Flags that wait -/

/-- A flag that waits is gone or known behind the load. -/
theorem answer_withMade {registry : Registry} (hd : registry.Distinct) {pending : Pending}
    (made : FunctionHandler) {name : String}
    (hflag : registry.childFlags.get? name = some (.pending pending)) :
    (∀ other, (registry.withMade pending made).childFlags.get? name ≠ some (.pending other)) ∧
      ∀ handler, (registry.withMade pending made).server? name = some handler →
        (registry.withMade pending made).answer name
          = (made.fixes name).getD (handler.owns 0 name) := by
  have hview := childFlags_withMade_of_waiting hd.childFlags hflag made
  constructor
  · intro other h
    rw [h] at hview
    cases hfix : made.fixes name with
    | none => simp [hfix] at hview
    | some flag => simp [hfix] at hview
  · intro handler hserver
    rw [answer, hview, hserver]
    cases hfix : made.fixes name with
    | none => rfl
    | some flag => rfl

theorem answersStably_of_made {registry : Registry} (hd : registry.Distinct) (hp : registry.Pure)
    {name : String} {pending : Pending} {made : FunctionHandler}
    (hflag : registry.childFlags.get? name = some (.pending pending))
    (hmade : registry.product? pending = some made) :
    registry.AnswersStably name ↔
      ∀ handler, registry.serverBehind? pending name = some handler →
        handler.Allows name ((made.fixes name).getD (handler.owns 0 name)) := by
  have howns : registry.ownsChildren name = (registry.withMade pending made).ownsChildren name := by
    rw [ownsChildren_of_pending hd hflag, hmade]
  obtain ⟨hs, hanswer⟩ := answer_withMade hd made hflag
  have hsettled := answersStably_of_settled (hd.withMade pending made) (hp.withMade hmade) hs
  rw [AnswersStably, howns]
  refine hsettled.trans ?_
  rw [← server?_withMade hmade]
  constructor
  · intro h handler hserver
    rw [← hanswer handler hserver]
    exact h handler hserver
  · intro h handler hserver
    rw [hanswer handler hserver]
    exact h handler hserver

theorem answersStably_of_not_made {registry : Registry} (hd : registry.Distinct)
    (hp : registry.Pure) {name : String} {pending : Pending}
    (hflag : registry.childFlags.get? name = some (.pending pending))
    (hmade : registry.product? pending = none) :
    registry.AnswersStably name ↔
      ∀ handler, registry.serverBehind? pending name = some handler →
        handler.owns 0 name = true ∧ handler.Allows name true := by
  have howns : registry.ownsChildren name = (true, registry.withoutMade pending) := by
    rw [ownsChildren_of_pending hd hflag, hmade]
  have hnone : (registry.withoutMade pending).childFlags.get? name = none := by
    rw [childFlags_withoutMade hd.childFlags, hflag]
    simp [ChildFlag.waitsFor, Option.filter]
  -- the flag is gone, so the second question goes to whoever serves the tag now
  have hs' : ∀ other,
      (registry.withoutMade pending).childFlags.get? name ≠ some (.pending other) := by
    intro other h
    rw [hnone] at h
    cases h
  obtain ⟨hsecond, hserver, -⟩ :=
    answeredByTables (hd.withoutMade pending) (hp.withoutMade hd pending) hs'
  rw [answersStably_iff, howns, hsecond, hserver, server?_withoutMade hd hmade, answer, hnone,
    server?_withoutMade hd hmade]
  cases registry.serverBehind? pending name with
  | none => simp
  | some handler =>
      constructor
      · rintro ⟨hsame, hallows⟩ other hother
        cases hother
        exact ⟨hsame.symm, hallows handler rfl⟩
      · intro h
        obtain ⟨howns, hallows⟩ := h handler rfl
        refine ⟨howns.symm, fun other hother => ?_⟩
        cases hother
        exact hallows

/-! ### Every run -/

/-- **Two questions in a row have one answer, and it is the flag of the handler that serves the tag,
exactly for a steady tag**: behind every run whose handlers do not count. -/
theorem ownsChildren_steady_iff (operations : List Operation)
    (hpure : ∀ operation ∈ operations, operation.Pure) (name : String) :
    (run operations).AnswersStably name ↔ (run operations).Steady name := by
  obtain ⟨hd, hp⟩ := pure_run hpure
  unfold Steady
  cases hflag : (run operations).childFlags.get? name with
  | none =>
      rw [answersStably_of_settled hd hp (by simp [hflag]), answer, hflag]
      cases (run operations).server? name with
      | none => simp
      | some handler => simp
  | some flag =>
      cases flag with
      | known flag =>
          rw [answersStably_of_settled hd hp (by simp [hflag]), answer, hflag]
      | pending pending =>
          cases hmade : (run operations).product? pending with
          | none =>
              simp only [hmade]
              exact answersStably_of_not_made hd hp hflag hmade
          | some made =>
              simp only [hmade]
              exact answersStably_of_made hd hp hflag hmade

/-- A handler of the tag `a` that denies children itself and fixes that there are some. -/
def selfContradicting : FunctionHandler :=
  ⟨["a"], [("a", true)], FunctionHandler.always false, .nothing⟩

/-- That handler behind a loader, and a definition that announces it with or without its flag. -/
def announcing (childTags : List String) : List Operation :=
  [.registerLoader "L" fun _ => some (.function selfContradicting),
    .registerAutoloadFunctions ⟨some "L", none, none, none, ["a"], childTags⟩]

theorem pure_announcing (childTags : List String) :
    ∀ operation ∈ announcing childTags, operation.Pure := by
  intro operation ho
  rcases List.mem_pair.1 ho with rfl | rfl
  · rintro parameter handler h
    cases h
    exact fun _ _ => rfl
  · trivial

/-- If the flag is announced, the first question loads the handler and answers with its flag. -/
theorem answersStably_announced :
    (∀ operation ∈ announcing ["a"], operation.Pure) ∧ (run (announcing ["a"])).AnswersStably "a" ∧
      ((run (announcing ["a"])).ownsChildren "a").1 = true := by
  refine ⟨pure_announcing _, (ownsChildren_steady_iff _ (pure_announcing _) "a").2 ?_, by decide⟩
  intro handler hserver flag hfix
  obtain rfl : selfContradicting = handler := Option.some.inj hserver
  obtain rfl : true = flag := Option.some.inj hfix
  rfl

/-- **If it is not announced**, the first question loads the handler and passes its flag over. -/
theorem not_answersStably_unannounced :
    (∀ operation ∈ announcing [], operation.Pure) ∧
      ((run (announcing [])).ownsChildren "a").1 = false ∧
      (((run (announcing [])).ownsChildren "a").2.ownsChildren "a").1 = true ∧
      ¬ (run (announcing [])).AnswersStably "a" := by
  refine ⟨pure_announcing _, by decide, by decide, fun h => ?_⟩
  exact absurd h.1 (by decide)

end Registry

end TextTemplate
