import TextTemplate.CommandLine
import TextTemplate.Proofs.Render.Plain

set_option autoImplicit false

/-! # Bindings are read back

A binding of the command line names its variable by a path, and a template refers to a variable by a path. The
two are taken apart by different readers: the command line cuts the characters at the last colon, the parser
puts together lexemes and cuts them there. Both find the same variable (`resolve_path_eq_splitTarget`), also if
names are empty, start with digits or consist of minus signs.

Main statement: `CommandLine.render_binding`. -/

namespace TextTemplate

namespace CommandLine

/-! ## Bindings one after the other -/

/-- The variable that a binding sets, and the value it is set to. -/
def assignment? (binding : String) : Option ((String × String) × Value) :=
  (Text.splitFirst? ['='] binding.toList).map fun cut =>
    (splitTarget cut.1, valueOf (String.ofList cut.2))

theorem bind?_eq (engine : Engine) (binding : String) :
    bind? engine binding = (assignment? binding).map fun assignment =>
      engine.setVariable assignment.1.1 assignment.1.2 assignment.2 := by
  rw [bind?, assignment?, Option.map_map]
  rfl

/-- The first equals sign ends the variable. -/
theorem assignment?_append {target : String} (h : '=' ∉ target.toList) (text : String) :
    assignment? (target ++ "=" ++ text) = some (splitTarget target.toList, valueOf text) := by
  have hsplit : Text.splitFirst? ['='] (target ++ "=" ++ text).toList
      = some (target.toList, text.toList) :=
    Text.splitFirst?_eq_some_iff.2 ⟨by simp, Text.firstAt_singleton h text.toList⟩
  rw [assignment?, hsplit, Option.map_some, String.ofList_toList]

theorem exists_assignment {binding : String} (h : '=' ∈ binding.toList) :
    ∃ assignment, assignment? binding = some assignment := by
  cases hsplit : Text.splitFirst? ['='] binding.toList with
  | none =>
      have hinfix := Text.splitFirst?_eq_none_iff.1 hsplit
      exact absurd ((List.singleton_infix_iff _ _).2 h) hinfix
  | some cut => exact ⟨_, by rw [assignment?, hsplit]; rfl⟩

theorem bindAll_append {engine middle : Engine} {before : List String}
    (h : bindAll engine before = .ok middle) (after : List String) :
    bindAll engine (before ++ after) = bindAll middle after := by
  induction before generalizing engine with
  | nil =>
      obtain rfl : engine = middle := Except.ok.inj h
      rfl
  | cons binding before ih =>
      rw [List.cons_append, bindAll]
      rw [bindAll] at h
      cases hbind : bind? engine binding with
      | none =>
          rw [hbind] at h
          cases h
      | some bound =>
          rw [hbind] at h
          exact ih h

/-- **Bindings with an equals sign are all carried out.** They change variables only, and only those that they
name. -/
theorem exists_bindAll {bindings : List String} (h : ∀ binding ∈ bindings, '=' ∈ binding.toList)
    (engine : Engine) :
    ∃ store, bindAll engine bindings = .ok { engine with store } ∧
      ∀ target : String × String,
        (∀ binding ∈ bindings, (assignment? binding).map Prod.fst ≠ some target) →
          store.get? target.1 target.2 = engine.store.get? target.1 target.2 := by
  induction bindings generalizing engine with
  | nil => exact ⟨engine.store, rfl, fun _ _ => rfl⟩
  | cons binding bindings ih =>
      obtain ⟨assignment, hassignment⟩ := exists_assignment (h binding List.mem_cons_self)
      obtain ⟨store, hbind, hframe⟩ := ih (fun other ho => h other (List.mem_cons_of_mem _ ho))
        (engine.setVariable assignment.1.1 assignment.1.2 assignment.2)
      refine ⟨store, ?_, fun target hother => ?_⟩
      · rw [bindAll, bind?_eq, hassignment]
        exact hbind
      · have hne : ¬ (assignment.1.1 = target.1 ∧ assignment.1.2 = target.2) := fun heq =>
          hother binding List.mem_cons_self (by rw [hassignment, ← Prod.ext heq.1 heq.2]; rfl)
        rw [hframe target fun other ho => hother other (List.mem_cons_of_mem _ ho),
          Engine.setVariable, Store.get?_set, if_neg hne]

/-! ## One path, two readers -/

/-- **The parser finds the variable that the command line sets**, for every row of names and colons. -/
theorem resolve_path_eq_splitTarget {target : List Char}
    (h : ∀ c ∈ target, Token.isPathChar c = true) :
    (resolveSpace "" (Parser.path "" (Token.lexemesFrom 0 target)).1,
      (Parser.path "" (Token.lexemesFrom 0 target)).2) = splitTarget target := by
  rw [Parser.path_lexemesFrom h, splitTarget]
  cases Text.splitLast? ':' target with
  | none => rfl
  | some cut => rfl

/-- No text of the command line stands for an object, and a number is displayed as it is written. -/
theorem display_valueOf (text : String) :
    (valueOf text).display = ((Number.ofText? text).map Number.text).getD text := by
  unfold valueOf
  cases Number.ofText? text with
  | none => rfl
  | some number =>
      cases number with
      | integer value => rfl
      | real value => rfl

theorem valueOf_ne_object (text : String) (host : HostObject Value) : valueOf text ≠ .object host := by
  unfold valueOf
  cases Number.ofText? text with
  | none => exact nofun
  | some number =>
      cases number with
      | integer value => exact nofun
      | real value => exact nofun

end CommandLine

/-! ## Templates that are one reference -/

/-- **A reference that is a whole template** shows the value of its variable and changes nothing. -/
theorem Engine.render_path (engine : Engine) (hd : engine.delimiters = .standard) {target : String}
    (htarget : ∀ c ∈ target.toList, Token.isPathChar c = true) {value : Value}
    (hbound : engine.store.get? (CommandLine.splitTarget target.toList).1
      (CommandLine.splitTarget target.toList).2 = some value)
    (hvalue : ∀ host, value ≠ .object host) (source : String) :
    (engine.parse ("\x7b$" ++ target ++ "\x7d") source).2 = engine ∧
      engine.render (engine.parse ("\x7b$" ++ target ++ "\x7d") source).1 = (value.display, engine) := by
  have hsource : ("\x7b$" ++ target ++ "\x7d").toList
      = [] ++ (['{'] ++ ('$' :: target.toList ++ ['}'] ++ [])) := by
    simp
  -- the variable that the binding names is the one that the reference leads to
  rw [← CommandLine.resolve_path_eq_splitTarget htarget] at hbound
  obtain ⟨hopen, hshow⟩ := Piece.shows_path hd htarget hbound hvalue
  have hcut : Piece.cut engine.delimiters ("\x7b$" ++ target ++ "\x7d").toList
      = [.block ('$' :: target.toList)] := by
    rw [hd, hsource, Delimiters.opening_standard.symm, Piece.cut_append (Text.firstAt_nil _ _) (hopen []),
      Piece.cut_of_not_infix (by decide)]
    rfl
  have hshows : List.Forall₂ (Piece.Shows engine)
      (Piece.cut engine.delimiters ("\x7b$" ++ target ++ "\x7d").toList) [value.display] := by
    rw [hcut]
    exact .cons hshow .nil
  have hrender := Engine.parse_of_shows source hshows
  rwa [String.join_cons, String.join_nil, String.append_empty] at hrender

/-- **What the command line binds is read back.** A binding of any row of names and colons to any text, with any
other bindings before it and bindings of other variables behind it, is accepted; and a template that refers to
that row shows the text, or the number if it is a numeral. Nothing is recorded on the way. -/
theorem CommandLine.render_binding (engine : Engine) (hd : engine.delimiters = .standard)
    (before after : List String) (target text : String)
    (hbindings : ∀ binding ∈ before ++ after, '=' ∈ binding.toList)
    (htarget : ∀ c ∈ target.toList, Token.isPathChar c = true)
    (hlast : ∀ binding ∈ after,
      (assignment? binding).map Prod.fst ≠ some (splitTarget target.toList)) :
    ∃ bound, bindAll engine (before ++ (target ++ "=" ++ text) :: after) = .ok bound ∧
      bound.log = engine.log ∧ ∀ source,
        (bound.parse ("\x7b$" ++ target ++ "\x7d") source).2 = bound ∧
          bound.render (bound.parse ("\x7b$" ++ target ++ "\x7d") source).1
            = (((Number.ofText? text).map Number.text).getD text, bound) := by
  have hbefore : ∀ binding ∈ before, '=' ∈ binding.toList := fun binding h =>
    hbindings binding (List.mem_append_left _ h)
  have hafter : ∀ binding ∈ after, '=' ∈ binding.toList := fun binding h =>
    hbindings binding (List.mem_append_right _ h)
  have hequals : '=' ∉ target.toList := fun h => absurd (htarget _ h) (by decide)
  obtain ⟨store, hfirst, -⟩ := exists_bindAll hbefore engine
  let middle := { engine with store }.setVariable (splitTarget target.toList).1
    (splitTarget target.toList).2 (valueOf text)
  obtain ⟨store', hrest, hframe⟩ := exists_bindAll hafter middle
  have hbind : bindAll { engine with store } ((target ++ "=" ++ text) :: after)
      = .ok { middle with store := store' } := by
    rw [bindAll, bind?_eq, assignment?_append hequals]
    exact hrest
  -- later bindings are of other variables, so this one keeps its value
  have hbound : store'.get? (splitTarget target.toList).1 (splitTarget target.toList).2
      = some (valueOf text) := by
    rw [hframe (splitTarget target.toList) hlast]
    exact Store.get?_set_self _ _ _ _
  refine ⟨{ middle with store := store' }, ?_, rfl, fun source => ?_⟩
  · rw [bindAll_append hfirst, hbind]
  · rw [← display_valueOf text]
    exact Engine.render_path { middle with store := store' } hd htarget hbound
      (valueOf_ne_object text) source

/-- An empty segment, a name of digits, minus signs and letters, an earlier binding of the same variable, and a later
one that differs in its namespace only. -/
theorem CommandLine.render_binding_twice :
    Engine.standard.delimiters = .standard ∧
      (∀ binding ∈ ["a::-1b=x"] ++ ["a:-1b=y"], '=' ∈ binding.toList) ∧
      (∀ c ∈ "a::-1b".toList, Token.isPathChar c = true) ∧
      (∀ binding ∈ ["a:-1b=y"],
        (assignment? binding).map Prod.fst ≠ some (splitTarget "a::-1b".toList)) ∧
      ∃ bound, bindAll Engine.standard ["a::-1b=x", "a::-1b=007", "a:-1b=y"] = .ok bound ∧
        bound.log = [] ∧ ∀ source,
          (bound.parse "\x7b$a::-1b\x7d" source).2 = bound ∧
            bound.render (bound.parse "\x7b$a::-1b\x7d" source).1 = ("7", bound) := by
  have hbindings : ∀ binding ∈ ["a::-1b=x"] ++ ["a:-1b=y"], '=' ∈ binding.toList := by decide
  have htarget : ∀ c ∈ "a::-1b".toList, Token.isPathChar c = true :=
    List.all_eq_true.1 (by decide)
  have hlast : ∀ binding ∈ ["a:-1b=y"],
      (assignment? binding).map Prod.fst ≠ some (splitTarget "a::-1b".toList) := by decide
  exact ⟨rfl, hbindings, htarget, hlast,
    render_binding Engine.standard rfl ["a::-1b=x"] ["a:-1b=y"] "a::-1b" "007" hbindings htarget hlast⟩

end TextTemplate
