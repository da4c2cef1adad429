import TextTemplate.Config
import TextTemplate.Render

set_option autoImplicit false

/-! # Sessions

A session works with several engines, one of which is current. Engines can share a tree cache: what one of them
publishes or invalidates, the others see. Trees are kept under names of their own, whichever engine they come from, and
it is remembered whether two names stand for one and the same tree. -/

namespace TextTemplate

/-- An engine of a session. -/
structure Member where
  engine : Engine
  /-- Engines with the same number share their cache. -/
  sharing : Nat
  /-- How many diagnostics have been reported. -/
  reported : Nat
deriving Inhabited

/-- Where a tree comes from. -/
inductive TreeOrigin
  /-- The publication with this number in a shared cache. -/
  | published (sharing number : Nat)
  /-- A text that was parsed, as the tree with this number. -/
  | parsed (number : Nat)
deriving BEq, DecidableEq, Repr

/-- Several engines and the trees kept so far. -/
structure Session where
  members : List Member
  current : Nat
  trees : Table String (TreeOrigin × Tree)
  /-- The next number of a sharing group or a parsed tree. -/
  fresh : Nat

namespace Session

/-- A session with one engine. -/
def start (engine : Engine) : Session := ⟨[⟨engine, 0, 0⟩], 0, ∅, 1⟩

/-- The current member. -/
def member (session : Session) : Member := session.members[session.current]?.getD default

/-- The current engine. -/
def engine (session : Session) : Engine := session.member.engine

/-- Lets every engine that shares the cache of the current one see that cache. -/
def setEngine (session : Session) (engine : Engine) : Session :=
  let sharing := session.member.sharing
  { session with
    members := session.members.mapIdx fun index member =>
      if index = session.current then { member with engine }
      else if member.sharing = sharing then
        { member with engine := { member.engine with cache := engine.cache } }
      else member }

/-- Changes the current engine. -/
def update (session : Session) (change : Engine → Engine) : Session :=
  session.setEngine (change session.engine)

/-- Changes the current engine and answers. -/
def ask {α : Type} (session : Session) (question : Engine → α × Engine) : α × Session :=
  let (answer, engine) := question session.engine
  (answer, session.setEngine engine)

/-- Adds an engine, which shares the cache of the engine `shared` if that is given, and makes it current. -/
def add (session : Session) (engine : Engine) (shared : Option Nat) : Session :=
  let other := shared.bind fun index => session.members[index]?
  let member : Member :=
    match other with
    | some other => ⟨{ engine with cache := other.engine.cache }, other.sharing, 0⟩
    | none => ⟨engine, session.fresh, 0⟩
  { session with
    members := session.members ++ [member]
    current := session.members.length
    fresh := session.fresh + 1 }

/-- Makes another engine current. -/
def select (session : Session) (index : Nat) : Session := { session with current := index }

/-- The diagnostics of the current engine that have not been reported, which are reported now. -/
def report (session : Session) : Log × Session :=
  let log := session.engine.log
  (log.drop session.member.reported, { session with
    members := session.members.mapIdx fun index member =>
      if index = session.current then { member with reported := log.length } else member })

/-- How often the loader `name` was called by any engine. -/
def callsOf (session : Session) (name : String) : Nat :=
  session.members.foldl (fun count member => count + member.engine.registry.callsOf name) 0

/-! ## Trees -/

/-- Parses a text and keeps the tree. -/
def parse (session : Session) (text source name : String) : Tree × Session :=
  let (tree, session) := session.ask fun engine => engine.parse text source
  (tree, { session with
    trees := session.trees.set name (.parsed session.fresh, tree)
    fresh := session.fresh + 1 })

/-- Loads a template and keeps the tree. -/
def load (session : Session) (uri name : String) : Except ResourceProblem Tree × Session :=
  let (result, session) := session.ask fun engine => engine.load uri
  match result with
  | .ok published =>
    (.ok published.tree, { session with
      trees := session.trees.set name
        (.published session.member.sharing published.number, published.tree) })
  | .error problem => (.error problem, session)

/-- Whether two kept trees are one and the same, and whether they have the same nodes. -/
def compare? (session : Session) (name name' : String) : Option (Bool × Bool) := do
  let (origin, tree) ← session.trees.get? name
  let (origin', tree') ← session.trees.get? name'
  return (origin == origin', Node.sameAll tree.nodes tree'.nodes)

/-- Renders a kept tree. -/
def renderTree (session : Session) (name : String) : Option String × Session :=
  match session.trees.get? name with
  | some (_, tree) =>
    let (output, session) := session.ask fun engine => engine.render tree
    (some output, session)
  | none => (none, session)

end Session

end TextTemplate
