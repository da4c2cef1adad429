set_option autoImplicit false

/-! # TOML documents

A TOML document is a list of statements: headers, which choose the table that the following lines fill, and
assignments. `Toml.document?` carries them out one after another on an empty table and refuses a document that
defines something twice. How a table came about decides what may still be added to it: a table that a longer header
merely implied can be given a header of its own, one that dotted keys made can take more values of dotted keys, and an
inline table is complete. -/

namespace TextTemplate

/-- How a table came about. -/
inductive TableOrigin
  /-- It stands in the path of a header. -/
  | implied
  /-- It has a header. -/
  | header
  /-- It stands in a dotted key. -/
  | dotted
  /-- It is written in braces. -/
  | inline
deriving BEq, DecidableEq, Repr

/-- A value of a TOML document. -/
inductive Toml
  | string (value : String)
  /-- A number, a truth value or a time; which one is not kept. -/
  | scalar
  | array (items : List Toml)
  /-- The tables under a header in double brackets, last one first. -/
  | tables (elements : List (List (String × Toml)))
  | table (origin : TableOrigin) (entries : List (String × Toml))

namespace Toml

/-- The entries of a table. -/
abbrev Entries := List (String × Toml)

/-- A statement of a document. -/
inductive Statement
  /-- A header in brackets. -/
  | header (path : List String)
  /-- A header in double brackets. -/
  | element (path : List String)
  /-- An assignment to a key, which may be dotted. -/
  | assign (key : List String) (value : Toml)

/-- Changes the value of a key that is present. -/
def replace (key : String) (value : Toml) (entries : Entries) : Entries :=
  entries.map fun (name, old) => if name = key then (name, value) else (name, old)

/-! ## Statements on tables -/

/-- Assigns a value to a key, which must be new. A dotted key leads through tables that have no header of their own,
which are made as they are needed, and through the last ones of several tables; the table that takes the value must
have been made by a dotted key. -/
def assign (value : Toml) (key : List String) (entries : Entries) : Option Entries :=
  match key with
  | [] => none
  | [last] =>
    match entries.lookup last with
    | none => some (entries ++ [(last, value)])
    | some _ => none
  | first :: rest =>
    match entries.lookup first with
    | none => do
      let inner ← assign value rest []
      some (entries ++ [(first, .table .dotted inner)])
    | some (.table .dotted inner) => do
      let inner ← assign value rest inner
      some (replace first (.table .dotted inner) entries)
    | some (.table .implied inner) => do
      guard (rest.length ≠ 1)
      let inner ← assign value rest inner
      some (replace first (.table .implied inner) entries)
    | some (.tables (inner :: others)) => do
      guard (rest.length ≠ 1)
      let inner ← assign value rest inner
      some (replace first (.tables (inner :: others)) entries)
    | some _ => none

/-- Goes down the path of a header and changes the table at its end, or the last one of several tables. -/
def modify (change : Entries → Option Entries) (path : List String) (entries : Entries) : Option Entries :=
  match path with
  | [] => change entries
  | first :: rest =>
    match entries.lookup first with
    | none => do
      let inner ← modify change rest []
      some (entries ++ [(first, .table .implied inner)])
    | some (.table .inline _) => none
    | some (.table origin inner) => do
      let inner ← modify change rest inner
      some (replace first (.table origin inner) entries)
    | some (.tables (inner :: others)) => do
      let inner ← modify change rest inner
      some (replace first (.tables (inner :: others)) entries)
    | some _ => none

/-- Makes the table of a header. -/
def openTable (name : String) (entries : Entries) : Option Entries :=
  match entries.lookup name with
  | none => some (entries ++ [(name, .table .header [])])
  | some (.table .implied inner) => some (replace name (.table .header inner) entries)
  | some _ => none

/-- Adds a table under a header in double brackets. -/
def openElement (name : String) (entries : Entries) : Option Entries :=
  match entries.lookup name with
  | none => some (entries ++ [(name, .tables [[]])])
  | some (.tables elements) => some (replace name (.tables ([] :: elements)) entries)
  | some _ => none

/-- Carries out statements below the table at `path`. -/
def run (path : List String) (entries : Entries) : List Statement → Option Entries
  | [] => some entries
  | .header header :: rest => do
    let name ← header.getLast?
    let entries ← modify (openTable name) header.dropLast entries
    run header entries rest
  | .element header :: rest => do
    let name ← header.getLast?
    let entries ← modify (openElement name) header.dropLast entries
    run header entries rest
  | .assign key value :: rest => do
    let entries ← modify (assign value key) path entries
    run path entries rest

/-- The entries of a document. -/
def document? (statements : List Statement) : Option Entries := run [] [] statements

/-- An inline table with these assignments. -/
def inline? (assignments : List (List String × Toml)) : Option Toml := do
  let entries ← assignments.foldlM (fun entries (key, value) => assign value key entries) []
  some (.table .inline entries)

end Toml

end TextTemplate
