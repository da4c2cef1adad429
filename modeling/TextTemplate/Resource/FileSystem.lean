import TextTemplate.Data.Table
import TextTemplate.Text.Search

set_option autoImplicit false

/-! # File systems

A file system is known by what reading a path gives. A `FileTree` is one that is held in memory: the files and
directories below a working directory. Reading walks the segments of a path as an operating system does: empty
segments and `.` stay in place, `..` goes up, and a file has nothing below it. Above the working directory nothing
is known to exist. -/

namespace TextTemplate

/-- What reading a file gives. -/
inductive Reading
  | text (content : String)
  /-- There is no such file. -/
  | missing
  /-- There is something at that path, but no text. -/
  | failure (reason : String)
  /-- Nobody has looked for the file yet. -/
  | unvisited
deriving DecidableEq

/-- A file system: what reading a path gives. -/
abbrev FileSystem := String → Reading

namespace Reading

/-- The wording for a file that does not exist. -/
def missingReason : String := "No such file or directory (os error 2)"

/-- A directory in place of a file. -/
def isDirectory : Reading := failure "Is a directory (os error 21)"

/-- A file in place of a directory. -/
def notDirectory : Reading := failure "Not a directory (os error 20)"

/-- A file that is closed to the reader. -/
def noPermission : Reading := failure "Permission denied (os error 13)"

/-- A name that no file can have because of its length. -/
def nameTooLong : Reading := failure "File name too long (os error 36)"

/-- A name that no file can have because it contains the character NUL. -/
def containsNul : Reading := failure "file name contained an unexpected NUL byte"

/-- Bytes that are no text. -/
def notText : Reading := failure "stream did not contain valid UTF-8"

/-- What reading a file of these bytes gives. -/
def ofBytes (bytes : ByteArray) : Reading :=
  match String.fromUTF8? bytes with
  | some content => text content
  | none => notText

end Reading

/-! ## Paths -/

namespace Path

/-- The segments between the slashes of a path. -/
def segments (path : List Char) : List (List Char) :=
  match path with
  | [] => [[]]
  | c :: rest =>
    if c = '/' then [] :: segments rest
    else
      match segments rest with
      | [] => [[c]]
      | first :: more => (c :: first) :: more

/-- The path of `name` below the directory `root`. The empty directory adds nothing. -/
def join (root name : String) : String :=
  if root = "" || root.toList.getLast? = some '/' then root ++ name else root ++ "/" ++ name

end Path

/-! ## Files in memory -/

/-- What a path in a tree of files leads to. -/
inductive FileEntry
  | file (bytes : ByteArray)
  | directory

/-- Files and directories below a working directory, by the segments of their paths. -/
structure FileTree where
  entries : Table (List String) FileEntry := ∅
deriving Inhabited

namespace FileTree

/-- The longest name of a file, in bytes. -/
def maxNameLength : Nat := 255

/-- The longest path, in bytes. -/
def maxPathLength : Nat := 4095

/-- The proper prefixes of a list of segments. -/
def ancestors (segments : List String) : List (List String) :=
  (List.range segments.length).map fun n => segments.take n

/-- Adds an entry and the directories that lead to it. -/
def add (tree : FileTree) (segments : List String) (entry : FileEntry) : FileTree :=
  ⟨(tree.entries.setAll ((ancestors segments).map fun path => (path, .directory))).set segments entry⟩

/-- Adds what a path names: a directory if the path ends in a slash, else a file. -/
def addPath (tree : FileTree) (path : String) (bytes : ByteArray) : FileTree :=
  let segments := (Path.segments path.toList).filterMap fun segment =>
    if segment = [] || segment = ['.'] then none else some (String.ofList segment)
  tree.add segments (if path.toList.getLast? = some '/' then .directory else .file bytes)

/-- A place on the way along a path. -/
inductive Place
  /-- A directory below the working directory, or that directory itself. -/
  | inside (path : List String)
  /-- A directory elsewhere. -/
  | outside
  /-- A file. -/
  | file (bytes : ByteArray)

/-- Goes from a place along the segments of a path. -/
def walk (tree : FileTree) (place : Place) (segments : List String) : Reading :=
  match segments, place with
  | [], .file bytes => .ofBytes bytes
  | [], _ => .isDirectory
  | _ :: _, .file _ => .notDirectory
  | segment :: rest, .outside =>
    if segment = "" || segment = "." || segment = ".." then tree.walk .outside rest
    else if maxNameLength < segment.utf8ByteSize then .nameTooLong
    else .missing
  | segment :: rest, .inside path =>
    if segment = "" || segment = "." then tree.walk (.inside path) rest
    else if segment = ".." then
      tree.walk (if path = [] then .outside else .inside path.dropLast) rest
    else if maxNameLength < segment.utf8ByteSize then .nameTooLong
    else
      match tree.entries.get? (path ++ [segment]) with
      | some .directory => tree.walk (.inside (path ++ [segment])) rest
      | some (.file bytes) => tree.walk (.file bytes) rest
      | none => .missing

/-- Reads the file at a path. -/
def read (tree : FileTree) : FileSystem := fun path =>
  if path.toList.contains '\x00' then .containsNul
  else if path = "" then .missing
  else if maxPathLength < path.utf8ByteSize then .nameTooLong
  else
    let start := if path.toList.head? = some '/' then .outside else .inside []
    tree.walk start ((Path.segments path.toList).map String.ofList)

end FileTree

end TextTemplate
