import TextTemplate.CommandLine

set_option autoImplicit false

/-! # The program

Reads the files that a call needs and carries out its outcome. Which files those are shows only as the call proceeds, so
the call is repeated until it has met no file that nobody has looked for. -/

open TextTemplate

/-- Looks for the file at a path. -/
def visit (path : String) : IO Reading := do
  if path = "" then return .missing
  if path.toList.contains '\x00' then return .containsNul
  try
    return .ofBytes (← IO.FS.readBinFile path)
  catch
    | .noFileOrDirectory .. => return .missing
    | .inappropriateType _ code _ => return if code = 21 then .isDirectory else .notDirectory
    | .permissionDenied .. => return .noPermission
    | .invalidArgument .. => return .nameTooLong
    | problem => return .failure (toString problem)

/-- Carries out a call with the files visited so far, and then with those it lacked. -/
partial def proceed (visited : Table String Reading) (arguments : List String) : IO Outcome := do
  let outcome := CommandLine.run (fun path => (visited.get? path).getD .unvisited) arguments
  if outcome.unvisited.isEmpty then return outcome
  let mut visited := visited
  for path in outcome.unvisited do
    visited := visited.set path (← visit path)
  proceed visited arguments

def main (arguments : List String) : IO UInt32 := do
  let outcome ← proceed ∅ arguments
  (← IO.getStdout).putStr outcome.output
  (← IO.getStderr).putStr outcome.errors
  return outcome.status.toUInt32
