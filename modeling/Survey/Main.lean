import Survey.Walkthrough

/-!
# The command line

Runs the walkthrough. The first argument, if there is one, is the path of a file with a session configuration.
-/

namespace Survey

/-- The text of a file, if it can be read as text. -/
def readText? (path : String) : IO (Option String) := do
  try
    return some (← IO.FS.readFile path)
  catch _ =>
    return none

/-- The walkthrough that the arguments ask for. -/
def transcriptOf (args : List String) : IO Transcript := do
  match args with
  | [] => return Walkthrough.runWith none
  | path :: _ =>
    match ← readText? path with
    | some text => return Walkthrough.runWith (some text)
    | none => return Walkthrough.unreadable path

end Survey

/-- Writes the lines of a walkthrough, and its failure where there is one. -/
def main (args : List String) : IO UInt32 := do
  let transcript ← Survey.transcriptOf args
  for line in transcript.lines do
    IO.println line
  match transcript.failure with
  | none => return 0
  | some message =>
    IO.eprintln ("Error: " ++ message)
    return 1
