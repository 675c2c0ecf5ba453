import Attest.CommandLine.Run

/-!
# The program

The command line is run on a recording of the world outside, which the standard input gives as one
JSON record. The report goes to the standard output, and what is not reported ends the program with
words on the standard error output.
-/
namespace Attest.CommandLine

/-- The text of a file, if it can be read. -/
def fileText (path : String) : IO (Option String) := do
  try
    return some (← IO.FS.readFile path)
  catch _ =>
    return none

/-- The text of the document that a command line names. -/
def documentText (arguments : List String) : IO (Option String) :=
  match parse arguments with
  | some request => fileText request.input
  | none => return none

/-- The recording in a text, an empty one if the text is no JSON. -/
def recordingIn (text : String) : Recording :=
  match Json.read text.toList with
  | .ok value => Recording.ofJson value
  | .error _ => Recording.ofJson .null

end Attest.CommandLine

open Attest.CommandLine in
/-- Run the command line on the recording in the standard input. -/
def main (arguments : List String) : IO UInt32 := do
  let recorded ← (← IO.getStdin).readToEnd
  let document ← documentText arguments
  let outcome := run arguments (fun _ => document) (recordingIn recorded)
  IO.print outcome.output
  match outcome.exit with
  | .ok exit => return exit.toUInt32
  | .error failure =>
    IO.eprintln failure.detail.text
    return 1
