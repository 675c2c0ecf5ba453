import Attest.Attempt
import Attest.Json.Document

/-!
# Compilers outside

A compiler is a program that is installed and run outside this library. A toolbox holds what such
programs answer, in the order in which they are asked, and records what they were asked.
-/
namespace Attest

/-- What a program outside answers. -/
inductive ToolReply where
  /-- It cannot be installed. -/
  | notInstalled (text : String)
  /-- It fails in a way of its own kind. -/
  | failed (kind text : String)
  /-- It ends with an exit code, what it wrote to report errors, and a document. -/
  | document (exit : Int) (errors : List UInt8) (output : Json)
  /-- It ends with an exit code, what it wrote to report errors, and some text. -/
  | written (exit : Int) (errors : List UInt8) (output : String)

/-- What a program outside was asked. -/
inductive ToolCall where
  /-- To be there in a version. -/
  | install (version : String)
  /-- To compile in a version. -/
  | useVersion (version : String)
  /-- To compile, the program being found at a path. -/
  | useBinary (path : String)
  /-- To run a command on an input. -/
  | run (command : List String) (input : Json)

/-- The answers of programs outside and the record of what they were asked. -/
structure Toolbox where
  /-- What they have still to answer. -/
  replies : List ToolReply
  /-- What they were asked. -/
  calls : List ToolCall := []

namespace Toolbox

/-- Record a call. -/
def record (call : ToolCall) : Attempt Toolbox Unit :=
  modify fun tools => { tools with calls := tools.calls ++ [call] }

/-- Take the next answer. -/
def take : Attempt Toolbox ToolReply := do
  match (← get).replies with
  | [] => throw .unanswered
  | reply :: rest =>
    modify fun tools => { tools with replies := rest }
    return reply

/-- Install a version, which fails only if the next answer tells so. -/
def install (version : String) : Attempt Toolbox Unit := do
  record (.install version)
  match (← get).replies with
  | .notInstalled text :: rest =>
    modify fun tools => { tools with replies := rest }
    throw (.compilation (.notInstalled version text))
  | _ => return ()

end Toolbox

end Attest
