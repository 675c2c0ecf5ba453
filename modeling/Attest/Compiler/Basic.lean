import Attest.Compiler.Toolbox
import Attest.Compiler.Version

/-!
# Compilers

A compiler takes a version, an input document and a choice of backend, and gives an output document
or fails. Solc is installed in the version that is asked for, or a second build of that version is
found at a path; Vyper has one program for each version.
-/
namespace Attest

/-- What a compiler is asked. -/
structure CompilerRequest where
  /-- The version. -/
  version : String
  /-- The sources and settings. -/
  input : Json
  /-- Whether to use a second build. -/
  alternate : Bool

/-- A value that says something. -/
def nonempty? (text : Option String) : Option String := text.filter (! ·.isEmpty)

/-- The release that a version names. -/
def releaseOf (version : String) : String := String.ofList (Version.release version.toList)

/-- Compile with solc. The paths of second builds are found by release. -/
def Toolbox.solc (alternates : Table String String) (request : CompilerRequest) :
    Attempt Toolbox Json := do
  let version := releaseOf request.version
  if request.alternate then
    match nonempty? (alternates.get? version) with
    | none => throw (.compilation (.noAlternateBackend version))
    | some path => record (.useBinary path)
  else
    install version
    record (.useVersion version)
  match ← take with
  | .document _ _ output => return output
  | .failed "SolcError" text => throw (.compilation (.notCompiled text))
  | .failed kind text => throw (.tool kind text)
  | _ => throw .unanswered

/-- The words of the first error among what a compiler reports. -/
def reportedError? : List Json → Except Fault (Option String)
  | [] => .ok none
  | found :: rest => do
    if (← found.memberD "severity" .null).isText "error" then
      let message ← found.memberD "message" .null
      return some (← found.memberD "formattedMessage" message).plain
    else reportedError? rest

/-- Compile with Vyper. The paths of programs are found by version or by release. -/
def Toolbox.vyper (binaries : Table String String) (request : CompilerRequest) :
    Attempt Toolbox Json := do
  let named := nonempty? (binaries.get? request.version)
  match named.or (nonempty? (binaries.get? (releaseOf request.version))) with
  | none => throw (.compilation (.noExecutable request.version))
  | some path =>
    record (.run [path, "--standard-json"] request.input)
    let (exit, errors, output) ← match ← take with
      | .document exit errors output => pure (exit, errors, Except.ok output)
      | .written exit errors output =>
        pure (exit, errors, Failure.ofFault (Json.readDocument (Utf8.encode output.toList)))
      | .failed kind text => throw (.tool kind text)
      | _ => throw .unanswered
    if exit ≠ 0 then
      throw (.compilation (.exited path exit (String.ofList (Utf8.decodeLenient errors))))
    let output ← output
    match ← reportedError? (← (← output.memberD "errors" (.list [])).listed) with
    | some text => throw (.compilation (.refused path text))
    | none => return output

/-- A compiler and what it has still to answer. -/
inductive Compiler where
  /-- A compiler whose answers are known. -/
  | known (answers : List (Except Failure Json))
  /-- Solc with the paths of second builds. -/
  | solc (alternates : Table String String) (tools : Toolbox)
  /-- Vyper with the paths of its programs. -/
  | vyper (binaries : Table String String) (tools : Toolbox)

namespace Compiler

/-- Ask a compiler. -/
def ask (request : CompilerRequest) : Attempt Compiler Json :=
  ExceptT.mk fun compiler =>
    match compiler with
    | known [] => (.error .unanswered, known [])
    | known (answer :: rest) => (answer, known rest)
    | solc alternates tools =>
      let (result, tools) := (Toolbox.solc alternates request).run tools
      (result, solc alternates tools)
    | vyper binaries tools =>
      let (result, tools) := (Toolbox.vyper binaries request).run tools
      (result, vyper binaries tools)

/-- What tools were asked by a compiler. -/
def toolCalls : Compiler → List ToolCall
  | known _ => []
  | solc _ tools => tools.calls
  | vyper _ tools => tools.calls

end Compiler

end Attest
