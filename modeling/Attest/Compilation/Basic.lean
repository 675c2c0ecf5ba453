import Attest.Auxdata.Location
import Attest.Compilation.Artifact
import Attest.Compiler.Basic
import Attest.Failure.Report

/-!
# Compilations

A compilation of one contract: the compiler and what it is asked, and what has come of it so far. A
new output makes the old artifact and the old places of auxdatas void before the compiler is asked,
so a compiler that fails leaves neither. What is asked of a compilation that has no artifact
compiles first.
-/
namespace Attest

/-- The places of auxdatas in the two bytecodes of a contract, none where they are not known. -/
structure LocatedAuxdatas where
  /-- In the code that the contract runs. -/
  runtime : Option AuxdataPositions
  /-- In the code that creates the contract. -/
  creation : Option AuxdataPositions
  deriving DecidableEq, Repr

/-- A compilation of one contract. -/
structure Compilation where
  /-- The compiler. -/
  compiler : Compiler
  /-- The version. -/
  version : String
  /-- The completed document of sources and settings. -/
  input : Json
  /-- The contract. -/
  target : Target
  /-- The language. -/
  language : Language
  /-- The style in which the compiler writes auxdatas. -/
  style : AuxdataStyle
  /-- What the compiler was asked. -/
  calls : List CompilerRequest := []
  /-- The compiler's last output, null before any. -/
  output : Json := .null
  /-- What the last compilation gave. -/
  artifact : Option Artifact := none
  /-- The places of auxdatas, once they are known. -/
  located : Option LocatedAuxdatas := none

/-- The style in which a version of a compiler writes auxdatas. -/
def Language.style (language : Language) (version : String) : Except Failure AuxdataStyle :=
  match language with
  | .solidity => .ok .solidity
  | .vyper => AuxdataStyle.ofVyperVersion version

namespace Compilation

/-- A compilation that has not been run. -/
def start (compiler : Compiler) (version : String) (input : Json) (target : Target)
    (language : Language) : Except Failure Compilation := do
  let style ← language.style version
  let input ← Failure.ofFault (language.complete target input)
  return { compiler, version, input, target, language, style }

/-- The words by which a compilation is known. -/
def describe (compilation : Compilation) : String :=
  "Compilation(" ++ compilation.language.name ++ " " ++ compilation.version ++ " " ++
    compilation.target.path ++ ":" ++ compilation.target.name ++ ")"

/-- Ask the compiler. -/
def ask (input : Json) (alternate : Bool) : Attempt Compilation Json := do
  let request : CompilerRequest := ⟨(← get).version, input, alternate⟩
  modify fun compilation => { compilation with calls := compilation.calls ++ [request] }
  Attempt.within compiler (fun compilation compiler => { compilation with compiler })
    (Compiler.ask request)

/-- The target's part of the last output. -/
def contract (compilation : Compilation) : Except Failure Json :=
  Contract.ofOutput compilation.output compilation.target

/-- A bytecode in the last output. -/
def code (compilation : Compilation) (kind : CodeKind) : Except Failure Code := do
  let contract ← compilation.contract
  Contract.code contract kind

/-- The artifact in the last output. -/
def read (compilation : Compilation) : Except Failure Artifact := do
  let language := compilation.language
  let contract ← compilation.contract
  let metadata ← Contract.metadata language contract compilation.input compilation.version
    compilation.target
  let interface ← contract.memberD "abi" (.list [])
  let creationCode ← Contract.code contract .creation
  let runtimeCode ← Contract.code contract .runtime
  let creationLinks ← Contract.links language contract .creation
  let runtimeLinks ← Contract.links language contract .runtime
  let immutables ← Contract.immutables language contract compilation.style
  return { metadata, interface, creationCode, runtimeCode, creationLinks, runtimeLinks, immutables }

/-- A compiler's failure as one of the compilation. -/
def compilerFailure (failure : Failure) : Failure :=
  match failure with
  | .compilation error => .compilation error
  | failure => .compilation (.failed failure.detail)

/-- Compile the sources. -/
def compile (alternate : Bool) : Attempt Compilation Artifact := do
  modify fun compilation => { compilation with located := none, artifact := none }
  match ← Attempt.outcome (ask (← get).input alternate) with
  | .error failure => throw (compilerFailure failure)
  | .ok output =>
    modify fun compilation => { compilation with output }
    if !output.holds then throw (.compilation .noOutput)
    let artifact ← (← get).read
    modify fun compilation => { compilation with artifact := some artifact }
    return artifact

/-- The artifact, compiling if there is none. -/
def compiled : Attempt Compilation Artifact := do
  match (← get).artifact with
  | some artifact => return artifact
  | none => compile false

/-- The metadata document, which only a compilation that has been run has. -/
def metadata (compilation : Compilation) : Except Failure Json :=
  match compilation.artifact with
  | some artifact => .ok artifact.metadata
  | none => .error (.compilation .noMetadata)

/-- The settings: those of the metadata once there are any, and before that those asked for. -/
def settings (compilation : Compilation) : Except Fault Json :=
  match compilation.artifact with
  | some artifact => artifact.metadata.memberD "settings" (.record [])
  | none => compilation.input.memberD "settings" (.record [])

/-- Whether the optimizer is on. -/
def optimized (compilation : Compilation) : Except Fault Bool := do
  let optimizer ← (← compilation.settings).memberD "optimizer" .null
  return (← (optimizer.orElse (.record [])).memberD "enabled" .null).holds

/-- Whether the compiler goes by way of its intermediate language. -/
def viaIntermediate (compilation : Compilation) : Except Fault Bool := do
  return (← (← compilation.settings).memberD "viaIR" .null).holds

end Compilation

end Attest
