import Attest.Json.Basic

/-!
# Inputs of a compilation

The sources and settings of a compilation are one document. Before anything is compiled the document
is completed: it names its language and asks for the outputs that matching needs.
-/
namespace Attest

/-- The language of the sources. -/
inductive Language where
  | solidity
  | vyper
  deriving DecidableEq, Repr

/-- The contract that a compilation is for: the path of its source file and its name there. -/
structure Target where
  /-- The path. -/
  path : String
  /-- The name. -/
  name : String
  deriving DecidableEq, Repr

namespace Language

/-- The name of a language. -/
def name : Language → String
  | solidity => "Solidity"
  | vyper => "Vyper"

/-- The outputs that a compiler of a language is asked for. -/
def outputs : Language → List String
  | solidity =>
    ["abi", "devdoc", "userdoc", "storageLayout", "evm.legacyAssembly", "evm.bytecode.object",
      "evm.bytecode.sourceMap", "evm.bytecode.linkReferences", "evm.bytecode.generatedSources",
      "evm.deployedBytecode.object", "evm.deployedBytecode.sourceMap",
      "evm.deployedBytecode.linkReferences", "evm.deployedBytecode.immutableReferences",
      "metadata"]
  | vyper =>
    ["abi", "ast", "interface", "ir", "userdoc", "devdoc", "evm.bytecode.object",
      "evm.bytecode.opcodes", "evm.deployedBytecode.object", "evm.deployedBytecode.opcodes",
      "evm.deployedBytecode.sourceMap", "evm.methodIdentifiers"]

/-- The selection of outputs: for all contracts, or for the file of the target. -/
def selection (language : Language) (target : Target) : Json :=
  let names := Json.list (language.outputs.map .text)
  match language with
  | solidity => .record [("*", .record [("*", names)])]
  | vyper => .record [(target.path, names)]

end Language

namespace Json

/-- A record with a member added unless it has one of that name. -/
def withDefault (value : Json) (name : String) (default : Json) : Except Fault Json := do
  let members ← value.members
  return record (if Table.has members name then members else Table.put members name default)

/-- A record with a member written. -/
def withMember (value : Json) (name : String) (written : Json) : Except Fault Json :=
  match value with
  | record members => .ok (record (Table.put members name written))
  | _ => .error .unsuitable

end Json

/-- A document completed for a compilation. -/
def Language.complete (language : Language) (target : Target) (input : Json) :
    Except Fault Json := do
  let input ← input.withDefault "language" (.text language.name)
  let input ← input.withDefault "settings" (.record [])
  let settings ←
    (← input.member "settings").withMember "outputSelection" (language.selection target)
  input.withMember "settings" settings

/-- The rows of sources of a document. -/
def sourceRows (input : Json) : Except Fault (List (String × Json)) := do
  (← input.member "sources").members

/-- The content of each source by its path. -/
def contentsIn : List (String × Json) → Except Fault (List (String × Json))
  | [] => .ok []
  | (path, source) :: rest => return (path, ← source.member "content") :: (← contentsIn rest)

/-- The content of each source of a document by its path. -/
def sourceContents (input : Json) : Except Fault Json := do
  return .record (← contentsIn (← sourceRows input))

/-- A content with a blank after it. -/
def spaced : Json → Except Fault Json
  | .text value => .ok (.text (value ++ " "))
  | .list items => .ok (.list (items ++ [.text " "]))
  | _ => .error .unsuitable

/-- Sources with a blank after each. -/
def spacedRows : List (String × Json) → Except Fault (List (String × Json))
  | [] => .ok []
  | (path, source) :: rest => do
    let source ← source.withMember "content" (← spaced (← source.member "content"))
    return (path, source) :: (← spacedRows rest)

/-- A document with a blank after each source, which means the same and has other hashes. -/
def editedInput (input : Json) : Except Fault Json := do
  input.withMember "sources" (.record (← spacedRows (← sourceRows input)))

end Attest
