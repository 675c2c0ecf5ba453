import Attest.Auxdata.Contents
import Attest.Compilation.Input
import Attest.Extraction.Immutable
import Attest.Json.Reader
import Attest.Keccak

/-!
# What a compilation gives

The compiler's output holds for each contract its metadata, its interface and two bytecodes with
references to the parts that are filled at deployment. Vyper writes no metadata and no references: a
metadata document is made from the output and the input, and the one reference is made from the size
of all immutables, which the auxdata of the creation code tells.
-/
namespace Attest

/-- The places of immutables in the code that a contract runs. -/
inductive Immutables where
  /-- At the places of references. -/
  | listed (references : Json)
  /-- Behind the code: the place where it ends, and the size of all of them. -/
  | appended (start : Nat) (size : Cbor)

namespace Immutables

/-- The size of appended immutables as a whole number. -/
def whole : Cbor → Except Fault Int
  | .int value => .ok value
  | .bool value => .ok (if value then 1 else 0)
  | _ => .error .unsuitable

/-- The slots of immutables. -/
def slots : Immutables → Listing ImmutableSlot
  | listed references => ImmutableSlot.listing references
  | appended start size => .one ((whole size).map fun size => ⟨"0", start, size⟩)

end Immutables

/-- What a compilation gives for its target. -/
structure Artifact where
  /-- The metadata document. -/
  metadata : Json
  /-- The interface. -/
  interface : Json
  /-- The code that creates the contract. -/
  creationCode : Code
  /-- The code that the contract runs. -/
  runtimeCode : Code
  /-- The references to libraries in the creation code. -/
  creationLinks : Json
  /-- The references to libraries in the runtime code. -/
  runtimeLinks : Json
  /-- The places of immutables. -/
  immutables : Immutables

namespace Contract

/-- The target's part of a compiler's output. -/
def ofOutput (output : Json) (target : Target) : Except Failure Json := do
  if !output.holds then throw (.compilation .noOutput)
  let files ← output.memberD "contracts" (.record [])
  let file ← files.memberD target.path (.record [])
  let contract ← file.memberD target.name .null
  if contract.holds then return contract
  else throw (.compilation (.contractAbsent target.path target.name))

/-- The name of the section of a bytecode. -/
def sectionName : CodeKind → String
  | .creation => "bytecode"
  | .runtime => "deployedBytecode"

/-- A bytecode of a contract. -/
def code (contract : Json) (kind : CodeKind) : Except Fault Code := do
  let object ← (← contract.path ["evm", sectionName kind, "object"]).chars
  return Code.marked (Code.body object)

/-- The references to libraries in a bytecode. -/
def links (language : Language) (contract : Json) (kind : CodeKind) : Except Fault Json :=
  match language with
  | .solidity => do
    let found ← (← contract.path ["evm", sectionName kind]).memberD "linkReferences" .null
    return found.orElse (.record [])
  | .vyper => .ok (.record [])

/-- The text of a hash of a source. -/
def sourceHash (content : Json) : Except Fault Json :=
  match content with
  | .text value => .ok (Json.text (String.ofList (Code.marked (Hex.writeBytes
      (Keccak.digest (Utf8.encode value.toList))))))
  | .null => .error .unsuitable
  | _ => .error .wrongKind

/-- The sources with their hashes. -/
def hashedRows : List (String × Json) → Except Fault (List (String × Json))
  | [] => .ok []
  | (path, source) :: rest => do
    let content ← source.member "content"
    let hash ← sourceHash content
    return (path, .record [("keccak256", hash), ("content", content)]) :: (← hashedRows rest)

/-- An empty document for developers or users. -/
def emptyDoc (kind : String) : Json := .record [("kind", .text kind), ("methods", .record [])]

/-- The metadata document made for a Vyper contract. -/
def vyperMetadata (contract input : Json) (version : String) (target : Target) :
    Except Fault Json := do
  let sources ← hashedRows (← sourceRows input)
  let settings ← (← input.memberD "settings" (.record [])).members
  let settings := Table.put (settings.filter (·.1 ≠ "outputSelection")) "compilationTarget"
    (Json.record [(target.path, .text target.name)])
  let interface ← contract.memberD "abi" (.list [])
  let devdoc ← contract.memberD "devdoc" (emptyDoc "dev")
  let userdoc ← contract.memberD "userdoc" (emptyDoc "user")
  return .record [("compiler", .record [("version", .text version)]),
    ("language", .text Language.vyper.name),
    ("output", .record [("abi", interface), ("devdoc", devdoc), ("userdoc", userdoc)]),
    ("settings", .record settings), ("sources", .record sources), ("version", .int 1)]

/-- The metadata document that a Solidity contract comes with. -/
def solidityMetadata (contract : Json) : Except Fault Json := do
  let written ← (← contract.member "metadata").chars
  (Json.read (Text.trim written)).mapError .notJson

/-- The metadata document of a contract. -/
def metadata (language : Language) (contract input : Json) (version : String) (target : Target) :
    Except Fault Json :=
  match language with
  | .solidity => solidityMetadata contract
  | .vyper => vyperMetadata contract input version target

/-- The places of immutables that Vyper appends. -/
def appendedImmutables (contract : Json) (style : AuxdataStyle) : Except Failure Immutables := do
  if style ≠ .vyper then return .listed (.record [])
  match Contents.decode (← code contract .creation) style with
  | .error (.auxdata _) => return .listed (.record [])
  | .error failure => throw failure
  | .ok contents =>
    match Cbor.entry? contents "immutableSize" with
    | none => throw (.fault .absentMember)
    | some size =>
      if size.holds then return .appended (← code contract .runtime).byteLength size
      else return .listed (.record [])

/-- The places of immutables. -/
def immutables (language : Language) (contract : Json) (style : AuxdataStyle) :
    Except Failure Immutables :=
  match language with
  | .solidity => do
    let found ← (← contract.path ["evm", sectionName .runtime]).memberD "immutableReferences" .null
    return .listed (found.orElse (.record []))
  | .vyper => appendedImmutables contract style

end Contract

end Attest
