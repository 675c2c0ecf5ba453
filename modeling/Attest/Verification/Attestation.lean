import Attest.Compilation.Basic
import Attest.Match
import Attest.Settings
import Attest.Transformation.Printer

/-!
# Attestations

What a verification has found about a deployed contract: the bytecodes on both sides, how far they
match, and the transaction that created the contract. It is written as one record in which what is
not known is null.
-/
namespace Attest

/-- Where a contract comes from. -/
structure Origin where
  /-- The language. -/
  language : Language
  /-- The version of the compiler. -/
  version : String
  /-- The contract among the sources. -/
  target : Target
  deriving DecidableEq, Repr

/-- Where the contract of a compilation comes from. -/
def Compilation.origin (compilation : Compilation) : Origin :=
  ⟨compilation.language, compilation.version, compilation.target⟩

/-- What has been found about a deployed contract. -/
structure Attestation where
  /-- The address. -/
  address : String
  /-- The chain. -/
  chainId : Int
  /-- The code that runs at the address. -/
  deployedRuntime : Option Code := none
  /-- The code that created the contract, with its arguments. -/
  deployedCreation : Option Code := none
  /-- The compiled code to run. -/
  compiledRuntime : Option Code := none
  /-- The compiled code to create the contract. -/
  compiledCreation : Option Code := none
  /-- The match of the code that runs. -/
  runtimeMatch : Option Match := none
  /-- The match of the code that created the contract. -/
  creationMatch : Option Match := none
  /-- The block of the transaction that created the contract. -/
  block : Json := .null
  /-- The index of that transaction in its block. -/
  index : Json := .null
  /-- Who sent that transaction. -/
  deployer : Json := .null
  /-- The hash of that transaction. -/
  transaction : Option String := none
  /-- Where the contract comes from. -/
  origin : Option Origin := none

namespace Attestation

/-- The status of a match that may not have been tried. -/
def statusOf (found : Option Match) : MatchStatus :=
  match found with
  | some found => found.status
  | none => .differs

/-- Whether either code matches. -/
def matched (attestation : Attestation) : Bool :=
  (statusOf attestation.runtimeMatch).matched || (statusOf attestation.creationMatch).matched

/-- A match that does match. -/
def success? (found : Option Match) : Option Match := found.filter (·.status.matched)

/-- The address that took the place of each placeholder in either code. -/
def libraryMap (attestation : Attestation) : Table Code Code :=
  let mapOf (found : Option Match) : Table Code Code :=
    ((success? found).map Match.libraryMap).getD []
  (Table.merge [] (mapOf attestation.runtimeMatch)).merge (mapOf attestation.creationMatch)

/-- The address of the metadata file that the deployed code names, if it names one. -/
def metadataUrl (attestation : Attestation) (settings : Settings) :
    Except Failure (Option String) := do
  match attestation.deployedRuntime.filter (! ·.isEmpty) with
  | none => return none
  | some code =>
    match Contents.decode code .solidity with
    | .error (.auxdata _) => return none
    | .error failure => throw failure
    | .ok contents =>
      match Cbor.entry? contents "ipfs" with
      | some (.text (c :: rest)) =>
        return some (settings.contentUrl (String.ofList (c :: rest)) none)
      | _ => return none

/-- The name of a status that matches, or null. -/
def statusJson (found : Option Match) : Json :=
  match success? found with
  | some found => .text found.status.name
  | none => .null

/-- The transformations and values of a match that matches. -/
def matchJson (found : Option Match) : Json :=
  match success? found with
  | some found =>
    .record [("list", .list (found.transformations.map Transformation.toJson)),
      ("values", found.values.toJson)]
  | none => .record [("list", .list []), ("values", .record [])]

/-- A code that may not be known. -/
def codeJson (code : Option Code) : Json := (code.map Code.toJson).getD .null

/-- The record of where a contract comes from. -/
def originJson (origin : Option Origin) : Json :=
  match origin with
  | some origin =>
    .record [("language", .text origin.language.name), ("compilerVersion", .text origin.version),
      ("compilationTarget",
        .record [("path", .text origin.target.path), ("name", .text origin.target.name)])]
  | none => .null

/-- The record of an attestation. -/
def toJson (attestation : Attestation) (settings : Settings) : Except Failure Json := do
  let url ← attestation.metadataUrl settings
  return .record [
    ("address", .text attestation.address),
    ("chainId", .int attestation.chainId),
    ("status", .record [
      ("runtimeMatch", statusJson attestation.runtimeMatch),
      ("creationMatch", statusJson attestation.creationMatch)]),
    ("onchainRuntimeBytecode", codeJson attestation.deployedRuntime),
    ("onchainCreationBytecode", codeJson attestation.deployedCreation),
    ("recompiledRuntimeBytecode", codeJson attestation.compiledRuntime),
    ("recompiledCreationBytecode", codeJson attestation.compiledCreation),
    ("transformations", .record [
      ("runtime", matchJson attestation.runtimeMatch),
      ("creation", matchJson attestation.creationMatch)]),
    ("deploymentInfo", .record [
      ("blockNumber", attestation.block), ("txIndex", attestation.index),
      ("deployer", attestation.deployer), ("txHash", .ofText? attestation.transaction)]),
    ("libraryMap", .record (attestation.libraryMap.map fun (placeholder, address) =>
      (String.ofList placeholder, address.toJson))),
    ("onchainMetadataUrl", .ofText? url),
    ("compilation", originJson attestation.origin)]

end Attestation

end Attest
