import Attest.Chain.Trace
import Attest.Compilation.Auxdata
import Attest.Disassembly.Basic
import Attest.Verification.Attestation

/-!
# Verification

A deployed contract is verified against a compilation in fixed steps: the deployed code is fetched,
the sources are compiled, where a search for exact metadata is given the compilation is replaced by
one that it finds, the lengths are compared, the auxdatas are located and the codes matched. Code
that an old compiler orders by chance is compiled once more with another build. If the creating
transaction is known, the code that created the contract is matched too.
-/
namespace Attest

/-- A search for exact metadata. What it finds may change from one search to the next. -/
structure Recovery where
  /-- What a search finds, by the number of searches before it, the compilation and the deployed
  code. -/
  find : Nat → Compilation → Code → Except Failure (Option Compilation)

/-- A search that always comes to the same. -/
instance : Coe (Except Failure (Option Compilation)) Recovery := ⟨fun found => ⟨fun _ _ _ => found⟩⟩

/-- A search that always ends well and with the same. -/
def Recovery.ok (found : Option Compilation) : Recovery := (.ok found : Except Failure _)

/-- A verification under way. -/
structure Verification where
  /-- The compilation that counts now. -/
  compilation : Compilation
  /-- The compilations that it replaced, the oldest first. -/
  replaced : List Compilation := []
  /-- The chain. -/
  chain : Chain
  /-- The address of the contract. -/
  address : String
  /-- The hash of the transaction that created the contract. -/
  creator : Option String := none
  /-- The search for exact metadata, if there is one. -/
  recovery : Option Recovery := none
  /-- The compilation and the deployed code of each search. -/
  searches : List (String × Code) := []
  /-- Whether the difference of the instructions is to be kept for a reader. -/
  verbose : Bool := true
  /-- The differences kept. -/
  notes : List String := []

namespace Verification

/-- An action on the compilation. -/
def onCompilation {α : Type} (action : Attempt Compilation α) : Attempt Verification α :=
  Attempt.within compilation (fun verification compilation => { verification with compilation })
    action

/-- An action on the chain. -/
def onChain {α : Type} (action : Attempt Chain α) : Attempt Verification α :=
  Attempt.within chain (fun verification chain => { verification with chain }) action

/-- The code of a contract without a byte. -/
def noCode : Code := Code.marked []

/-- Fetch the code that runs at the address. -/
def fetchRuntime : Attempt Verification Code := do
  let verification ← get
  let chainId := verification.chain.id
  let address := verification.address
  match ← Attempt.outcome (onChain (Chain.bytecode address none)) with
  | .error (.chain (.invalidAddress address reason)) =>
    throw (.chain (.invalidAddress address reason))
  | .error (.chain _) => throw (.verification (.unavailable chainId))
  | .error failure => throw failure
  | .ok bytecode =>
    let bytecode ← bytecode.chars
    if bytecode.isEmpty then throw (.verification (.noBytecode chainId address))
    let bytecode := Code.normalize bytecode
    if bytecode = noCode then throw (.verification (.notDeployed chainId address))
    return bytecode

/-- Compile the sources, and note the codes. -/
def compile (attestation : Attestation) (alternate : Bool) :
    Attempt Verification Attestation := do
  let _ ← onCompilation (Compilation.compile alternate)
  let compilation := (← get).compilation
  let runtime ← compilation.code .runtime
  let creation ← compilation.code .creation
  if runtime = noCode || creation = noCode then throw (.verification .emptyCompilation)
  return { attestation with
    compiledRuntime := some runtime
    compiledCreation := some creation
    origin := some compilation.origin }

/-- The text of the auxdata at the end of a code that may not be known. -/
def payload (code : Option Code) : Except Failure (Option Code) := do
  return (← split (code.getD []) .solidity).trailer.map Trailer.payload

/-- Replace the compilation by one whose metadata is the deployed one, where a search finds it. -/
def recover (attestation : Attestation) (alternate : Bool) :
    Attempt Verification Attestation := do
  let verification ← get
  match verification.recovery with
  | none => return attestation
  | some recovery =>
    if verification.compilation.language ≠ .solidity then return attestation
    let deployed ← payload attestation.deployedRuntime
    let compiled ← payload attestation.compiledRuntime
    if deployed = none || deployed = compiled then return attestation
    modify fun verification => { verification with
      searches := verification.searches ++
        [(verification.compilation.describe, attestation.deployedRuntime.getD [])] }
    match ← recovery.find verification.searches.length verification.compilation
      (attestation.deployedRuntime.getD []) with
    | none => return attestation
    | some compilation =>
      modify fun verification => { verification with
        replaced := verification.replaced ++ [verification.compilation]
        compilation }
      compile attestation alternate

/-- Refuse codes that differ although their metadata is the same: sources that are not used change
the code and not the metadata. -/
def checkExtraFiles (compilation : Compilation) (attestation : Attestation) :
    Except Failure Unit := do
  if compilation.language ≠ .solidity then return ()
  if !(← compilation.optimized) then return ()
  let deployed ← payload attestation.deployedRuntime
  let compiled ← payload attestation.compiledRuntime
  if deployed.isSome && deployed == compiled then throw (.verification .extraFiles)
  return ()

/-- Whether codes of given lengths cannot be the same. Vyper appends immutables to its code. -/
def lengthsDiffer (language : Language) (compiled deployed : Nat) : Bool :=
  match language with
  | .vyper => deployed < compiled
  | .solidity => compiled != deployed

/-- Refuse a compiled code of another length than the deployed one. -/
def checkLength (compilation : Compilation) (attestation : Attestation) : Except Failure Unit := do
  let deployed := Code.byteLength (attestation.deployedRuntime.getD [])
  let compiled := Code.byteLength (attestation.compiledRuntime.getD [])
  if lengthsDiffer compilation.language compiled deployed then
    checkExtraFiles compilation attestation
    throw (.verification (.lengthMismatch compiled deployed))
  return ()

/-- The version of the compiler from which on the order of functions is fixed. -/
def orderFixed : Version := ⟨0, 8, 21⟩

/-- Whether the compiler orders functions by chance: by way of its intermediate language, without
the optimizer, before the version that fixes the order. -/
def ordersByChance (compilation : Compilation) : Except Failure Bool := do
  if compilation.language ≠ .solidity then return false
  if !(← Version.ofText compilation.version).before orderFixed then return false
  if ← compilation.optimized then return false
  compilation.viaIntermediate

/-- The places of the auxdatas, none if they cannot be located. -/
def locate (alternate : Bool) : Attempt Verification LocatedAuxdatas := do
  match ← Attempt.outcome (onCompilation (Compilation.locate alternate)) with
  | .ok located => return located
  | .error (.compilation _) => return ⟨none, none⟩
  | .error failure => throw failure

/-- Match the code that runs. -/
def matchRuntime (attestation : Attestation) (positions : Option AuxdataPositions) :
    Attempt Verification Attestation := do
  let artifact ← onCompilation Compilation.compiled
  let found ← Match.runtime (attestation.compiledRuntime.getD [])
    (attestation.deployedRuntime.getD []) (LibrarySlot.listing artifact.runtimeLinks)
    (positions.getD []) artifact.immutables.slots (← get).compilation.style
  return { attestation with runtimeMatch := some found }

/-- What a round has come to. -/
structure Round where
  /-- What has been found. -/
  attestation : Attestation
  /-- The places of auxdatas in the code that creates the contract. -/
  creation : Option AuxdataPositions

/-- Compile, compare lengths, locate the auxdatas and match the code that runs. -/
def round (attestation : Attestation) (alternate : Bool) : Attempt Verification Round := do
  let attestation ← compile attestation alternate
  let attestation ← recover attestation alternate
  checkLength (← get).compilation attestation
  let located ← locate alternate
  let attestation ← matchRuntime attestation located.runtime
  return ⟨attestation, located.creation⟩

/-- The rounds: one, and a second with another build if the code of the first is ordered by
chance and does not match. -/
def rounds (attestation : Attestation) : Attempt Verification Round := do
  let first ← round attestation false
  if (Attestation.statusOf first.attestation.runtimeMatch).matched then return first
  if ← ordersByChance (← get).compilation then
    let second ← round first.attestation true
    if (Attestation.statusOf second.attestation.runtimeMatch).matched then return second
    checkExtraFiles (← get).compilation second.attestation
    return second
  else
    checkExtraFiles (← get).compilation first.attestation
    return first

/-- A number given as hexadecimal text; any other value stays as it is. -/
def quantity : Json → Except Fault Json
  | .text value =>
    match Numeral.readHex? value.toList with
    | some number => .ok (.int number)
    | none => .error .badNumeral
  | value => .ok value

/-- Fetch the transaction that created the contract, and the code that it created it with. -/
def fetchCreation (attestation : Attestation) (hash : String) :
    Attempt Verification Attestation := do
  let address := (← get).address
  let transaction ← match ← Attempt.outcome (onChain (Chain.transaction hash)) with
    | .ok transaction => pure transaction
    | .error (.chain cause) => throw (.verification (.noTransaction hash cause))
    | .error failure => throw failure
  let (code, receipt) ←
    match ← Attempt.outcome (onChain (Chain.creation address hash (some transaction))) with
    | .ok found => pure found
    | .error (.chain cause) => throw (.verification (.noCreationCode address cause))
    | .error failure => throw failure
  let code ← code.chars
  let block ← quantity (← transaction.memberD "blockNumber" .null)
  let deployer ← transaction.memberD "from" .null
  let index ← quantity (← receipt.memberD "transactionIndex" .null)
  return { attestation with deployedCreation := some (Code.normalize code), block, deployer, index }

/-- Match the code that created the contract. -/
def matchCreation (attestation : Attestation) (positions : Option AuxdataPositions) :
    Attempt Verification Attestation := do
  let artifact ← onCompilation Compilation.compiled
  let found ← Match.creation (attestation.compiledCreation.getD [])
    (attestation.deployedCreation.getD []) (LibrarySlot.listing artifact.creationLinks)
    (positions.getD []) artifact.interface (← get).compilation.style
  return { attestation with creationMatch := some found }

/-- Keep the difference of the instructions for a reader. -/
def noteDifference (attestation : Attestation) : Attempt Verification Unit := do
  let verification ← get
  if verification.verbose then
    let note := match Disassembly.difference (attestation.compiledRuntime.getD [])
        (attestation.deployedRuntime.getD []) with
      | .ok lines =>
        "Opcode diff of " ++ verification.address ++ ":\n" ++ String.intercalate "\n" lines
      | .error _ => "Could not generate opcode diff"
    set { verification with notes := verification.notes ++ [note] }

/-- Verify the contract. -/
def verify : Attempt Verification Attestation := do
  let verification ← get
  let start : Attestation := {
    address := verification.address
    chainId := verification.chain.id
    transaction := verification.creator }
  let deployed ← fetchRuntime
  let last ← rounds { start with deployedRuntime := some deployed }
  let attestation ← match verification.creator.filter (! ·.isEmpty) with
    | none => pure last.attestation
    | some hash => do
      let attestation ← fetchCreation last.attestation hash
      matchCreation attestation last.creation
  if attestation.matched then return attestation
  else
    noteDifference attestation
    throw (.verification .noMatch)

/-- The compilations of a verification: the one it began with, and those that replaced it. -/
def compilations (verification : Verification) : List Compilation :=
  verification.replaced ++ [verification.compilation]

end Verification

end Attest
