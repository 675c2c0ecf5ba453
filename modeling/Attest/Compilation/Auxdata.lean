import Attest.Auxdata.Assembly
import Attest.Compilation.Basic

/-!
# Locating the auxdatas of a compilation

A contract with one auxdata ends in it. Where that does not settle both bytecodes, the sources are
compiled again with a blank after each: nothing but the hashes in auxdatas changes, and the places
of the changes are the places of the auxdatas. Once the places in the runtime code are known, those
in the creation code may stay unknown. Vyper writes one auxdata, at the end.
-/
namespace Attest.Compilation

/-- The auxdatas that a compiler reports for a contract. -/
def reportedAuxdatas (contract : Json) : Except Fault (List Json) := do
  Assembly.auxdatas (← (← contract.member "evm").memberD "legacyAssembly" .null)

/-- The place of the auxdata at the end of a bytecode, if it is the one reported. -/
def tailPosition (code : Code) (reported : Json) : Except Failure (Option AuxdataPositions) := do
  match ← AuxdataPosition.atTail code .solidity with
  | none => return none
  | some position =>
    let reported ← reported.chars
    if Text.lower position.value.body = Text.lower reported then
      return some [(AuxdataPositions.idAt 0, position)]
    else return none

/-- A bytecode of a contract compiled from edited sources. -/
def editedCode (contract : Json) (kind : CodeKind) : Except Fault Code := do
  match ← contract.path ["evm", Contract.sectionName kind, "object"] with
  | .text value => return Code.marked value.toList
  | _ => .error .unsuitable

/-- The places of auxdatas in a bytecode by comparison with one compiled from edited sources. -/
def differentialPositions (compilation : Compilation) (edited : Json) (kind : CodeKind)
    (reported editedReported : List Json) : Except Failure AuxdataPositions := do
  let unedited ← compilation.code kind
  let changed ← editedCode edited kind
  let auxdatas ← Failure.ofFault (reported.mapM Json.chars)
  let editedAuxdatas ← Failure.ofFault (editedReported.mapM Json.chars)
  AuxdataPositions.find unedited changed auxdatas editedAuxdatas

/-- Compile the sources with a blank after each, and give the target's part of the output and the
auxdatas reported in it. -/
def compileEdited (alternate : Bool) : Attempt Compilation (Json × List Json) := do
  let input ← editedInput (← get).input
  let output ← ask input alternate
  let target := (← get).target
  let contract ← output.path ["contracts", target.path, target.name]
  return (contract, ← reportedAuxdatas contract)

/-- The places of auxdatas in the creation code by comparison. -/
def locateCreationByEditing (alternate : Bool) (reported : List Json) :
    Attempt Compilation AuxdataPositions := do
  let (edited, editedReported) ← compileEdited alternate
  differentialPositions (← get) edited .creation reported editedReported

/-- The places of auxdatas by comparison; those in the creation code need not be found. -/
def locateByEditing (alternate : Bool) (reported : List Json) :
    Attempt Compilation LocatedAuxdatas := do
  let (edited, editedReported) ← compileEdited alternate
  let compilation ← get
  let runtime ← differentialPositions compilation edited .runtime reported editedReported
  let creation := differentialPositions compilation edited .creation reported editedReported
  return ⟨some runtime, creation.toOption⟩

/-- The places of the auxdatas of a Solidity contract. -/
def locateSolidity (alternate : Bool) : Attempt Compilation LocatedAuxdatas := do
  let compilation ← get
  let contract ← compilation.contract
  match ← reportedAuxdatas contract with
  | [] => return ⟨some [], some []⟩
  | [reported] =>
    match ← tailPosition (← compilation.code .runtime) reported with
    | none => throw (.argument .auxdataElsewhere)
    | some runtime =>
      match ← tailPosition (← compilation.code .creation) reported with
      | some creation => return ⟨some runtime, some creation⟩
      | none =>
        let creation ← Attempt.outcome (locateCreationByEditing alternate [reported])
        return ⟨some runtime, creation.toOption⟩
  | reported => locateByEditing alternate reported

/-- The place of the auxdata at the end of a bytecode, if it has one. -/
def anyTailPosition (code : Code) (style : AuxdataStyle) : Except Failure AuxdataPositions := do
  match ← AuxdataPosition.atTail code style with
  | none => return []
  | some position => return [(AuxdataPositions.idAt 0, position)]

/-- The places of the auxdatas of a Vyper contract. -/
def locateVyper (compilation : Compilation) : Except Failure LocatedAuxdatas := do
  let runtime ← anyTailPosition (← compilation.code .runtime) compilation.style
  let creation ← anyTailPosition (← compilation.code .creation) compilation.style
  return ⟨some runtime, some creation⟩

/-- The places of auxdatas, found once for each output. -/
def locate (alternate : Bool) : Attempt Compilation LocatedAuxdatas := do
  match (← get).located with
  | some located => return located
  | none =>
    let _ ← compiled
    let compilation ← get
    let action := match compilation.language with
      | .solidity => locateSolidity alternate
      | .vyper => Attempt.ofResult compilation.locateVyper
    match ← Attempt.outcome action with
    | .error failure => throw (.compilation (.auxdataNotLocated failure.detail))
    | .ok located =>
      modify fun compilation => { compilation with located := some located }
      return located

end Attest.Compilation
