import Attest.Proofs.Match.RoundTrip
import Attest.Proofs.Verification.Exported
import Attest.Proofs.Verification.Rounds

/-!
# What a verification gives is coherent

All that a verification gives about compiled code comes from one run of the compiler, the last one,
and all that it gives about deployed code comes from the chain: the attestation is made from the
evidence of these, and nothing of an earlier round or of a compilation that was replaced is in it
(`Verification.verify_ends`). So who holds the exported record alone can replay each side that
matches.
-/
namespace Attest

/-- What a compiler promises of a bytecode and its references to libraries: whole bytes, small
letters outside the slots of libraries, and slots that count upwards. -/
structure Code.Promised (code : Code) (libraries : Listing LibrarySlot) : Prop where
  /-- The bytecode has whole bytes. -/
  whole : code.length % 2 = 0
  /-- The bytecode is small outside the slots of libraries. -/
  small : code.SmallOutside (libraries.entries.map LibrarySlot.extent)
  /-- The slots of libraries count upwards. -/
  slots : ∀ slot ∈ libraries.entries, slot.extent.Nonneg

instance (code : Code) (libraries : Listing LibrarySlot) : Decidable (code.Promised libraries) :=
  decidable_of_iff (code.length % 2 = 0 ∧
      code.SmallOutside (libraries.entries.map LibrarySlot.extent) ∧
      ∀ slot ∈ libraries.entries, slot.extent.Nonneg)
    ⟨fun ⟨whole, small, slots⟩ => ⟨whole, small, slots⟩,
      fun promised => ⟨promised.whole, promised.small, promised.slots⟩⟩

/-- What a compiler promises of both bytecodes that it gives. -/
def Artifact.Promised (artifact : Artifact) : Prop :=
  artifact.runtimeCode.Promised (LibrarySlot.listing artifact.runtimeLinks) ∧
    artifact.creationCode.Promised (LibrarySlot.listing artifact.creationLinks)

instance (artifact : Artifact) : Decidable artifact.Promised :=
  inferInstanceAs (Decidable (_ ∧ _))

/-- A bytecode as promised is one that a match can be made from. -/
theorem Code.Promised.recompiled {code : Code} {libraries : Listing LibrarySlot}
    {positions : AuxdataPositions} (promised : code.Promised libraries) (bears : code.Marked)
    (placed : positions.WellPlaced) : Match.Recompiled code libraries positions where
  marked := bears
  whole := promised.whole
  small := promised.small
  slots := promised.slots
  distinct := placed.distinct
  places := placed.regular

namespace Verification

open Attempt

/-- What is known of the creation of a contract at the end of a verification: nothing where no
transaction is named, and otherwise what was fetched of it and the verdict on it, by the references,
places, interface and style of the last run of the compiler. -/
inductive Examined {recovery : Option Recovery} {deployed : Code} {first last : Compilation}
    (run : LastRun recovery deployed first last) (attestation : Attestation)
    (before after : Verification) : Option String → Option (Created × Match) → Prop
  | unnamed : before = after → Examined run attestation before after none none
  | named {hash : String} {created : Created} {verdict : Match} :
    (fetchCreation attestation hash).Ends before (created.attest attestation) after →
    Match.creation run.artifact.creationCode created.code
      (LibrarySlot.listing run.artifact.creationLinks) (run.places.creation.getD [])
      run.artifact.interface last.style = .ok verdict →
    Examined run attestation before after (some hash) (some (created, verdict))

/-- A verdict on the code that created a contract is one on that code in its normal form. -/
theorem Examined.decided {recovery : Option Recovery} {deployed : Code}
    {first last : Compilation} {run : LastRun recovery deployed first last}
    {attestation : Attestation} {before after : Verification} {hash : Option String}
    {created : Created} {verdict : Match}
    (examined : Examined run attestation before after hash (some (created, verdict))) :
    created.code.normalize = created.code ∧
      Match.creation run.artifact.creationCode created.code
        (LibrarySlot.listing run.artifact.creationLinks) (run.places.creation.getD [])
        run.artifact.interface last.style = .ok verdict := by
  cases examined with
  | named fetch_ended decided =>
    obtain ⟨fetched, same, normal, -⟩ := fetchCreation_ends fetch_ended
    have code : created.code = fetched.code :=
      Option.some.inj (congrArg Attestation.deployedCreation same)
    refine ⟨?_, decided⟩
    rw [code]
    exact normal

/-- What is found about a contract before anything is compiled. -/
def beginning (verification : Verification) (deployed : Code) : Attestation where
  address := verification.address
  chainId := verification.chain.id
  transaction := verification.creator
  deployedRuntime := some deployed

/-- What a verification that ended well has found out, and where from. -/
structure Evidence (began last : Verification) where
  /-- The deployed code. -/
  deployed : Code
  /-- The verification after the deployed code was fetched. -/
  asked : Verification
  /-- The deployed code comes from the chain. -/
  fetched : fetchRuntime.Ends began deployed asked
  /-- The last run of the compiler, and the verdict on the deployed code. -/
  run : LastRun began.recovery deployed began.compilation last.compilation
  /-- What was fetched of the creation, and the verdict on it. -/
  created : Option (Created × Match)
  /-- What is known of the creation comes from the chain and from the last run of the compiler. -/
  examined : Examined run (run.attest (began.beginning deployed))
    { last with chain := asked.chain } last (began.creator.filter (! ·.isEmpty)) created

/-- The attestation that the evidence makes. -/
def Evidence.attestation {began last : Verification} (evidence : Evidence began last) :
    Attestation where
  address := began.address
  chainId := began.chain.id
  deployedRuntime := some evidence.deployed
  deployedCreation := evidence.created.map fun (created, _) => created.code
  compiledRuntime := some evidence.run.artifact.runtimeCode
  compiledCreation := some evidence.run.artifact.creationCode
  runtimeMatch := some evidence.run.verdict
  creationMatch := evidence.created.map fun (_, verdict) => verdict
  block := (evidence.created.map fun (created, _) => created.block).getD .null
  index := (evidence.created.map fun (created, _) => created.index).getD .null
  deployer := (evidence.created.map fun (created, _) => created.deployer).getD .null
  transaction := began.creator
  origin := some last.compilation.origin

/-- An attestation that matches is given as it is. -/
theorem conclude_ends {attestation found : Attestation} {before after : Verification}
    (ends : Ends (if attestation.matched then pure attestation else do
      noteDifference attestation
      throw (Failure.verification VerificationError.noMatch)) before found after) :
    attestation = found ∧ before = after := by
  split at ends
  · exact ends_pure.mp ends
  · obtain ⟨_, _, -, raised⟩ := ends_bind.mp ends
    exact absurd raised not_ends_throw

/-- A verification that ends well gives what its evidence makes. -/
theorem verify_ends {began last : Verification} {found : Attestation}
    (ends : verify.Ends began found last) :
    ∃ evidence : Evidence began last, found = evidence.attestation := by
  replace ends := ends_get_bind.mp ends
  obtain ⟨deployed, _, fetched, ends⟩ := ends_bind.mp ends
  obtain ⟨-, chain, rfl⟩ := fetchRuntime_ends fetched
  obtain ⟨_, middle, rounds_ended, ends⟩ := ends_bind.mp ends
  obtain ⟨⟨run, rfl⟩, goes_on⟩ := rounds_ends rfl rounds_ended
  -- The rounds ask the compiler only, so the creation is asked of the chain that fetching has left.
  have unchanged : middle.chain = chain := goes_on.chain_eq
  cases named : began.creator.filter (! ·.isEmpty) with
  | none =>
    rw [named] at ends
    replace ends := ends_pure_bind.mp ends
    obtain ⟨rfl, rfl⟩ := conclude_ends ends
    have examined : Examined run (run.attest (began.beginning deployed))
        { middle with chain } middle (began.creator.filter (! ·.isEmpty)) none := by
      rw [named, ← unchanged]
      exact .unnamed rfl
    exact ⟨{ deployed, asked := { began with chain }, fetched, run, created := none, examined }, rfl⟩
  | some hash =>
    rw [named] at ends
    obtain ⟨_, last, fetch_ended, ends⟩ := ends_bind.mp ends
    obtain ⟨_, _, match_ended, ends⟩ := ends_bind.mp ends
    obtain ⟨rfl, rfl⟩ := conclude_ends ends
    obtain ⟨created, rfl, -, later, rfl⟩ := fetchCreation_ends fetch_ended
    obtain ⟨verdict, decided, rfl, rfl⟩ := matchCreation_ends (by exact run.artifact_eq) match_ended
    have examined : Examined run (run.attest (began.beginning deployed))
        { middle with chain } { middle with chain := later }
        (began.creator.filter (! ·.isEmpty)) (some (created, verdict)) := by
      rw [named, ← unchanged]
      exact .named fetch_ended decided
    let evidence : Evidence began { middle with chain := later } := {
      deployed, asked := { began with chain }, fetched, run, created := some (created, verdict)
      examined }
    exact ⟨evidence, rfl⟩

/-- A compiler's output for one contract: its metadata, which asks for the intermediate language, and
its two bytecodes. -/
def sampleOutput (creation runtime : String) : Json :=
  .record [("contracts", .record [("C.sol", .record [("C", .record [
    ("metadata", .text "\x7b\"settings\":\x7b\"viaIR\":true\x7d\x7d"), ("abi", .list []),
    ("evm", .record [
      ("bytecode", .record [("object", .text creation)]),
      ("deployedBytecode", .record [("object", .text runtime)])])])])])]

/-- A compilation whose compiler gives outputs of these bytecodes, one after another. -/
def sampleCompilation (bytecodes : List (String × String)) : Compilation where
  compiler := .known (bytecodes.map fun (creation, runtime) => .ok (sampleOutput creation runtime))
  version := "0.8.20"
  input := .record [("sources", .record [])]
  target := ⟨"C.sol", "C"⟩
  language := .solidity
  style := .solidity

/-- The address of the contract. -/
def sampleAddress : String := "0x0000000000000000000000000000000000000001"

end Verification

end Attest
