import Attest.Proofs.Auxdata.Contents
import Attest.Proofs.Verification.Coherence

/-!
# When a verification can be exported

The record of an attestation holds the address of the metadata that the deployed code names, so the
end of that code is read once more when the record is written. That code is what the chain gave: a
verification that ends well is exported exactly if its end is legible (`verify_exports_iff`). Code
that matches but ends in bytes that look like a length, with no item before them, is not.
-/
namespace Attest

namespace Attestation

variable {attestation : Attestation} {code : Code}

/-- The address of the metadata is written, or the end of the deployed code is not legible and its
reading a fault. -/
theorem metadataUrl_decides (settings : Settings) (known : attestation.deployedRuntime = some code)
    (filled : code ≠ []) :
    (Contents.Legible code ∧ ∃ url, attestation.metadataUrl settings = .ok url) ∨
      (¬ Contents.Legible code ∧
        ∃ fault, attestation.metadataUrl settings = .error (.fault fault)) := by
  have said : code.isEmpty = false := by simpa using filled
  have there : attestation.deployedRuntime.filter (! ·.isEmpty) = some code := by
    simp [known, said]
  rw [metadataUrl, there]
  dsimp only
  rcases Contents.decode_decides filled with
    ⟨legible, ⟨contents, decoded⟩ | ⟨error, told⟩⟩ | ⟨illegible, fault, failed⟩
  · rw [decoded]
    refine .inl ⟨legible, ?_⟩
    dsimp only
    split
    · exact ⟨_, rfl⟩
    · exact ⟨_, rfl⟩
  · rw [told]
    exact .inl ⟨legible, none, rfl⟩
  · rw [failed]
    exact .inr ⟨illegible, fault, rfl⟩

/-- The record of an attestation is written exactly if the end of the deployed code is legible. -/
theorem toJson_ok_iff (settings : Settings) (known : attestation.deployedRuntime = some code)
    (filled : code ≠ []) :
    (∃ record, attestation.toJson settings = .ok record) ↔ Contents.Legible code := by
  rw [toJson]
  rcases metadataUrl_decides settings known filled with
    ⟨legible, url, written⟩ | ⟨illegible, fault, failed⟩
  · rw [written]
    exact ⟨fun _ => legible, fun _ => ⟨_, rfl⟩⟩
  · rw [failed]
    refine ⟨fun ⟨record, written⟩ => ?_, fun legible => absurd legible illegible⟩
    contradiction

end Attestation

namespace Verification

open Attempt

/-- A verification that ends well can be exported exactly if the end of the code that the chain gave
for the contract is legible, whatever the verdicts are. -/
theorem verify_exports_iff {began last : Verification} {found : Attestation} (settings : Settings)
    (ends : verify.Ends began found last) :
    ∃ code asked, fetchRuntime.Ends began code asked ∧ found.deployedRuntime = some code ∧
      ((∃ record, found.toJson settings = .ok record) ↔ Contents.Legible code) := by
  obtain ⟨evidence, rfl⟩ := verify_ends ends
  obtain ⟨normal, -⟩ := fetchRuntime_ends evidence.fetched
  have filled : evidence.deployed ≠ [] := by
    rw [← normal]
    exact List.cons_ne_nil _ _
  have known : evidence.attestation.deployedRuntime = some evidence.deployed := rfl
  exact ⟨_, _, evidence.fetched, known, Attestation.toJson_ok_iff settings known filled⟩

/-- A verification of a contract whose deployed code is what its compiler gives. -/
def sampleEnding (code : String) : Verification where
  compilation := sampleCompilation [("60aa" ++ code, code)]
  chain := {
    id := 1
    name := "1"
    settings := {}
    providers := [⟨"http://localhost", .record [], .null⟩]
    network := { replies := [.pieces 200 [(0, "\x7b\"result\":\"0x" ++ code ++ "\"\x7d")]] } }
  address := sampleAddress

/-- Whether the verification of a code in small letters ends well with a partial match of it. -/
def matchesPartly (code : String) : Bool :=
  (verify.ended (sampleEnding code)).1.toOption.any fun found =>
    found.deployedRuntime == some (Code.marked code.toList) &&
      Attestation.statusOf found.runtimeMatch == .partly

/-- A verification that is checked to end well does. -/
theorem exists_of_matchesPartly {code : String} (checked : matchesPartly code = true) :
    ∃ found last, verify.Ends (sampleEnding code) found last ∧
      found.deployedRuntime = some (Code.marked code.toList) ∧
      Attestation.statusOf found.runtimeMatch = .partly := by
  rw [matchesPartly] at checked
  cases given : (verify.ended (sampleEnding code)).1 with
  | error failure => simp [given, Except.toOption] at checked
  | ok found =>
    have told : found.deployedRuntime = some (Code.marked code.toList) ∧
        Attestation.statusOf found.runtimeMatch = .partly := by
      simpa [given, Except.toOption] using checked
    exact ⟨found, _, Prod.ext given rfl, told⟩

/-- A contract whose code ends in a map and the length of the map is verified and exported. -/
theorem verify_exports_iff_sample :
    ∃ found last, verify.Ends (sampleEnding "6001a1646970667341010008") found last ∧
      Attestation.statusOf found.runtimeMatch = .partly ∧
      ∃ record, found.toJson {} = .ok record := by
  have checked : matchesPartly "6001a1646970667341010008" = true := by decide +kernel
  have legible : Contents.Legible (Code.marked "6001a1646970667341010008".toList) := by
    decide +kernel
  obtain ⟨found, last, ends, known, partly⟩ := exists_of_matchesPartly checked
  obtain ⟨code, asked, -, same, exported⟩ := verify_exports_iff {} ends
  obtain rfl := Option.some.inj (known.symm.trans same)
  exact ⟨found, last, ends, partly, exported.mpr legible⟩

/-- A contract whose code ends in a byte that begins no item, and in the length of that byte, is
verified, but its record is not written. -/
theorem not_exported_of_illegible :
    ∃ found last, verify.Ends (sampleEnding "6001ff0001") found last ∧
      Attestation.statusOf found.runtimeMatch = .partly ∧
      ∀ settings, ¬ ∃ record, found.toJson settings = .ok record := by
  have checked : matchesPartly "6001ff0001" = true := by decide +kernel
  have illegible : ¬ Contents.Legible (Code.marked "6001ff0001".toList) := by decide +kernel
  obtain ⟨found, last, ends, known, partly⟩ := exists_of_matchesPartly checked
  refine ⟨found, last, ends, partly, fun settings written => illegible ?_⟩
  exact (Attestation.toJson_ok_iff settings known (List.cons_ne_nil _ _)).mp written

end Verification

end Attest
