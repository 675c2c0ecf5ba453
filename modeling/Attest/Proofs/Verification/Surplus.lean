import Attest.Proofs.Match.Surplus
import Attest.Proofs.Verification.Outcome

/-!
# Arguments in a verification

The text behind the code that created a contract was chosen by whoever deployed it. If the names of
the types in the interface are within the grammar, it makes a verification fail with the error for
arguments or, where it holds a count past every length that can be stored, with the fault for one
(`surplus_refused`).
-/
namespace Attest

namespace Verification

open Attempt

/-- A verification that has come to the matching of the code that created the contract: the code that
runs has been fetched and matched, and the code that created it has been fetched. -/
structure AtCreation (began fetched : Verification) (last : Round) (found : Attestation)
    (artifact : Artifact) : Prop where
  /-- The steps before it have ended well. -/
  comes : ∃ deployed asked after hash, fetchRuntime.Ends began deployed asked ∧
    (rounds (began.beginning deployed)).Ends asked last after ∧
    began.creator.filter (! ·.isEmpty) = some hash ∧
    (fetchCreation last.attestation hash).Ends after found fetched
  /-- The artifact is that of the last compilation. -/
  compiled : fetched.compilation.artifact = some artifact

variable {began fetched : Verification} {last : Round} {found : Attestation} {artifact : Artifact}
  {failure : Failure}

/-- Matching the code that created the contract fails as the match does. -/
theorem matchCreation_fails {attestation : Attestation} {positions : Option AuxdataPositions}
    (there : fetched.compilation.artifact = some artifact)
    (fails : (matchCreation attestation positions).Fails fetched failure) :
    Match.creation (attestation.compiledCreation.getD []) (attestation.deployedCreation.getD [])
      (LibrarySlot.listing artifact.creationLinks) (positions.getD []) artifact.interface
      fetched.compilation.style = .error failure := by
  rw [Fails, matchCreation, compiled_bind_ended _ there, ended_get_bind] at fails
  cases decided : Match.creation (attestation.compiledCreation.getD [])
      (attestation.deployedCreation.getD []) (LibrarySlot.listing artifact.creationLinks)
      (positions.getD []) artifact.interface fetched.compilation.style with
  | error other =>
    rw [fails_liftM_bind decided] at fails
    exact congrArg _ (Except.error.inj fails)
  | ok verdict =>
    rw [ended_liftM_bind decided] at fails
    contradiction

/-- A verification that has come to the matching of the code that created the contract fails as this
matching does, or finds no match. -/
theorem AtCreation.fails (comes : AtCreation began fetched last found artifact)
    (fails : verify.Fails began failure) :
    failure = .verification .noMatch ∨
      (matchCreation found last.creation).Fails fetched failure := by
  obtain ⟨⟨deployed, asked, after, hash, fetches, ends, named, fetched_creation⟩, there⟩ := comes
  have completes : complete began.creator last = (do
      let attestation ← fetchCreation last.attestation hash
      matchCreation attestation last.creation) := by
    rw [complete, named]
  rw [Fails, verify_ended_of_rounds fetches ends] at fails
  rcases ends_or_fails (matchCreation found last.creation) fetched with
    ⟨judged, judged_at, judges⟩ | ⟨other, stops⟩
  · have done : (complete began.creator last).Ends after judged judged_at := by
      rw [completes]
      exact ends_bind.mpr ⟨found, fetched, fetched_creation, judges⟩
    rw [done.ended_bind, concluded] at fails
    split at fails
    · contradiction
    · exact .inl (Except.error.inj fails).symm
  · have stopped : (complete began.creator last).Fails after other := by
      rw [Fails, completes, fetched_creation.ended_bind]
      exact stops
    have same := (stopped.bind _).symm.trans fails
    rw [Except.error.inj same] at stops
    exact .inr stops

end Verification

/-- **What is refused behind the code that created a contract.** If the names of the types in the
interface are within the grammar, every text behind every template is taken for arguments or refused
with the error for them, unless reading it comes to a count past every length that can be stored. So a
match of the code fails as linking or comparing the template does, with the error for arguments or for
such a count, and a verification that has come to this match fails as the match or finds none. -/
theorem surplus_refused {interface : Json} (regular : Interface.Regular interface) :
    (∀ real template : Code,
      ((∃ after, Extraction.constructorArguments real template interface = .ok after) ∨
        (∃ error, Extraction.constructorArguments real template interface =
          .error (.arguments error)) ∨
        Extraction.constructorArguments real template interface = .error (.fault .oversized)) ∧
      (Extraction.constructorArguments real template interface = .error (.fault .oversized) ↔
        template.length < real.length ∧
          Interface.Overlong interface (Extraction.surplus real template))) ∧
    (∀ template real libraries positions style failure,
      Match.creation template real libraries positions interface style = .error failure →
        Match.Stopped template real libraries positions style interface failure) ∧
    ∀ began fetched last found artifact failure,
      Verification.AtCreation began fetched last found artifact → artifact.interface = interface →
      Verification.verify.Fails began failure →
        failure = .verification .noMatch ∨
        Match.Stopped (found.compiledCreation.getD []) (found.deployedCreation.getD [])
          (LibrarySlot.listing artifact.creationLinks) (last.creation.getD [])
          fetched.compilation.style interface failure := by
  refine ⟨fun real template => ⟨?_, ?_⟩, fun _ _ _ _ _ _ failed => ?_,
    fun _ _ _ _ _ _ comes same fails => ?_⟩
  · cases decided : Extraction.constructorArguments real template interface with
    | ok after => exact .inl ⟨after, rfl⟩
    | error failure =>
      rcases Extraction.constructorArguments_refuses regular _ _ failure decided with
        ⟨error, rfl⟩ | rfl
      · exact .inr (.inl ⟨error, rfl⟩)
      · exact .inr (.inr rfl)
  · exact Extraction.constructorArguments_oversized_iff regular real template
  · exact Match.creation_stopped regular failed
  · subst same
    refine (comes.fails fails).imp_right fun stops => ?_
    exact Match.creation_stopped regular (Verification.matchCreation_fails comes.compiled stops)

/-- The names of the types of the sample are within the grammar. -/
theorem regular_sampleInterface : Interface.Regular Extraction.sampleInterface := by
  have named : Interface.Names Extraction.sampleInterface ["bytes".toList, "uint8".toList] :=
    ⟨_, rfl, rfl⟩
  exact .listed named (by decide +kernel)

/-- Data with a pointer to a count of two to the sixty-three bytes, and the number seven. -/
def sampleOverlong : List UInt8 :=
  (Extraction.sampleWord 64 ++ Extraction.sampleWord 7) ++
    (List.replicate 24 0 ++ 0x80 :: List.replicate 7 0)

/-- Reading the sample comes to a count past every length. -/
theorem overlong_sample :
    Interface.Overlong Extraction.sampleInterface (Hex.writeBytes sampleOverlong) := by
  refine ⟨["bytes".toList, "uint8".toList], [.bytes, .uint 8], sampleOverlong, ⟨_, rfl, rfl⟩, rfl,
    Hex.readBytes?_writeBytes _, ?_⟩
  have checked : AbiType.checkEach sampleOverlong 0 64 [.bytes, .uint 8] 0 = .ok () := rfl
  have points : AbiType.numberAt sampleOverlong 0 = .ok 64 := rfl
  have counts : AbiType.numberAt sampleOverlong (0 + 64) = .ok (2 ^ 63) := rfl
  exact .tuple checked (.here rfl points (.bytes counts (by decide +kernel)))

/-- The text of the sample is what follows the template. -/
theorem surplus_sample :
    Extraction.surplus ("0x60".toList ++ Hex.writeBytes sampleOverlong) "0x60".toList =
      Hex.writeBytes sampleOverlong := by
  decide +kernel

/-- A single byte behind a template is refused for the interface of the sample, and reading the sample
ends for its count. -/
theorem surplus_refused_sample :
    Extraction.constructorArguments "0x6000".toList "0x60".toList Extraction.sampleInterface ≠
        .error (.fault .oversized) ∧
      Extraction.constructorArguments ("0x60".toList ++ Hex.writeBytes sampleOverlong)
        "0x60".toList Extraction.sampleInterface = .error (.fault .oversized) := by
  have decides := (surplus_refused regular_sampleInterface).1
  have there := overlong_sample
  rw [← surplus_sample] at there
  refine ⟨fun failed => ?_, (decides _ _).2.mpr ⟨by decide +kernel, there⟩⟩
  have refused : Extraction.constructorArguments "0x6000".toList "0x60".toList
      Extraction.sampleInterface = .error (.arguments (.undecodable (.shortWord 1))) := rfl
  rw [refused] at failed
  contradiction

/-- A count past every length is neither taken for arguments nor refused with the error for them. -/
theorem overlong_count_escapes :
    Interface.Regular Extraction.sampleInterface ∧
      ¬ ((∃ after, Extraction.constructorArguments
            ("0x60".toList ++ Hex.writeBytes sampleOverlong) "0x60".toList
            Extraction.sampleInterface = .ok after) ∨
        ∃ error, Extraction.constructorArguments
          ("0x60".toList ++ Hex.writeBytes sampleOverlong) "0x60".toList
          Extraction.sampleInterface = .error (.arguments error)) := by
  have ended : Extraction.constructorArguments ("0x60".toList ++ Hex.writeBytes sampleOverlong)
      "0x60".toList Extraction.sampleInterface = .error (.fault .oversized) := by
    have there := overlong_sample
    rw [← surplus_sample] at there
    exact (Extraction.constructorArguments_oversized_iff regular_sampleInterface _ _).mpr
      ⟨by decide +kernel, there⟩
  rw [ended]
  exact ⟨regular_sampleInterface, by rintro (⟨_, ⟨⟩⟩ | ⟨_, ⟨⟩⟩)⟩

end Attest
