import Attest.Proofs.Compilation.Run
import Attest.Proofs.Match.Stage
import Attest.Verification.Basic

/-!
# The steps of a verification

Each step that ends well says what it has put into the attestation and which parts of the
verification it has changed: fetching changes the chain alone, and compiling, recovering and locating
change the compilation and what is noted about searches.
-/
namespace Attest

open Attempt

namespace Compilation

/-- Two compilations of the same contract, asked of the same compiler in the same way. -/
def SameTask (one other : Compilation) : Prop :=
  one.version = other.version ∧ one.input = other.input ∧ one.target = other.target ∧
    one.language = other.language ∧ one.style = other.style

/-- What is about the same contract as another is about that of a third. -/
theorem SameTask.trans {first second third : Compilation} (begins : SameTask first second)
    (ends : SameTask second third) : SameTask first third := by
  obtain ⟨version, input, target, language, style⟩ := begins
  rw [SameTask, version, input, target, language, style]
  exact ends

/-- What is about the same contract has the same origin. -/
theorem SameTask.origin_eq {one other : Compilation} (same : SameTask one other) :
    one.origin = other.origin := by
  obtain ⟨version, -, target, language, -⟩ := same
  rw [origin, version, target, language]
  rfl

/-- Locating auxdatas is about the same contract. -/
theorem sameTask_of_asked {before after : Compilation} (asked : Asked before after) :
    SameTask before after := by
  obtain ⟨_, _, _, rfl, -⟩ := asked
  exact ⟨rfl, rfl, rfl, rfl, rfl⟩

end Compilation

/-- An attestation with the codes of an artifact and the origin of its compilation. -/
def Attestation.withCodes (attestation : Attestation) (artifact : Artifact)
    (compilation : Compilation) : Attestation :=
  { attestation with
    compiledRuntime := some artifact.runtimeCode
    compiledCreation := some artifact.creationCode
    origin := some compilation.origin }

namespace Verification

/-- Asking the chain changes nothing but the chain, whatever it answers. -/
theorem onChain_outcome_ends {α : Type} {action : Attempt Chain α} {before after : Verification}
    {result : Except Failure α} (ends : (outcome (onChain action)).Ends before result after) :
    ∃ chain, after = { before with chain } := by
  have run := ends_outcome.mp ends
  exact ⟨_, (congrArg Prod.snd run).symm⟩

/-- Fetching the code that runs gives it in the normal form and changes nothing but the chain. -/
theorem fetchRuntime_ends {before after : Verification} {code : Code}
    (ends : fetchRuntime.Ends before code after) :
    code.normalize = code ∧ ∃ chain, after = { before with chain } := by
  replace ends := ends_get_bind.mp ends
  obtain ⟨answer, _, asked, ends⟩ := ends_bind.mp ends
  obtain ⟨chain, rfl⟩ := onChain_outcome_ends asked
  split at ends
  · exact absurd ends not_ends_throw
  · exact absurd ends not_ends_throw
  · exact absurd ends not_ends_throw
  · obtain ⟨characters, -, ends⟩ := ends_reading_bind.mp ends
    split at ends
    · exact absurd ends not_ends_throw_bind
    · dsimp only at ends
      split at ends
      · exact absurd ends not_ends_throw_bind
      · obtain ⟨rfl, rfl⟩ := ends_pure.mp ends
        exact ⟨Code.normalize_normalize characters, chain, rfl⟩

/-- Compiling puts the codes and the origin of this run into the attestation. -/
theorem compile_ends {attestation found : Attestation} {alternate : Bool}
    {before after : Verification} (ends : (compile attestation alternate).Ends before found after) :
    ∃ artifact compilation,
      (Compilation.compile alternate).Ends before.compilation artifact compilation ∧
      found = attestation.withCodes artifact compilation ∧
      after = { before with compilation } := by
  obtain ⟨artifact, _, compiled, ends⟩ := ends_bind.mp ends
  obtain ⟨compilation, ran, rfl⟩ := ends_within.mp compiled
  obtain ⟨_, _, -, read⟩ := Compilation.compile_ends ran
  obtain ⟨runtime_read, creation_read⟩ := Compilation.code_of_read read.2
  replace ends := ends_get_bind.mp ends
  obtain ⟨runtime, runtime_took, ends⟩ := ends_liftM_bind.mp ends
  obtain ⟨creation, creation_took, ends⟩ := ends_liftM_bind.mp ends
  split at ends
  · exact absurd ends not_ends_throw_bind
  · obtain ⟨rfl, rfl⟩ := ends_pure.mp ends
    have same : runtime = artifact.runtimeCode := by
      rw [runtime_read, Except.ok.injEq] at runtime_took
      exact runtime_took.symm
    have same_creation : creation = artifact.creationCode := by
      rw [creation_read, Except.ok.injEq] at creation_took
      exact creation_took.symm
    refine ⟨artifact, compilation, ran, ?_, rfl⟩
    rw [same, same_creation]
    rfl

/-- Recovering keeps the attestation and the compilation, or puts a compilation that a search found
in the place of the compilation and compiles that. -/
theorem recover_ends {attestation found : Attestation} {alternate : Bool}
    {before after : Verification} (ends : (recover attestation alternate).Ends before found after) :
    (found = attestation ∧ ∃ searches, after = { before with searches }) ∨
    ∃ recovery recovered artifact compilation searches,
      before.recovery = some recovery ∧
      recovery.find before.searches.length before.compilation
        (attestation.deployedRuntime.getD []) = .ok (some recovered) ∧
      (Compilation.compile alternate).Ends recovered artifact compilation ∧
      found = attestation.withCodes artifact compilation ∧
      after = { before with
        searches
        replaced := before.replaced ++ [before.compilation]
        compilation } := by
  replace ends := ends_get_bind.mp ends
  split at ends
  · obtain ⟨rfl, rfl⟩ := ends_pure.mp ends
    exact .inl ⟨rfl, before.searches, rfl⟩
  · rename_i recovery searched
    split at ends
    · obtain ⟨rfl, rfl⟩ := ends_pure.mp ends
      exact .inl ⟨rfl, before.searches, rfl⟩
    · obtain ⟨deployed, -, ends⟩ := ends_liftM_bind.mp ends
      obtain ⟨compiled, -, ends⟩ := ends_liftM_bind.mp ends
      split at ends
      · obtain ⟨rfl, rfl⟩ := ends_pure.mp ends
        exact .inl ⟨rfl, before.searches, rfl⟩
      · replace ends := ends_modify_bind.mp ends
        obtain ⟨answer, answered, ends⟩ := ends_liftM_bind.mp ends
        cases answer with
        | none =>
          obtain ⟨rfl, rfl⟩ := ends_pure.mp ends
          exact .inl ⟨rfl, _, rfl⟩
        | some recovered =>
          replace ends := ends_modify_bind.mp ends
          obtain ⟨artifact, compilation, ran, rfl, rfl⟩ := compile_ends ends
          exact .inr ⟨recovery, recovered, artifact, compilation, _, searched, answered, ran,
            rfl, rfl⟩

/-- Locating what a compilation has compiled: its places of auxdatas, or none if they cannot be
located. -/
def Locates (alternate : Bool) (compiled : Compilation) (places : LocatedAuxdatas)
    (last : Compilation) : Prop :=
  (Compilation.locate alternate).Ends compiled places last ∨
    places = ⟨none, none⟩ ∧ ∃ error,
      (Compilation.locate alternate).ended compiled = (.error (.compilation error), last)

/-- Locating in a compilation that has an artifact asks the compiler about edited sources only. -/
theorem Locates.asked {alternate : Bool} {compiled last : Compilation} {places : LocatedAuxdatas}
    {artifact : Artifact} (located : Locates alternate compiled places last)
    (there : compiled.artifact = some artifact) : Compilation.Asked compiled last := by
  have kept := Compilation.locate_asked alternate there
  rcases located with ends | ⟨-, error, ended⟩
  · rw [ends] at kept
    exact kept
  · rw [ended] at kept
    exact kept

/-- Locating changes nothing but the compilation. -/
theorem locate_ends {alternate : Bool} {before after : Verification} {places : LocatedAuxdatas}
    (ends : (locate alternate).Ends before places after) :
    ∃ compilation, Locates alternate before.compilation places compilation ∧
      after = { before with compilation } := by
  obtain ⟨answer, middle, asked, ends⟩ := ends_bind.mp ends
  let located := (Compilation.locate alternate).ended before.compilation
  have run : (located.1, { before with compilation := located.2 }) = (answer, middle) :=
    ends_outcome.mp asked
  obtain ⟨same, rfl⟩ := Prod.mk.inj run
  split at ends
  · obtain ⟨rfl, rfl⟩ := ends_pure.mp ends
    exact ⟨located.2, .inl (Prod.ext same rfl), rfl⟩
  · rename_i error
    obtain ⟨rfl, rfl⟩ := ends_pure.mp ends
    exact ⟨located.2, .inr ⟨rfl, error, Prod.ext same rfl⟩, rfl⟩
  · exact absurd ends not_ends_throw

/-- The artifact of a compilation that has one is at hand. -/
theorem compiled_ends {before after : Verification} {artifact found : Artifact}
    (there : before.compilation.artifact = some artifact)
    (ends : (onCompilation Compilation.compiled).Ends before found after) :
    artifact = found ∧ before = after := by
  obtain ⟨inner, gave, rfl⟩ := ends_within.mp ends
  rw [Ends, Compilation.compiled_of_artifact there, Prod.mk.injEq, Except.ok.injEq] at gave
  obtain ⟨rfl, rfl⟩ := gave
  exact ⟨rfl, rfl⟩

/-- Matching the code that runs puts the verdict on it into the attestation. -/
theorem matchRuntime_ends {attestation found : Attestation}
    {positions : Option AuxdataPositions} {before after : Verification} {artifact : Artifact}
    (there : before.compilation.artifact = some artifact)
    (ends : (matchRuntime attestation positions).Ends before found after) :
    ∃ verdict, Match.runtime (attestation.compiledRuntime.getD [])
        (attestation.deployedRuntime.getD []) (LibrarySlot.listing artifact.runtimeLinks)
        (positions.getD []) artifact.immutables.slots before.compilation.style = .ok verdict ∧
      found = { attestation with runtimeMatch := some verdict } ∧ after = before := by
  obtain ⟨_, _, had, ends⟩ := ends_bind.mp ends
  obtain ⟨rfl, rfl⟩ := compiled_ends there had
  replace ends := ends_get_bind.mp ends
  obtain ⟨verdict, decided, ends⟩ := ends_liftM_bind.mp ends
  obtain ⟨rfl, rfl⟩ := ends_pure.mp ends
  exact ⟨verdict, decided, rfl, rfl⟩

/-- Matching the code that creates the contract puts the verdict on it into the attestation. -/
theorem matchCreation_ends {attestation found : Attestation}
    {positions : Option AuxdataPositions} {before after : Verification} {artifact : Artifact}
    (there : before.compilation.artifact = some artifact)
    (ends : (matchCreation attestation positions).Ends before found after) :
    ∃ verdict, Match.creation (attestation.compiledCreation.getD [])
        (attestation.deployedCreation.getD []) (LibrarySlot.listing artifact.creationLinks)
        (positions.getD []) artifact.interface before.compilation.style = .ok verdict ∧
      found = { attestation with creationMatch := some verdict } ∧ after = before := by
  obtain ⟨_, _, had, ends⟩ := ends_bind.mp ends
  obtain ⟨rfl, rfl⟩ := compiled_ends there had
  replace ends := ends_get_bind.mp ends
  obtain ⟨verdict, decided, ends⟩ := ends_liftM_bind.mp ends
  obtain ⟨rfl, rfl⟩ := ends_pure.mp ends
  exact ⟨verdict, decided, rfl, rfl⟩

/-- What a verification has fetched about the creation of the contract. -/
structure Created where
  /-- The code that created the contract, with its arguments. -/
  code : Code
  /-- The block of the transaction. -/
  block : Json
  /-- The index of the transaction in its block. -/
  index : Json
  /-- Who sent the transaction. -/
  deployer : Json

/-- An attestation with what was fetched about the creation of the contract. -/
def Created.attest (created : Created) (attestation : Attestation) : Attestation :=
  { attestation with
    deployedCreation := some created.code
    block := created.block
    deployer := created.deployer
    index := created.index }

/-- Fetching the creation changes nothing but the chain, and gives the code in the normal form. -/
theorem fetchCreation_ends {attestation found : Attestation} {hash : String}
    {before after : Verification}
    (ends : (fetchCreation attestation hash).Ends before found after) :
    ∃ created : Created, found = created.attest attestation ∧
      created.code.normalize = created.code ∧ ∃ chain, after = { before with chain } := by
  replace ends := ends_get_bind.mp ends
  obtain ⟨answer, _, fetched, ends⟩ := ends_bind.mp ends
  obtain ⟨_, rfl⟩ := onChain_outcome_ends fetched
  split at ends
  · replace ends := ends_pure_bind.mp ends
    obtain ⟨answer, _, fetched, ends⟩ := ends_bind.mp ends
    obtain ⟨chain, rfl⟩ := onChain_outcome_ends fetched
    split at ends
    · replace ends := ends_pure_bind.mp ends
      obtain ⟨characters, -, ends⟩ := ends_reading_bind.mp ends
      obtain ⟨_, -, ends⟩ := ends_reading_bind.mp ends
      obtain ⟨block, -, ends⟩ := ends_reading_bind.mp ends
      obtain ⟨deployer, -, ends⟩ := ends_reading_bind.mp ends
      obtain ⟨_, -, ends⟩ := ends_reading_bind.mp ends
      obtain ⟨index, -, ends⟩ := ends_reading_bind.mp ends
      obtain ⟨rfl, rfl⟩ := ends_pure.mp ends
      exact ⟨⟨Code.normalize characters, block, index, deployer⟩, rfl,
        Code.normalize_normalize characters, chain, rfl⟩
    · exact absurd ends not_ends_throw_bind
    · exact absurd ends not_ends_throw_bind
  · exact absurd ends not_ends_throw_bind
  · exact absurd ends not_ends_throw_bind

end Verification

end Attest
