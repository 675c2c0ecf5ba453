import Attest.Proofs.Verification.Steps
import Mathlib.Logic.Relation

/-!
# The rounds of a verification

A round compiles last either the compilation that it began with or the one that a search found, and
all that it puts into the attestation comes from that run of the compiler (`round_ends`). A second
round replaces all that the first has put there (`LastRun.attest_attest`), so the rounds together end
as one does, with a longer history behind the last run (`rounds_ends`).
-/
namespace Attest

open Attempt

/-- What a verification may do with its compilation: compile it, locate the auxdatas of what was
compiled, or put a compilation that a search found for the deployed code in its place. -/
inductive Compilation.Works (recovery : Option Recovery) (deployed : Code) :
    Compilation → Compilation → Prop
  | compiled {alternate : Bool} {before after : Compilation} {artifact : Artifact} :
    (Compilation.compile alternate).Ends before artifact after →
      Works recovery deployed before after
  | located {alternate : Bool} {before after : Compilation} {places : LocatedAuxdatas} :
    Verification.Locates alternate before places after → Works recovery deployed before after
  | replaced {search : Recovery} {number : Nat} {before after : Compilation} :
    recovery = some search → search.find number before deployed = .ok (some after) →
      Works recovery deployed before after

/-- What a verification has done with its compilation, step by step. -/
abbrev Compilation.History (recovery : Option Recovery) (deployed : Code) :
    Compilation → Compilation → Prop :=
  Relation.ReflTransGen (Compilation.Works recovery deployed)

/-- The last run of the compiler in a history: from the compilation `first` that the history begins
with to the compilation `last` that it ends with, with the auxdatas located after the run and the
verdict on the deployed code. After the run nothing but the auxdatas is looked for. -/
structure LastRun (recovery : Option Recovery) (deployed : Code) (first last : Compilation) where
  /-- Whether the other build was asked for. -/
  alternate : Bool
  /-- The compilation before the run. -/
  before : Compilation
  /-- The compilation after the run. -/
  compiled : Compilation
  /-- What the run gave. -/
  artifact : Artifact
  /-- The places of auxdatas in the two bytecodes. -/
  places : LocatedAuxdatas
  /-- The verdict on the deployed code. -/
  verdict : Match
  /-- What was done before the run. -/
  history : Compilation.History recovery deployed first before
  /-- The run. -/
  ran : (Compilation.compile alternate).Ends before artifact compiled
  /-- The auxdatas are located in what the run has compiled. -/
  located : Verification.Locates alternate compiled places last
  /-- The verdict is on the code of the run, with the references, places and style of the run. -/
  decided : Match.runtime artifact.runtimeCode deployed (LibrarySlot.listing artifact.runtimeLinks)
    (places.runtime.getD []) artifact.immutables.slots last.style = .ok verdict

namespace LastRun

variable {recovery : Option Recovery} {deployed : Code} {first last : Compilation}

/-- An attestation with all that a round puts into it. -/
def attest (run : LastRun recovery deployed first last) (attestation : Attestation) :
    Attestation :=
  { attestation with
    compiledRuntime := some run.artifact.runtimeCode
    compiledCreation := some run.artifact.creationCode
    origin := some last.origin
    runtimeMatch := some run.verdict }

/-- A later run leaves nothing of an earlier one in the attestation. -/
theorem attest_attest {middle : Compilation} (run : LastRun recovery deployed middle last)
    (earlier : LastRun recovery deployed first middle) (attestation : Attestation) :
    run.attest (earlier.attest attestation) = run.attest attestation := rfl

/-- After the run the compiler is asked about edited sources only. -/
theorem asked (run : LastRun recovery deployed first last) :
    Compilation.Asked run.compiled last :=
  run.located.asked (Compilation.compile_fresh run.ran).1

/-- What the run gave stays the artifact. -/
theorem artifact_eq (run : LastRun recovery deployed first last) :
    last.artifact = some run.artifact :=
  run.asked.kept.1.trans (Compilation.compile_fresh run.ran).1

/-- What the run gave is what is read in the last output, and that is the output of the run. -/
theorem read_eq (run : LastRun recovery deployed first last) :
    last.read = .ok run.artifact ∧ last.output = run.compiled.output := by
  obtain ⟨-, output, read⟩ := run.asked.kept
  exact ⟨read.trans (Compilation.compile_fresh run.ran).2.2, output⟩

/-- The history of a run goes on to the last compilation. -/
theorem history_last (run : LastRun recovery deployed first last) :
    Compilation.History recovery deployed first last :=
  (run.history.tail (.compiled run.ran)).tail (.located run.located)

/-- A run with a longer history. -/
def since {middle : Compilation} (run : LastRun recovery deployed middle last)
    (earlier : Compilation.History recovery deployed first middle) :
    LastRun recovery deployed first last :=
  { run with history := earlier.trans run.history }

end LastRun

namespace Verification

/-- A verification that goes on: its address, chain, transaction and search stay as they are. -/
def GoesOn (before after : Verification) : Prop :=
  ∃ compilation replaced searches, after = { before with compilation, replaced, searches }

/-- Going on twice is going on. -/
theorem GoesOn.trans {first second third : Verification} (begins : first.GoesOn second)
    (ends : second.GoesOn third) : first.GoesOn third := by
  obtain ⟨_, _, _, rfl⟩ := begins
  obtain ⟨compilation, replaced, searches, rfl⟩ := ends
  exact ⟨compilation, replaced, searches, rfl⟩

/-- A verification that goes on keeps its chain. -/
theorem GoesOn.chain_eq {before after : Verification} (goes_on : before.GoesOn after) :
    after.chain = before.chain := by
  obtain ⟨_, _, _, rfl⟩ := goes_on
  rfl

/-- Matching what a run has compiled puts into the attestation all that a round puts into it. -/
theorem matchRuntime_lastRun {attestation found : Attestation} {recovery : Option Recovery}
    {deployed : Code} {alternate : Bool} {first before compiled : Compilation} {artifact : Artifact}
    {places : LocatedAuxdatas} {state after : Verification}
    (known : attestation.deployedRuntime = some deployed)
    (history : Compilation.History recovery deployed first before)
    (ran : (Compilation.compile alternate).Ends before artifact compiled)
    (located : Locates alternate compiled places state.compilation)
    (ends : (matchRuntime (attestation.withCodes artifact compiled) places.runtime).Ends state found
      after) :
    ∃ run : LastRun recovery deployed first state.compilation,
      run.places = places ∧ found = run.attest attestation ∧ after = state := by
  have there := (Compilation.compile_fresh ran).1
  have asked := located.asked there
  obtain ⟨verdict, decided, rfl, same⟩ := matchRuntime_ends (asked.kept.1.trans there) ends
  simp only [Attestation.withCodes, known, Option.getD_some] at decided
  let run : LastRun recovery deployed first state.compilation := {
    alternate, before, compiled, artifact, places, verdict, history, ran, located, decided }
  have origin : compiled.origin = state.compilation.origin :=
    (Compilation.sameTask_of_asked asked).origin_eq
  refine ⟨run, rfl, ?_, same⟩
  rw [LastRun.attest, ← origin]
  rfl

/-- A round puts into the attestation what its last run of the compiler gave, and nothing else. -/
theorem round_ends {attestation : Attestation} {deployed : Code} {alternate : Bool}
    {before after : Verification} {result : Round}
    (known : attestation.deployedRuntime = some deployed)
    (ends : (round attestation alternate).Ends before result after) :
    (∃ run : LastRun before.recovery deployed before.compilation after.compilation,
      result = ⟨run.attest attestation, run.places.creation⟩) ∧ before.GoesOn after := by
  obtain ⟨_, _, compile_ended, ends⟩ := ends_bind.mp ends
  obtain ⟨_, middle, recover_ended, ends⟩ := ends_bind.mp ends
  replace ends := ends_get_bind.mp ends
  obtain ⟨_, -, ends⟩ := ends_liftM_bind.mp ends
  obtain ⟨places, _, locate_ended, ends⟩ := ends_bind.mp ends
  obtain ⟨last, located, rfl⟩ := locate_ends locate_ended
  obtain ⟨_, _, match_ended, ends⟩ := ends_bind.mp ends
  obtain ⟨rfl, rfl⟩ := ends_pure.mp ends
  obtain ⟨artifact, compiled, ran, rfl, rfl⟩ := compile_ends compile_ended
  rcases recover_ends recover_ended with ⟨rfl, searches, rfl⟩ |
    ⟨search, recovered, artifact_again, compiled_again, searches, searched, answered, ran_again,
      rfl, rfl⟩
  · have history : Compilation.History before.recovery deployed before.compilation
        before.compilation := .refl
    obtain ⟨run, same, rfl, rfl⟩ := matchRuntime_lastRun known history ran located match_ended
    exact ⟨⟨run, by rw [same]⟩, last, before.replaced, searches, rfl⟩
  · rw [show (attestation.withCodes artifact compiled).deployedRuntime = some deployed from known]
      at answered
    have history : Compilation.History before.recovery deployed before.compilation recovered :=
      (Relation.ReflTransGen.single (.compiled ran)).tail (.replaced searched answered)
    obtain ⟨run, same, rfl, rfl⟩ := matchRuntime_lastRun known history ran_again located match_ended
    exact ⟨⟨run, by rw [same]⟩, last, _, searches, rfl⟩

/-- The rounds put into the attestation what the last run of the compiler gave, and nothing else. -/
theorem rounds_ends {attestation : Attestation} {deployed : Code} {before after : Verification}
    {result : Round} (known : attestation.deployedRuntime = some deployed)
    (ends : (rounds attestation).Ends before result after) :
    (∃ run : LastRun before.recovery deployed before.compilation after.compilation,
      result = ⟨run.attest attestation, run.places.creation⟩) ∧ before.GoesOn after := by
  obtain ⟨first, middle, first_ended, ends⟩ := ends_bind.mp ends
  obtain ⟨⟨run, rfl⟩, goes_on⟩ := round_ends known first_ended
  split at ends
  · obtain ⟨rfl, rfl⟩ := ends_pure.mp ends
    exact ⟨⟨run, rfl⟩, goes_on⟩
  · replace ends := ends_get_bind.mp ends
    obtain ⟨chance, -, ends⟩ := ends_liftM_bind.mp ends
    split at ends
    · obtain ⟨second, last, second_ended, ends⟩ := ends_bind.mp ends
      have known_again : (run.attest attestation).deployedRuntime = some deployed := known
      obtain ⟨⟨again, rfl⟩, goes_on_again⟩ := round_ends known_again second_ended
      have both := goes_on.trans goes_on_again
      -- The second round begins with the compilation that the first has left, swapped or not.
      obtain ⟨_, _, _, rfl⟩ := goes_on
      let whole := again.since run.history_last
      have replaced : again.attest (run.attest attestation) = whole.attest attestation :=
        again.attest_attest run attestation
      rw [replaced] at ends
      split at ends
      · obtain ⟨rfl, rfl⟩ := ends_pure.mp ends
        exact ⟨⟨whole, rfl⟩, both⟩
      · replace ends := ends_get_bind.mp ends
        obtain ⟨_, -, ends⟩ := ends_liftM_bind.mp ends
        obtain ⟨rfl, rfl⟩ := ends_pure.mp ends
        exact ⟨⟨whole, rfl⟩, both⟩
    · replace ends := ends_get_bind.mp ends
      obtain ⟨_, -, ends⟩ := ends_liftM_bind.mp ends
      obtain ⟨rfl, rfl⟩ := ends_pure.mp ends
      exact ⟨⟨run, rfl⟩, goes_on⟩

end Verification

end Attest
