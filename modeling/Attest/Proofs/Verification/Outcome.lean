import Mathlib.Control.Monad.Basic
import Attest.Proofs.Verification.LastRound

/-!
# What a verification comes to

A verification is interrupted by the first of its steps that fails (`Interrupted`), and otherwise it
is decided by its last round (`verify_outcome`): it is refused if the codes differ there although
they carry the same auxdata, else if their lengths do not fit, else if no code matches, and ends
well otherwise. What is read of the settings of a compilation may fail like any other step
(`interrupted_of_unsettled`).
-/
namespace Attest.Verification

open Attempt

/-- A last round that is not refused for its extra files. -/
def Accepts (last : Round) (compilation : Compilation) : Prop :=
  (RoundEnd.judged last).Differs → ¬ ExtraFiles compilation last.attestation

/-- A verification that a step interrupts: the step that fetches the code, one of the rounds, the
one that looks up the creation of the contract, or the one that matches its code. -/
inductive Interrupted (began : Verification) : Failure → Prop
  | fetching {failure : Failure} : fetchRuntime.Fails began failure → Interrupted began failure
  | rounds {failure : Failure} : RoundsInterrupted began failure → Interrupted began failure
  | lookingUp {last : Round} {after : Verification} {hash : String} {failure : Failure} :
    LastRound began (.judged last) after → Accepts last after.compilation →
    began.creator.filter (! ·.isEmpty) = some hash →
    (fetchCreation last.attestation hash).Fails after failure → Interrupted began failure
  | matching {last : Round} {after fetched : Verification} {hash : String} {found : Attestation}
      {failure : Failure} :
    LastRound began (.judged last) after → Accepts last after.compilation →
    began.creator.filter (! ·.isEmpty) = some hash →
    (fetchCreation last.attestation hash).Ends after found fetched →
    (matchCreation found last.creation).Fails fetched failure → Interrupted began failure

/-- Whether the code that created the contract does not match: no transaction is named, or the one
that is named is found, and the verdict on its code is that the codes differ. -/
inductive CreationDiffers (creator : Option String) (last : Round) (after : Verification) : Prop
  | unnamed : creator.filter (! ·.isEmpty) = none → CreationDiffers creator last after
  | named {hash : String} {found judged : Attestation} {fetched judged_at : Verification} :
    creator.filter (! ·.isEmpty) = some hash →
    (fetchCreation last.attestation hash).Ends after found fetched →
    (matchCreation found last.creation).Ends fetched judged judged_at →
    Attestation.statusOf judged.creationMatch = .differs → CreationDiffers creator last after

/-- What a verification comes to after its last round. -/
structure Outcome (creator : Option String) (ended : RoundEnd) (after : Verification)
    (result : Except Failure Attestation) : Prop where
  /-- It is refused for its extra files if the codes differ and carry the same auxdata. -/
  extraFiles : result = .error (.verification .extraFiles) ↔
    ended.Differs ∧ ExtraFiles after.compilation ended.attestation
  /-- It is refused for the lengths of its codes if they do not fit, and not for its extra files. -/
  uneven : (∃ compiled deployed,
      result = .error (.verification (.lengthMismatch compiled deployed))) ↔
    ∃ found, ended = .uneven found ∧ ¬ ExtraFiles after.compilation found
  /-- It finds no match if neither the code that runs nor the code that created it matches. -/
  noMatch : result = .error (.verification .noMatch) ↔
    ∃ last, ended = .judged last ∧ ended.Differs ∧
      ¬ ExtraFiles after.compilation last.attestation ∧ CreationDiffers creator last after
  /-- It ends well if the code that runs matches, or the code that created it does. -/
  returns : (∃ found, result = .ok found) ↔
    ∃ last, ended = .judged last ∧ (ended.Differs →
      ¬ ExtraFiles after.compilation last.attestation ∧ ¬ CreationDiffers creator last after)

section

variable {creator : Option String} {after : Verification}

/-- A last round whose codes differ and carry the same auxdata is refused for its extra files. -/
theorem Outcome.of_extraFiles {ended : RoundEnd} (differs : ended.Differs)
    (extra : ExtraFiles after.compilation ended.attestation) :
    Outcome creator ended after (.error (.verification .extraFiles)) where
  extraFiles := iff_of_true rfl ⟨differs, extra⟩
  uneven := by
    refine iff_of_false (by rintro ⟨_, _, ⟨⟩⟩) ?_
    rintro ⟨found, rfl, absent⟩
    exact absent extra
  noMatch := by
    refine iff_of_false (by rintro ⟨⟩) ?_
    rintro ⟨last, rfl, -, absent, -⟩
    exact absent extra
  returns := by
    refine iff_of_false (by rintro ⟨_, ⟨⟩⟩) ?_
    rintro ⟨last, rfl, matches_code⟩
    exact (matches_code differs).1 extra

/-- A last round whose codes are of lengths that do not fit is refused for them. -/
theorem Outcome.of_uneven {found : Attestation} (compiled deployed : Nat)
    (absent : ¬ ExtraFiles after.compilation found) :
    Outcome creator (.uneven found) after
      (.error (.verification (.lengthMismatch compiled deployed))) where
  extraFiles := iff_of_false (by rintro ⟨⟩) fun ⟨_, extra⟩ => absent extra
  uneven := iff_of_true ⟨compiled, deployed, rfl⟩ ⟨found, rfl, absent⟩
  noMatch := iff_of_false (by rintro ⟨⟩) (by rintro ⟨_, ⟨⟩, _⟩)
  returns := iff_of_false (by rintro ⟨_, ⟨⟩⟩) (by rintro ⟨_, ⟨⟩, _⟩)

/-- A last round whose codes differ finds no match if the code that created the contract differs. -/
theorem Outcome.of_noMatch {last : Round} (differs : (RoundEnd.judged last).Differs)
    (absent : ¬ ExtraFiles after.compilation last.attestation)
    (creation : CreationDiffers creator last after) :
    Outcome creator (.judged last) after (.error (.verification .noMatch)) where
  extraFiles := iff_of_false (by rintro ⟨⟩) fun ⟨_, extra⟩ => absent extra
  uneven := iff_of_false (by rintro ⟨_, _, ⟨⟩⟩) (by rintro ⟨_, ⟨⟩, _⟩)
  noMatch := iff_of_true rfl ⟨last, rfl, differs, absent, creation⟩
  returns := by
    refine iff_of_false (by rintro ⟨_, ⟨⟩⟩) ?_
    rintro ⟨_, ⟨⟩, matches_code⟩
    exact (matches_code differs).2 creation

/-- A last round that is not refused and matches on one side ends well. -/
theorem Outcome.of_matched {last : Round} (found : Attestation)
    (matches_code : (RoundEnd.judged last).Differs →
      ¬ ExtraFiles after.compilation last.attestation ∧ ¬ CreationDiffers creator last after) :
    Outcome creator (.judged last) after (.ok found) where
  extraFiles := iff_of_false (by rintro ⟨⟩)
    fun ⟨differs, extra⟩ => (matches_code differs).1 extra
  uneven := iff_of_false (by rintro ⟨_, _, ⟨⟩⟩) (by rintro ⟨_, ⟨⟩, _⟩)
  noMatch := by
    refine iff_of_false (by rintro ⟨⟩) ?_
    rintro ⟨_, ⟨⟩, differs, -, creation⟩
    exact (matches_code differs).2 creation
  returns := iff_of_true ⟨found, rfl⟩ ⟨last, rfl, matches_code⟩

/-- The code that created the contract differs exactly if the verdict on it says so. -/
theorem creationDiffers_iff {last : Round} {hash : String} {found judged : Attestation}
    {fetched judged_at : Verification} (named : creator.filter (! ·.isEmpty) = some hash)
    (fetches : (fetchCreation last.attestation hash).Ends after found fetched)
    (judges : (matchCreation found last.creation).Ends fetched judged judged_at) :
    CreationDiffers creator last after ↔ Attestation.statusOf judged.creationMatch = .differs := by
  refine ⟨fun creation => ?_, .named named fetches judges⟩
  cases creation with
  | unnamed absent => exact absurd (named.symm.trans absent) nofun
  | named named_again fetches_again judges_again differs =>
    obtain rfl := Option.some.inj (named.symm.trans named_again)
    obtain ⟨rfl, rfl⟩ := fetches.unique fetches_again
    obtain ⟨rfl, -⟩ := judges.unique judges_again
    exact differs

end

/-- Keeping the difference for a reader ends well. -/
theorem noteDifference_total (attestation : Attestation) (before : Verification) :
    ∃ after, (noteDifference attestation).Ends before () after := by
  unfold Ends
  rw [noteDifference, ended_get_bind]
  split
  · exact ⟨_, rfl⟩
  · exact ⟨before, rfl⟩

/-- An attestation is handed out if it matches on one side, and refused otherwise. -/
theorem concluded (attestation : Attestation) (before : Verification) :
    (Attempt.ended (
      if attestation.matched then pure attestation
      else do
        noteDifference attestation
        throw (.verification .noMatch) : Attempt Verification Attestation) before).1 =
      if attestation.matched then .ok attestation else .error (.verification .noMatch) := by
  split
  · rfl
  · obtain ⟨after, notes⟩ := noteDifference_total attestation before
    rw [notes.ended_bind]
    rfl

/-- An attestation does not match exactly if both verdicts are that the codes differ. -/
theorem not_matched_iff (attestation : Attestation) :
    ¬ attestation.matched = true ↔ Attestation.statusOf attestation.runtimeMatch = .differs ∧
      Attestation.statusOf attestation.creationMatch = .differs := by
  simp [Attestation.matched, MatchStatus.matched]

/-- A last round that is not refused comes to its attestation, completed by the verdict on the
creation of the contract, or finds no match. -/
theorem Outcome.of_accepts {creator : Option String} {last : Round} {after : Verification}
    {attestation : Attestation} (accepts : Accepts last after.compilation)
    (same : attestation.runtimeMatch = last.attestation.runtimeMatch)
    (creation : CreationDiffers creator last after ↔
      Attestation.statusOf attestation.creationMatch = .differs) :
    Outcome creator (.judged last) after
      (if attestation.matched then .ok attestation else .error (.verification .noMatch)) := by
  split
  · rename_i matched
    refine .of_matched attestation fun differs => ⟨accepts differs, fun creation_differs => ?_⟩
    have runtime : Attestation.statusOf attestation.runtimeMatch = .differs := same ▸ differs
    exact (not_matched_iff attestation).mpr ⟨runtime, creation.mp creation_differs⟩ matched
  · rename_i unmatched
    obtain ⟨runtime, creation_differs⟩ := (not_matched_iff attestation).mp unmatched
    have differs : (RoundEnd.judged last).Differs := by
      rw [RoundEnd.Differs, ← same]
      exact runtime
    exact .of_noMatch differs (accepts differs) (creation.mpr creation_differs)

/-- The attestation of a last round, with what is found about the creation of the contract. -/
def complete (creator : Option String) (last : Round) : Attempt Verification Attestation :=
  match creator.filter (! ·.isEmpty) with
  | none => pure last.attestation
  | some hash => do
    let attestation ← fetchCreation last.attestation hash
    matchCreation attestation last.creation

/-- A verification goes on from its rounds with the creation of the contract, and concludes. -/
theorem verify_ended_of_rounds {began asked after : Verification} {deployed : Code} {last : Round}
    (fetches : fetchRuntime.Ends began deployed asked)
    (ends : (rounds (began.beginning deployed)).Ends asked last after) :
    verify.ended began = Attempt.ended (do
      let attestation ← complete began.creator last
      if attestation.matched then return attestation
      else
        noteDifference attestation
        throw (.verification .noMatch) : Attempt Verification Attestation) after := by
  rw [verify, ended_get_bind, fetches.ended_bind]
  refine (ends.ended_bind _).trans ?_
  unfold complete
  cases began.creator.filter (! ·.isEmpty) with
  | none => rfl
  | some hash => exact (ended_bind_assoc (fetchCreation last.attestation hash) _ _ after).symm

/-- What is found about the creation of the contract completes the attestation of a last round that
is not refused, or a step interrupts the verification. -/
theorem complete_decides {began after : Verification} {last : Round}
    (last_round : LastRound began (.judged last) after) (accepts : Accepts last after.compilation) :
    (∃ failure, Interrupted began failure ∧
      (complete began.creator last).Fails after failure) ∨
    ∃ attestation later, (complete began.creator last).Ends after attestation later ∧
      attestation.runtimeMatch = last.attestation.runtimeMatch ∧
      (CreationDiffers began.creator last after ↔
        Attestation.statusOf attestation.creationMatch = .differs) := by
  obtain ⟨⟨artifact, there⟩, unknown⟩ := last_round.left
  unfold complete
  cases named : began.creator.filter (! ·.isEmpty) with
  | none =>
    refine .inr ⟨last.attestation, after, rfl, rfl, iff_of_true (.unnamed named) ?_⟩
    rw [unknown]
    rfl
  | some hash =>
    rcases ends_or_fails (fetchCreation last.attestation hash) after with
      ⟨found, fetched, fetches⟩ | ⟨failure, fails⟩
    · rcases ends_or_fails (matchCreation found last.creation) fetched with
        ⟨judged, judged_at, judges⟩ | ⟨failure, fails⟩
      · refine .inr ⟨judged, judged_at, ends_bind.mpr ⟨found, fetched, fetches, judges⟩, ?_,
          creationDiffers_iff named fetches judges⟩
        obtain ⟨_, rfl, -, chain, rfl⟩ := fetchCreation_ends fetches
        obtain ⟨_, -, rfl, -⟩ := matchCreation_ends (by exact there) judges
        rfl
      · refine .inl ⟨failure, .matching last_round accepts named fetches fails, ?_⟩
        dsimp only
        rwa [Fails, fetches.ended_bind]
    · exact .inl ⟨failure, .lookingUp last_round accepts named fails, fails.bind _⟩

/-- **The outcome of a verification.** A verification fails with what interrupts it, or it is
decided by its last round: it is refused if the codes differ there although they carry the same
auxdata, else if their lengths do not fit, else if neither the code that runs nor the code that
created the contract matches, and it ends well otherwise. -/
theorem verify_outcome (began : Verification) :
    (∃ failure, Interrupted began failure ∧ verify.Fails began failure) ∨
    ∃ ended after, LastRound began ended after ∧
      Outcome began.creator ended after (verify.ended began).1 := by
  rcases ends_or_fails fetchRuntime began with ⟨deployed, asked, fetches⟩ | ⟨failure, fails⟩
  case inr =>
    refine .inl ⟨failure, .fetching fails, ?_⟩
    rw [Fails, verify, ended_get_bind]
    exact fails.bind _
  have fails_so {failure : Failure}
      (fails : (rounds (began.beginning deployed)).Fails asked failure) :
      verify.Fails began failure := by
    rw [Fails, verify, ended_get_bind, fetches.ended_bind]
    exact fails.bind _
  rcases rounds_settle fetches with
    ⟨failure, interrupted, fails⟩ | ⟨ended, after, last_round, settles⟩
  case inl => exact .inl ⟨failure, .rounds interrupted, fails_so fails⟩
  rcases settle_decides after.compilation ended with
    ⟨differs, extra, settled⟩ | ⟨found, compiled, deployed, rfl, absent, settled⟩ |
    ⟨last, rfl, accepts, settled⟩ | ⟨failure, differs, unread, settled⟩
  · refine .inr ⟨ended, after, last_round, ?_⟩
    have fails : verify.Fails began (.verification .extraFiles) := fails_so (settles.fails settled)
    rw [fails]
    exact .of_extraFiles differs extra
  · refine .inr ⟨.uneven found, after, last_round, ?_⟩
    have fails : verify.Fails began (.verification (.lengthMismatch compiled deployed)) :=
      fails_so (settles.fails settled)
    rw [fails]
    exact .of_uneven compiled deployed absent
  · have ends := verify_ended_of_rounds fetches (settles.ends settled)
    rcases complete_decides last_round accepts with
      ⟨failure, interrupted, fails⟩ | ⟨attestation, later, completes, same, creation⟩
    · refine .inl ⟨failure, interrupted, ?_⟩
      rw [Fails, ends]
      exact fails.bind _
    · refine .inr ⟨.judged last, after, last_round, ?_⟩
      rw [ends, completes.ended_bind, concluded]
      exact .of_accepts accepts same creation
  · have interrupted : RoundsInterrupted began failure := .checking last_round differs unread
    exact .inl ⟨failure, .rounds interrupted, fails_so (settles.fails settled)⟩

/-- A compiler's output whose metadata document is a list, so that no settings can be read in it. -/
def unsettledOutput : Json :=
  .record [("contracts", .record [("C.sol", .record [("C", .record [
    ("metadata", .text "[]"), ("abi", .list []),
    ("evm", .record [
      ("bytecode", .record [("object", .text "60aa6002600255")]),
      ("deployedBytecode", .record [("object", .text "6002600255")])])])])])]

/-- A verification of code that differs from the compiled one in its numbers. -/
def unsettled : Verification where
  compilation := { sampleCompilation [] with
    compiler := .known [.ok unsettledOutput]
    version := "0.8.21" }
  chain := {
    id := 1
    name := "1"
    settings := {}
    providers := [⟨"http://localhost", .record [], .null⟩]
    network := { replies := [.pieces 200 [(0, "\x7b\"result\":\"0x6001600155\"\x7d")]] } }
  address := sampleAddress

/-- A reading of the settings interrupts a verification whose other steps end well: the code is
fetched, the round ends with the verdict that the codes differ, the version and both ends of code
are read, and no creation is to be looked up. -/
theorem interrupted_of_unsettled :
    ∃ deployed asked last after version,
      fetchRuntime.Ends unsettled deployed asked ∧
      (round (unsettled.beginning deployed) false).Ends asked last after ∧
      Attestation.statusOf last.attestation.runtimeMatch = .differs ∧
      Version.ofText after.compilation.version = .ok version ∧
      version.before orderFixed = false ∧
      payload last.attestation.deployedRuntime = .ok none ∧
      payload last.attestation.compiledRuntime = .ok none ∧ unsettled.creator = none ∧
      verify.Fails unsettled (.fault .wrongKind) := by
  have fetched : (fetchRuntime.ended unsettled).1.toOption =
      some (Code.marked "6001600155".toList) := by decide +kernel
  let deployed := Code.marked "6001600155".toList
  let ran := (round (unsettled.beginning deployed) false).ended (fetchRuntime.ended unsettled).2
  obtain ⟨told, failed⟩ : (ran.1.toOption.any fun last =>
        decide (Attestation.statusOf last.attestation.runtimeMatch = .differs ∧
          (Version.ofText ran.2.compilation.version).toOption = some ⟨0, 8, 21⟩ ∧
          (payload last.attestation.deployedRuntime).toOption = some none ∧
          (payload last.attestation.compiledRuntime).toOption = some none)) = true ∧
      (verify.ended unsettled).1.map (fun _ => ()) = .error (.fault .wrongKind) := by
    decide +kernel
  obtain ⟨last, given, facts⟩ := (Option.any_eq_true ..).mp told
  obtain ⟨differs, version, first, second⟩ := of_decide_eq_true facts
  exact ⟨deployed, _, last, _, ⟨0, 8, 21⟩, Prod.ext (Result.eq_ok_of_toOption fetched) rfl,
    Prod.ext (Result.eq_ok_of_toOption given) rfl, differs, Result.eq_ok_of_toOption version,
    by decide, Result.eq_ok_of_toOption first, Result.eq_ok_of_toOption second, rfl,
    Result.map_eq_error.mp failed⟩

end Attest.Verification
