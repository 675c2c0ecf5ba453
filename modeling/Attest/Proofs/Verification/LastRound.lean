import Attest.Proofs.Verification.Retry

/-!
# The last round of a verification

The rounds of a verification are interrupted by the first of their steps that fails
(`RoundsInterrupted`), and otherwise they come to what becomes of the last of them
(`rounds_settle`): it is given, or refused because its codes differ although they carry the same
auxdata, or because their lengths do not fit. Locating auxdatas interrupts nothing: where it fails
the codes are compared without them. Of two rounds the second is the last, and the first is the last
only if its code is not one that the compiler orders by chance.
-/
namespace Attest

open Attempt

namespace Compilation

/-- Locating auxdatas in a compilation that has an artifact fails as a compilation if it fails. -/
theorem locate_decides (alternate : Bool) {compilation : Compilation} {artifact : Artifact}
    (there : compilation.artifact = some artifact) :
    (∃ places last, (locate alternate).Ends compilation places last) ∨
      ∃ error last, (locate alternate).ended compilation = (.error (.compilation error), last) := by
  unfold Ends
  rw [locate, ended_get_bind]
  cases compilation.located with
  | some places => exact .inl ⟨places, compilation, rfl⟩
  | none =>
    have had : compiled.Ends compilation artifact compilation := compiled_of_artifact there
    dsimp only
    rw [had.ended_bind, ended_get_bind, ended_outcome_bind]
    split
    · exact .inr ⟨_, _, rfl⟩
    · exact .inl ⟨_, _, rfl⟩

end Compilation

namespace Verification

/-- How a round can come to its end: its codes are of lengths that do not fit, or they are judged.
-/
inductive RoundEnd where
  | uneven (attestation : Attestation)
  | judged (round : Round)

namespace RoundEnd

/-- What the round has found. -/
def attestation : RoundEnd → Attestation
  | uneven attestation => attestation
  | judged round => round.attestation

/-- Whether the codes are found not to be the same: by their lengths, or by the verdict on them. -/
def Differs : RoundEnd → Prop
  | uneven _ => True
  | judged round => Attestation.statusOf round.attestation.runtimeMatch = .differs

end RoundEnd

variable {attestation : Attestation} {alternate : Bool} {before : Verification}

/-- Whether codes differ although they carry the same auxdata: a Solidity compiler with the
optimizer on compiled them from the same metadata. -/
structure ExtraFiles (compilation : Compilation) (attestation : Attestation) : Prop where
  /-- The language is Solidity. -/
  solidity : compilation.language = .solidity
  /-- The optimizer is on. -/
  optimized : compilation.optimized = .ok true
  /-- The deployed and the compiled code carry the same auxdata. -/
  same : ∃ data, payload attestation.deployedRuntime = .ok (some data) ∧
    payload attestation.compiledRuntime = .ok (some data)

/-- What cannot be read where extra files are checked for: the settings of the optimizer, or the end
of one of the codes. -/
inductive Unread (compilation : Compilation) (attestation : Attestation) : Failure → Prop
  | settings {fault : Fault} : compilation.optimized = .error fault →
    Unread compilation attestation (.fault fault)
  | deployed {failure : Failure} : payload attestation.deployedRuntime = .error failure →
    Unread compilation attestation failure
  | compiled {failure : Failure} : payload attestation.compiledRuntime = .error failure →
    Unread compilation attestation failure

/-- Where all is read that is read of Solidity code, the auxdatas decide. -/
theorem checkExtraFiles_of_read {compilation : Compilation} {attestation : Attestation}
    {deployed compiled : Option Code} (solidity : compilation.language = .solidity)
    (optimized : compilation.optimized = .ok true)
    (read_deployed : payload attestation.deployedRuntime = .ok deployed)
    (read_compiled : payload attestation.compiledRuntime = .ok compiled) :
    checkExtraFiles compilation attestation =
      if (deployed.isSome && deployed == compiled) = true then
        .error (.verification .extraFiles) else .ok () := by
  rw [checkExtraFiles, if_neg (not_not_intro solidity), optimized, read_deployed, read_compiled]
  by_cases same : (deployed.isSome && deployed == compiled) = true
  · exact (if_pos same).trans (if_pos same).symm
  · exact (if_neg same).trans (if_neg same).symm

/-- The check for extra files finds them, or finds that there are none, or cannot read on. -/
theorem checkExtraFiles_decides (compilation : Compilation) (attestation : Attestation) :
    (checkExtraFiles compilation attestation = .ok () ∧ ¬ ExtraFiles compilation attestation) ∨
    (checkExtraFiles compilation attestation = .error (.verification .extraFiles) ∧
      ExtraFiles compilation attestation) ∨
    ∃ failure, checkExtraFiles compilation attestation = .error failure ∧
      Unread compilation attestation failure := by
  by_cases other : compilation.language ≠ .solidity
  · rw [checkExtraFiles, if_pos other]
    exact .inl ⟨rfl, fun extra => other extra.solidity⟩
  have solidity : compilation.language = .solidity := Decidable.not_not.mp other
  cases told : compilation.optimized with
  | error fault =>
    rw [checkExtraFiles, if_neg other, told]
    exact .inr (.inr ⟨.fault fault, rfl, .settings told⟩)
  | ok optimized =>
  cases optimized with
  | false =>
    rw [checkExtraFiles, if_neg other, told]
    exact .inl ⟨rfl, fun extra => by simpa [told] using extra.optimized⟩
  | true =>
  cases deployed : payload attestation.deployedRuntime with
  | error failure =>
    rw [checkExtraFiles, if_neg other, told, deployed]
    exact .inr (.inr ⟨failure, rfl, .deployed deployed⟩)
  | ok first =>
  cases compiled : payload attestation.compiledRuntime with
  | error failure =>
    rw [checkExtraFiles, if_neg other, told, deployed, compiled]
    exact .inr (.inr ⟨failure, rfl, .compiled compiled⟩)
  | ok second =>
    have ran := checkExtraFiles_of_read solidity told deployed compiled
    by_cases same : (first.isSome && first == second) = true
    · rw [if_pos same] at ran
      rw [Bool.and_eq_true, beq_iff_eq] at same
      obtain ⟨data, rfl⟩ := Option.isSome_iff_exists.mp same.1
      obtain rfl := same.2
      exact .inr (.inl ⟨ran, solidity, told, data, deployed, compiled⟩)
    · rw [if_neg same] at ran
      refine .inl ⟨ran, fun extra => same ?_⟩
      obtain ⟨data, deployed_data, compiled_data⟩ := extra.same
      rw [deployed, Except.ok.injEq] at deployed_data
      rw [compiled, Except.ok.injEq] at compiled_data
      simp [deployed_data, compiled_data]

/-- What cannot be read where it is asked whether functions are ordered by chance: the version of
the compiler, or its settings. -/
inductive Unordered (compilation : Compilation) : Failure → Prop
  | version {failure : Failure} : Version.ofText compilation.version = .error failure →
    Unordered compilation failure
  | optimizer {fault : Fault} : compilation.optimized = .error fault →
    Unordered compilation (.fault fault)
  | intermediate {fault : Fault} : compilation.viaIntermediate = .error fault →
    Unordered compilation (.fault fault)

/-- Functions ordered by chance are found to be. -/
theorem OrderedByChance.found {compilation : Compilation} (ordered : OrderedByChance compilation) :
    ordersByChance compilation = .ok true := by
  obtain ⟨version, read, old⟩ := ordered.version
  have solidity : ¬ compilation.language ≠ .solidity := not_not_intro ordered.solidity
  have fixed : (!version.before orderFixed) = false := by rw [old, Bool.not_true]
  rw [ordersByChance, if_neg solidity, read, ordered.unoptimized, ordered.intermediate]
  simp only [bind, Except.bind, fixed]
  rfl

/-- It is found whether functions are ordered by chance, or what tells it cannot be read. -/
theorem ordersByChance_decides (compilation : Compilation) :
    (ordersByChance compilation = .ok true ∧ OrderedByChance compilation) ∨
    (ordersByChance compilation = .ok false ∧ ¬ OrderedByChance compilation) ∨
    ∃ failure, ordersByChance compilation = .error failure ∧ Unordered compilation failure := by
  cases found : ordersByChance compilation with
  | error failure =>
    refine .inr (.inr ⟨failure, rfl, ?_⟩)
    rw [ordersByChance] at found
    split at found
    · contradiction
    rcases Result.bind_eq_error.mp found with unread | ⟨version, -, found⟩
    · exact .version unread
    split at found
    · contradiction
    rcases Result.bind_eq_error.mp found with unread | ⟨optimized, -, found⟩
    · obtain ⟨fault, untold, rfl⟩ := Failure.lift_eq_error.mp unread
      exact .optimizer untold
    split at found
    · contradiction
    · obtain ⟨fault, untold, rfl⟩ := Failure.lift_eq_error.mp found
      exact .intermediate untold
  | ok chance =>
    cases chance with
    | true => exact .inl ⟨rfl, orderedByChance_of_eq found⟩
    | false =>
      refine .inr (.inl ⟨rfl, fun ordered => ?_⟩)
      rw [ordered.found] at found
      cases found

/-- A verification whose sources are compiled, and which has perhaps recovered the exact metadata.
-/
def Opens (attestation : Attestation) (alternate : Bool) (before : Verification)
    (found : Attestation) (opened : Verification) : Prop :=
  ∃ compiled middle, (compile attestation alternate).Ends before compiled middle ∧
    (recover compiled alternate).Ends middle found opened

/-- Codes of lengths that do not fit. -/
def Uneven (compilation : Compilation) (attestation : Attestation) : Prop :=
  lengthsDiffer compilation.language (Code.byteLength (attestation.compiledRuntime.getD []))
    (Code.byteLength (attestation.deployedRuntime.getD [])) = true

/-- A round whose steps end well: its end, and the verification there. -/
inductive Runs (attestation : Attestation) (alternate : Bool) (before : Verification) :
    RoundEnd → Verification → Prop
  | uneven {found : Attestation} {opened : Verification} :
    Opens attestation alternate before found opened → Uneven opened.compilation found →
    Runs attestation alternate before (.uneven found) opened
  | judged {found judged : Attestation} {places : LocatedAuxdatas}
      {opened middle after : Verification} :
    Opens attestation alternate before found opened → ¬ Uneven opened.compilation found →
    (locate alternate).Ends opened places middle →
    (matchRuntime found places.runtime).Ends middle judged after →
    Runs attestation alternate before (.judged ⟨judged, places.creation⟩) after

/-- A round that a step interrupts: one that compiles, that recovers the metadata, or that matches.
-/
inductive Interrupts (attestation : Attestation) (alternate : Bool) (before : Verification) :
    Failure → Prop
  | compiling {failure : Failure} : (compile attestation alternate).Fails before failure →
    Interrupts attestation alternate before failure
  | recovering {compiled : Attestation} {middle : Verification} {failure : Failure} :
    (compile attestation alternate).Ends before compiled middle →
    (recover compiled alternate).Fails middle failure →
    Interrupts attestation alternate before failure
  | matching {found : Attestation} {places : LocatedAuxdatas} {opened middle : Verification}
      {failure : Failure} :
    Opens attestation alternate before found opened → ¬ Uneven opened.compilation found →
    (locate alternate).Ends opened places middle →
    (matchRuntime found places.runtime).Fails middle failure →
    Interrupts attestation alternate before failure

/-- A verification whose sources are compiled has an artifact at hand. -/
theorem Opens.artifact {found : Attestation} {opened : Verification}
    (opens : Opens attestation alternate before found opened) :
    ∃ artifact, opened.compilation.artifact = some artifact := by
  obtain ⟨_, middle, compiled, recovered⟩ := opens
  obtain ⟨artifact, _, ran, -, rfl⟩ := compile_ends compiled
  rcases recover_ends recovered with ⟨-, _, rfl⟩ | ⟨_, _, again, _, _, -, -, ran_again, -, rfl⟩
  · exact ⟨artifact, (Compilation.compile_fresh ran).1⟩
  · exact ⟨again, (Compilation.compile_fresh ran_again).1⟩

/-- What an action on the compilation comes to, be it a failure, leaves everything else as it was.
-/
theorem ends_outcome_onCompilation {α : Type} {action : Attempt Compilation α}
    {result : Except Failure α} {last : Compilation}
    (ended : action.ended before.compilation = (result, last)) :
    (outcome (onCompilation action)).Ends before result { before with compilation := last } := by
  rw [ends_outcome, onCompilation, ended_within, ended]

/-- Locating auxdatas ends well wherever an artifact is at hand. -/
theorem locate_total (alternate : Bool) {artifact : Artifact}
    (there : before.compilation.artifact = some artifact) :
    ∃ places after, (locate alternate).Ends before places after := by
  rcases Compilation.locate_decides alternate there with ⟨places, last, ended⟩ |
    ⟨error, last, ended⟩
  · have asked := ends_outcome_onCompilation ended
    exact ⟨places, _, ends_bind.mpr ⟨_, _, asked, ends_pure.mpr ⟨rfl, rfl⟩⟩⟩
  · have asked := ends_outcome_onCompilation ended
    exact ⟨⟨none, none⟩, _, ends_bind.mpr ⟨_, _, asked, ends_pure.mpr ⟨rfl, rfl⟩⟩⟩

/-- The steps of a round end well, or one of them interrupts the round. -/
theorem runs_or_interrupts (attestation : Attestation) (alternate : Bool) (before : Verification) :
    (∃ ended after, Runs attestation alternate before ended after) ∨
      ∃ failure, Interrupts attestation alternate before failure := by
  rcases ends_or_fails (compile attestation alternate) before with
    ⟨compiled, middle, compiles⟩ | ⟨failure, fails⟩
  · rcases ends_or_fails (recover compiled alternate) middle with
      ⟨found, opened, recovers⟩ | ⟨failure, fails⟩
    · have opens : Opens attestation alternate before found opened :=
        ⟨compiled, middle, compiles, recovers⟩
      by_cases uneven : Uneven opened.compilation found
      · exact .inl ⟨.uneven found, opened, .uneven opens uneven⟩
      obtain ⟨artifact, there⟩ := opens.artifact
      obtain ⟨places, located, locates⟩ := locate_total alternate there
      rcases ends_or_fails (matchRuntime found places.runtime) located with
        ⟨judged, after, matches_code⟩ | ⟨failure, fails⟩
      · exact .inl ⟨_, after, .judged opens uneven locates matches_code⟩
      · exact .inr ⟨failure, .matching opens uneven locates fails⟩
    · exact .inr ⟨failure, .recovering compiles fails⟩
  · exact .inr ⟨failure, .compiling fails⟩

/-- What becomes of a last round: it is refused if its codes differ although they carry the same
auxdata, or if their lengths do not fit, and is given otherwise. -/
def RoundEnd.settle (compilation : Compilation) : RoundEnd → Except Failure Round
  | uneven found => do
    checkExtraFiles compilation found
    throw (.verification (.lengthMismatch
      (Code.byteLength (found.compiledRuntime.getD []))
      (Code.byteLength (found.deployedRuntime.getD []))))
  | judged last => do
    if (Attestation.statusOf last.attestation.runtimeMatch).matched then return last
    checkExtraFiles compilation last.attestation
    return last

/-- A verdict that does not find codes to differ finds them to match. -/
theorem matched_of_not_differs {last : Round} (same : ¬ (RoundEnd.judged last).Differs) :
    (Attestation.statusOf last.attestation.runtimeMatch).matched = true :=
  Decidable.byContradiction fun unmatched => same (eq_differs_of_not_matched unmatched)

/-- A verdict that codes differ does not find them to match. -/
theorem not_matched_of_differs {last : Round} (differs : (RoundEnd.judged last).Differs) :
    ¬ (Attestation.statusOf last.attestation.runtimeMatch).matched = true := by
  rw [RoundEnd.Differs] at differs
  rw [differs]
  decide

/-- A last round that matches is given. -/
theorem settle_of_not_differs {compilation : Compilation} {last : Round}
    (same : ¬ (RoundEnd.judged last).Differs) :
    (RoundEnd.judged last).settle compilation = .ok last := by
  rw [RoundEnd.settle, if_pos (matched_of_not_differs same)]
  rfl

/-- A last round whose codes differ fails as the check for extra files fails. -/
theorem settle_of_checked {compilation : Compilation} {ended : RoundEnd} {failure : Failure}
    (differs : ended.Differs)
    (checked : checkExtraFiles compilation ended.attestation = .error failure) :
    ended.settle compilation = .error failure := by
  cases ended with
  | uneven found =>
    replace checked : checkExtraFiles compilation found = .error failure := checked
    rw [RoundEnd.settle, checked]
    rfl
  | judged last =>
    replace checked : checkExtraFiles compilation last.attestation = .error failure := checked
    rw [RoundEnd.settle, if_neg (not_matched_of_differs differs), checked]
    rfl

/-- A last round is refused for its extra files or for its lengths or given, or what tells of extra
files cannot be read. -/
theorem settle_decides (compilation : Compilation) (ended : RoundEnd) :
    (ended.Differs ∧ ExtraFiles compilation ended.attestation ∧
      ended.settle compilation = .error (.verification .extraFiles)) ∨
    (∃ found compiled deployed, ended = .uneven found ∧ ¬ ExtraFiles compilation found ∧
      ended.settle compilation = .error (.verification (.lengthMismatch compiled deployed))) ∨
    (∃ last, ended = .judged last ∧ (ended.Differs → ¬ ExtraFiles compilation last.attestation) ∧
      ended.settle compilation = .ok last) ∨
    ∃ failure, ended.Differs ∧ Unread compilation ended.attestation failure ∧
      ended.settle compilation = .error failure := by
  by_cases differs : ended.Differs
  · rcases checkExtraFiles_decides compilation ended.attestation with
      ⟨checked, absent⟩ | ⟨checked, extra⟩ | ⟨failure, checked, unread⟩
    · cases ended with
      | uneven found =>
        replace checked : checkExtraFiles compilation found = .ok () := checked
        refine .inr (.inl ⟨found, Code.byteLength (found.compiledRuntime.getD []),
          Code.byteLength (found.deployedRuntime.getD []), rfl, absent, ?_⟩)
        rw [RoundEnd.settle, checked]
        rfl
      | judged last =>
        replace checked : checkExtraFiles compilation last.attestation = .ok () := checked
        refine .inr (.inr (.inl ⟨last, rfl, fun _ => absent, ?_⟩))
        rw [RoundEnd.settle, checked]
        exact ite_self _
    · exact .inl ⟨differs, extra, settle_of_checked differs checked⟩
    · exact .inr (.inr (.inr ⟨failure, differs, unread, settle_of_checked differs checked⟩))
  · cases ended with
    | uneven found => exact absurd trivial differs
    | judged last =>
      exact .inr (.inr (.inl ⟨last, rfl, (absurd · differs), settle_of_not_differs differs⟩))

/-- A round goes on from where its sources are compiled with the check of the lengths. -/
theorem Opens.round_ended {found : Attestation} {opened : Verification}
    (opens : Opens attestation alternate before found opened) :
    (round attestation alternate).ended before = Attempt.ended (do
      checkLength opened.compilation found
      let located ← locate alternate
      let attestation ← matchRuntime found located.runtime
      return ⟨attestation, located.creation⟩ : Attempt Verification Round) opened := by
  obtain ⟨_, _, compiles, recovers⟩ := opens
  rw [round, compiles.ended_bind, recovers.ended_bind]
  rfl

/-- A round whose codes are judged goes on after the check of the lengths. -/
theorem Opens.round_ended_of_even {found : Attestation} {opened : Verification}
    (opens : Opens attestation alternate before found opened)
    (even : ¬ Uneven opened.compilation found) :
    (round attestation alternate).ended before = Attempt.ended (do
      let located ← locate alternate
      let attestation ← matchRuntime found located.runtime
      return ⟨attestation, located.creation⟩ : Attempt Verification Round) opened := by
  have checked : checkLength opened.compilation found = .ok () := if_neg even
  rw [opens.round_ended, ended_liftM_bind checked]

/-- A round whose codes are judged ends well. -/
theorem Runs.ends {last : Round} {after : Verification}
    (runs : Runs attestation alternate before (.judged last) after) :
    (round attestation alternate).Ends before last after := by
  cases runs with
  | judged opens even locates matches_code =>
    rw [Ends, opens.round_ended_of_even even, locates.ended_bind, matches_code.ended_bind]
    rfl

/-- A round whose codes are of lengths that do not fit is settled at once. -/
theorem Runs.uneven_fails {found : Attestation} {opened : Verification}
    (runs : Runs attestation alternate before (.uneven found) opened) :
    ∃ failure, (RoundEnd.uneven found).settle opened.compilation = .error failure ∧
      (round attestation alternate).Fails before failure := by
  cases runs with
  | uneven opens uneven =>
    have checked : ∃ failure, checkLength opened.compilation found = .error failure ∧
        (RoundEnd.uneven found).settle opened.compilation = .error failure := by
      unfold Uneven at uneven
      rw [checkLength, if_pos uneven, RoundEnd.settle]
      cases checkExtraFiles opened.compilation found with
      | error failure => exact ⟨failure, rfl, rfl⟩
      | ok _ => exact ⟨_, rfl, rfl⟩
    obtain ⟨failure, checked, settled⟩ := checked
    refine ⟨failure, settled, ?_⟩
    rw [Fails, opens.round_ended, fails_liftM_bind checked]

/-- A round that a step interrupts fails as the step does. -/
theorem Interrupts.fails {failure : Failure}
    (interrupts : Interrupts attestation alternate before failure) :
    (round attestation alternate).Fails before failure := by
  cases interrupts with
  | compiling fails => exact fails.bind _
  | recovering compiles fails =>
    rw [Fails, round, compiles.ended_bind]
    exact fails.bind _
  | matching opens even locates fails =>
    rw [Fails, opens.round_ended_of_even even, locates.ended_bind]
    exact fails.bind _

/-- A verification after a first round in which the codes are judged to differ. -/
def FirstDiffers (began : Verification) (first : Round) (middle : Verification) : Prop :=
  ∃ deployed asked, fetchRuntime.Ends began deployed asked ∧
    Runs (began.beginning deployed) false asked (.judged first) middle ∧
    (RoundEnd.judged first).Differs

/-- The last round of a verification: the first one, unless the codes differ there and are ordered
by chance, and the second one otherwise. -/
inductive LastRound (began : Verification) : RoundEnd → Verification → Prop
  | first {deployed : Code} {asked after : Verification} {ended : RoundEnd} :
    fetchRuntime.Ends began deployed asked →
    Runs (began.beginning deployed) false asked ended after →
    (∀ last, ended = .judged last → ended.Differs → ¬ OrderedByChance after.compilation) →
    LastRound began ended after
  | second {first : Round} {middle after : Verification} {ended : RoundEnd} :
    FirstDiffers began first middle → OrderedByChance middle.compilation →
    Runs first.attestation true middle ended after → LastRound began ended after

/-- The rounds of a verification that a step interrupts: a step of a round, or a reading of what
tells whether there is a second round or whether the last one is refused. -/
inductive RoundsInterrupted (began : Verification) : Failure → Prop
  | first {deployed : Code} {asked : Verification} {failure : Failure} :
    fetchRuntime.Ends began deployed asked →
    Interrupts (began.beginning deployed) false asked failure → RoundsInterrupted began failure
  | ordering {first : Round} {middle : Verification} {failure : Failure} :
    FirstDiffers began first middle → Unordered middle.compilation failure →
    RoundsInterrupted began failure
  | second {first : Round} {middle : Verification} {failure : Failure} :
    FirstDiffers began first middle → OrderedByChance middle.compilation →
    Interrupts first.attestation true middle failure → RoundsInterrupted began failure
  | checking {ended : RoundEnd} {after : Verification} {failure : Failure} :
    LastRound began ended after → ended.Differs →
    Unread after.compilation ended.attestation failure → RoundsInterrupted began failure

/-- An action that comes to what becomes of a last round. -/
def Settles (action : Attempt Verification Round) (before : Verification) (ended : RoundEnd)
    (after : Verification) : Prop :=
  (∃ failure, ended.settle after.compilation = .error failure ∧ action.Fails before failure) ∨
    ∃ last, ended.settle after.compilation = .ok last ∧ action.Ends before last after

/-- What becomes of a last round that is refused is that it fails. -/
theorem Settles.fails {action : Attempt Verification Round} {ended : RoundEnd}
    {after : Verification} {failure : Failure} (settles : Settles action before ended after)
    (settled : ended.settle after.compilation = .error failure) : action.Fails before failure := by
  rcases settles with ⟨_, settled_so, fails⟩ | ⟨_, settled_so, -⟩
  · rw [settled_so, Except.error.injEq] at settled
    exact settled ▸ fails
  · exact absurd (settled_so.symm.trans settled) nofun

/-- What becomes of a last round that is given is that it ends well. -/
theorem Settles.ends {action : Attempt Verification Round} {ended : RoundEnd}
    {after : Verification} {last : Round} (settles : Settles action before ended after)
    (settled : ended.settle after.compilation = .ok last) : action.Ends before last after := by
  rcases settles with ⟨_, settled_so, -⟩ | ⟨_, settled_so, ends⟩
  · exact absurd (settled_so.symm.trans settled) nofun
  · rw [settled_so, Except.ok.injEq] at settled
    exact settled ▸ ends

/-- Giving a round, or refusing it for its extra files. -/
def give (last : Round) : Attempt Verification Round := do
  if (Attestation.statusOf last.attestation.runtimeMatch).matched then return last
  checkExtraFiles (← get).compilation last.attestation
  return last

/-- A round that is given or refused is settled as the last one. -/
theorem give_ended (last : Round) (after : Verification) :
    (give last).ended after = ((RoundEnd.judged last).settle after.compilation, after) := by
  rw [give, RoundEnd.settle]
  split
  · rfl
  · rw [ended_get_bind]
    cases checkExtraFiles after.compilation last.attestation with
    | error failure => exact fails_liftM_bind rfl _ after
    | ok _ => exact ended_liftM_bind rfl _ after

/-- An action that ends as giving or refusing a round does settles it. -/
theorem settles_of_ended {action : Attempt Verification Round} {last : Round}
    {after : Verification}
    (ended : action.ended before = ((RoundEnd.judged last).settle after.compilation, after)) :
    Settles action before (.judged last) after := by
  cases settled : (RoundEnd.judged last).settle after.compilation with
  | error failure =>
    rw [settled] at ended
    exact .inl ⟨failure, settled, congrArg Prod.fst ended⟩
  | ok given =>
    rw [settled] at ended
    exact .inr ⟨given, settled, ended⟩

/-- A second round is the last. -/
theorem Runs.settles_again {ended : RoundEnd} {after : Verification}
    (runs : Runs attestation true before ended after) :
    Settles (round attestation true >>= give) before ended after := by
  cases ended with
  | uneven found =>
    obtain ⟨failure, settled, fails⟩ := runs.uneven_fails
    exact .inl ⟨failure, settled, fails.bind _⟩
  | judged last =>
    apply settles_of_ended
    rw [runs.ends.ended_bind]
    exact give_ended last after

/-- The rounds fail if the first does. -/
theorem rounds_fails {failure : Failure} (fails : (round attestation false).Fails before failure) :
    (rounds attestation).Fails before failure := by
  rw [rounds]
  exact fails.bind _

section

variable {first : Round} {middle : Verification}
  (runs : Runs attestation false before (.judged first) middle)
include runs

/-- A first round that matches is given. -/
theorem Runs.rounds_ended_of_not_differs (same : ¬ (RoundEnd.judged first).Differs) :
    (rounds attestation).ended before =
      ((RoundEnd.judged first).settle middle.compilation, middle) := by
  rw [rounds, runs.ends.ended_bind, if_pos (matched_of_not_differs same),
    settle_of_not_differs same]
  rfl

variable (differs : (RoundEnd.judged first).Differs)
include differs

/-- After a first round in which the codes differ it is asked whether they are ordered by chance. -/
theorem Runs.rounds_ended :
    (rounds attestation).ended before = Attempt.ended (do
      if ← ordersByChance middle.compilation then
        round first.attestation true >>= give
      else
        give first) middle := by
  have unmatched := not_matched_of_differs differs
  rw [rounds, runs.ends.ended_bind, if_neg unmatched, ended_get_bind, give, if_neg unmatched]
  rfl

/-- A first round in which the codes differ is settled if they are not ordered by chance. -/
theorem Runs.rounds_ended_of_fixed (found : ordersByChance middle.compilation = .ok false) :
    (rounds attestation).ended before =
      ((RoundEnd.judged first).settle middle.compilation, middle) := by
  rw [runs.rounds_ended differs, ended_liftM_bind found, if_neg Bool.false_ne_true, give_ended]

/-- A first round in which the codes differ is followed by a second if they are ordered by chance.
-/
theorem Runs.rounds_ended_of_ordered (found : ordersByChance middle.compilation = .ok true) :
    (rounds attestation).ended before = (round first.attestation true >>= give).ended middle := by
  rw [runs.rounds_ended differs, ended_liftM_bind found, if_pos rfl]

end

/-- The rounds fail with what interrupts them, or come to what becomes of the last of them. -/
theorem rounds_settle {began asked : Verification} {deployed : Code}
    (fetches : fetchRuntime.Ends began deployed asked) :
    (∃ failure, RoundsInterrupted began failure ∧
      (rounds (began.beginning deployed)).Fails asked failure) ∨
    ∃ ended after, LastRound began ended after ∧
      Settles (rounds (began.beginning deployed)) asked ended after := by
  rcases runs_or_interrupts (began.beginning deployed) false asked with
    ⟨ended, middle, runs⟩ | ⟨failure, interrupts⟩
  case inr => exact .inl ⟨failure, .first fetches interrupts, rounds_fails interrupts.fails⟩
  cases ended with
  | uneven found =>
    obtain ⟨failure, settled, fails⟩ := runs.uneven_fails
    have last_round : LastRound began (.uneven found) middle :=
      .first fetches runs fun _ judged => nomatch judged
    exact .inr ⟨.uneven found, middle, last_round, .inl ⟨failure, settled, rounds_fails fails⟩⟩
  | judged first =>
    by_cases differs : (RoundEnd.judged first).Differs
    · have first_differs : FirstDiffers began first middle :=
        ⟨deployed, asked, fetches, runs, differs⟩
      rcases ordersByChance_decides middle.compilation with
        ⟨found, ordered⟩ | ⟨found, fixed⟩ | ⟨failure, found, unread⟩
      · have goes_on := runs.rounds_ended_of_ordered differs found
        rcases runs_or_interrupts first.attestation true middle with
          ⟨ended, after, runs_again⟩ | ⟨failure, interrupts⟩
        · refine .inr ⟨ended, after, .second first_differs ordered runs_again, ?_⟩
          have settles := runs_again.settles_again
          simp only [Settles, Fails, Ends] at settles ⊢
          rwa [goes_on]
        · refine .inl ⟨failure, .second first_differs ordered interrupts, ?_⟩
          rw [Fails, goes_on]
          exact interrupts.fails.bind _
      · exact .inr ⟨.judged first, middle, .first fetches runs fun _ _ _ => fixed,
          settles_of_ended (runs.rounds_ended_of_fixed differs found)⟩
      · refine .inl ⟨failure, .ordering first_differs unread, ?_⟩
        rw [Fails, runs.rounds_ended differs, fails_liftM_bind found]
    · exact .inr ⟨.judged first, middle, .first fetches runs fun _ _ => (absurd · differs),
        settles_of_ended (runs.rounds_ended_of_not_differs differs)⟩

/-- A last round in which the codes are judged leaves its artifact at hand, and knows nothing of the
creation of the contract. -/
theorem LastRound.left {began after : Verification} {last : Round}
    (last_round : LastRound began (.judged last) after) :
    (∃ artifact, after.compilation.artifact = some artifact) ∧
      last.attestation.creationMatch = none := by
  cases last_round with
  | first _ runs _ =>
    obtain ⟨⟨run, rfl⟩, -⟩ := round_ends rfl runs.ends
    exact ⟨⟨run.artifact, run.artifact_eq⟩, rfl⟩
  | second first_differs _ runs_again =>
    obtain ⟨deployed, asked, -, runs, -⟩ := first_differs
    obtain ⟨⟨run, rfl⟩, -⟩ := round_ends rfl runs.ends
    obtain ⟨⟨again, rfl⟩, -⟩ := round_ends rfl runs_again.ends
    exact ⟨⟨again.artifact, again.artifact_eq⟩, rfl⟩

end Verification

end Attest
