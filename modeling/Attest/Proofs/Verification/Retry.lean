import Attest.Proofs.Compilation.Requests
import Attest.Proofs.Verification.Coherence

/-!
# What a verification asks the compiler

Whatever the chain, the compiler and the search answer, and however a verification ends, it asks the
compiler in at most two rounds (`verify_calls`). A round asks about its compilation, at most once
about one that a search put in its place, and at most once about edited sources, all for one build:
the usual one in the first round and the other one in the second. The second round needs code that
was ordered by chance and did not match. The calls are accounted for one by one, so nothing that is
read of a compilation on the way compiles it again.
-/
namespace Attest.Verification

open Attempt

variable {alternate : Bool} {attestation : Attestation} {before after : Verification}

/-- A verification before and after its compilation was compiled, and perhaps replaced by one that a
search found for it, which was compiled too. -/
inductive Opened (alternate : Bool) (before after : Verification) : Prop
  | compiled : after.replaced = before.replaced →
    Compilation.AskedOnce alternate before.compilation after.compilation →
      Opened alternate before after
  | recovered {search : Recovery} {number : Nat} {code : Code} {compiled found : Compilation} :
    Compilation.AskedOnce alternate before.compilation compiled →
    before.recovery = some search → search.find number compiled code = .ok (some found) →
    after.replaced = before.replaced ++ [compiled] →
    Compilation.AskedOnce alternate found after.compilation → Opened alternate before after

/-- A verification before and after the auxdatas of its compilation were looked for. -/
structure Closed (alternate : Bool) (before after : Verification) : Prop where
  /-- No compilation is replaced. -/
  replaced : after.replaced = before.replaced
  /-- The compiler is asked at most once, about edited sources. -/
  edited : Compilation.EditedOnce alternate before.compilation after.compilation

/-- A verification before and after a round, or the part of a round up to a failure. -/
def RoundCalls (alternate : Bool) (before after : Verification) : Prop :=
  ∃ opened, Opened alternate before opened ∧ Closed alternate opened after

/-- A verification that is left as it was is one whose auxdatas were not looked for. -/
theorem Closed.refl (alternate : Bool) (verification : Verification) :
    Closed alternate verification verification :=
  ⟨rfl, .refl alternate verification.compilation⟩

/-- A round that fails before auxdatas are looked for. -/
theorem Opened.roundCalls (opened : Opened alternate before after) :
    RoundCalls alternate before after :=
  ⟨after, opened, .refl alternate after⟩

/-- An action on the compilation changes nothing but the compilation. -/
theorem onCompilation_keeps {α : Type} (action : Attempt Compilation α) :
    (onCompilation action).Keeps fun before after =>
      after = { before with compilation := (action.ended before.compilation).2 } := fun _ => rfl

/-- Compiling asks the compiler of the compilation, and changes nothing but the compilation. -/
theorem compile_ended (attestation : Attestation) (alternate : Bool) (before : Verification) :
    ((compile attestation alternate).ended before).2 = { before with
      compilation := ((Compilation.compile alternate).ended before.compilation).2 } := by
  refine (onCompilation_keeps (Compilation.compile alternate)).bind_still (fun _ => ?_) before
  refine frame_eq.bind frame_eq.get fun _ => ?_
  refine frame_eq.bind (frame_eq.ofResult _) fun runtime => ?_
  refine frame_eq.bind (frame_eq.ofResult _) fun creation => ?_
  split
  · exact frame_eq.bind (frame_eq.throw _) fun _ => frame_eq.pure _
  · exact frame_eq.pure _

/-- A verification before and after a search for other metadata: the compilation stays, or another
one that was found for it takes its place and is compiled. -/
inductive Recovered (alternate : Bool) (before after : Verification) : Prop
  | kept {searches : List (String × Code)} : after = { before with searches } →
    Recovered alternate before after
  | replaced {search : Recovery} {number : Nat} {code : Code} {found compilation : Compilation}
      {searches : List (String × Code)} :
    before.recovery = some search →
    search.find number before.compilation code = .ok (some found) →
    Compilation.AskedOnce alternate found compilation →
    after = { before with
      searches, replaced := before.replaced ++ [before.compilation], compilation } →
    Recovered alternate before after

/-- Recovering asks the compiler only of a compilation that a search found. -/
theorem recover_recovered (attestation : Attestation) (alternate : Bool) (before : Verification) :
    Recovered alternate before ((recover attestation alternate).ended before).2 := by
  have kept : Recovered alternate before before :=
    @Recovered.kept alternate before before before.searches rfl
  rw [recover, ended_get_bind]
  split
  · exact kept
  · rename_i search searched
    split
    · exact kept
    · refine liftM_bind_ended kept fun deployed _ => ?_
      refine liftM_bind_ended kept fun compiled _ => ?_
      split
      · exact kept
      · rw [ended_modify_bind]
        refine liftM_bind_ended (.kept rfl) fun answer answered => ?_
        cases answer with
        | none => exact .kept rfl
        | some found =>
          rw [ended_modify_bind, compile_ended]
          exact .replaced searched answered (Compilation.compile_askedOnce alternate found) rfl

/-- Compiling, and recovering or not, opens a round. -/
theorem Recovered.opened {compiled : Verification} (recovered : Recovered alternate compiled after)
    (same : compiled.replaced = before.replaced) (search : compiled.recovery = before.recovery)
    (asked : Compilation.AskedOnce alternate before.compilation compiled.compilation) :
    Opened alternate before after := by
  rcases recovered with rfl | ⟨searched, answered, asked_again, rfl⟩
  · exact .compiled same asked
  · rw [search] at searched
    refine .recovered asked searched answered ?_ asked_again
    rw [same]

/-- Locating asks the compiler at most once, about edited sources. -/
theorem locate_closed (alternate : Bool) {artifact : Artifact}
    (there : before.compilation.artifact = some artifact) :
    Closed alternate before ((locate alternate).ended before).2 ∧
      ((locate alternate).ended before).2.compilation.artifact = some artifact := by
  have left : ((locate alternate).ended before).2 = { before with
      compilation := ((Compilation.locate alternate).ended before.compilation).2 } := by
    have keeps := (onCompilation_keeps (Compilation.locate alternate)).outcome
    refine keeps.bind_still (fun answer => ?_) before
    split
    · exact frame_eq.pure _
    · exact frame_eq.pure _
    · exact frame_eq.throw _
  have edited := Compilation.locate_editedOnce alternate there
  rw [left]
  exact ⟨⟨rfl, edited⟩, edited.artifact_eq.trans there⟩

/-- An artifact that is at hand is given without a change. -/
theorem compiled_bind_ended {β : Type} {artifact : Artifact}
    (next : Artifact → Attempt Verification β)
    (there : before.compilation.artifact = some artifact) :
    (onCompilation Compilation.compiled >>= next).ended before = (next artifact).ended before := by
  have gave : (onCompilation Compilation.compiled).ended before = (.ok artifact, before) := by
    change ((Compilation.compiled.ended before.compilation).1,
      { before with compilation := (Compilation.compiled.ended before.compilation).2 }) = _
    rw [Compilation.compiled_of_artifact there]
  rw [ended_bind, gave]

/-- Matching the code that runs asks the compiler nothing, as an artifact is at hand. -/
theorem matchRuntime_ended (attestation : Attestation) {artifact : Artifact}
    (positions : Option AuxdataPositions)
    (there : before.compilation.artifact = some artifact) :
    ((matchRuntime attestation positions).ended before).2 = before := by
  rw [matchRuntime, compiled_bind_ended _ there]
  refine Eq.symm ?_
  exact frame_eq.bind frame_eq.get (fun _ => frame_eq.bind (frame_eq.ofResult _) fun _ =>
    frame_eq.pure _) before

/-- Matching the code that creates the contract asks the compiler nothing, as an artifact is at
hand. -/
theorem matchCreation_ended (attestation : Attestation) {artifact : Artifact}
    (positions : Option AuxdataPositions)
    (there : before.compilation.artifact = some artifact) :
    ((matchCreation attestation positions).ended before).2 = before := by
  rw [matchCreation, compiled_bind_ended _ there]
  refine Eq.symm ?_
  exact frame_eq.bind frame_eq.get (fun _ => frame_eq.bind (frame_eq.ofResult _) fun _ =>
    frame_eq.pure _) before

/-- The part of a round after its compilation is opened asks the compiler at most once, about edited
sources. -/
theorem rest_closed {artifact : Artifact} (there : before.compilation.artifact = some artifact) :
    Closed alternate before (Attempt.ended (do
      checkLength (← get).compilation attestation
      let located ← locate alternate
      let attestation ← matchRuntime attestation located.runtime
      return ⟨attestation, located.creation⟩ : Attempt Verification Round) before).2 := by
  rw [ended_get_bind]
  refine liftM_bind_ended (.refl alternate before) fun _ _ => ?_
  obtain ⟨closed, still_there⟩ := locate_closed alternate there
  refine bind_ended closed fun places _ => ?_
  have same := matchRuntime_ended attestation places.runtime still_there
  refine bind_ended (same.symm ▸ closed) fun found _ => ?_
  rw [same]
  exact closed

/-- A round, whatever it comes to, asks the compiler of its compilation once, at most once of one that
a search found for it, and at most once about edited sources, all for one build. -/
theorem round_calls (attestation : Attestation) (alternate : Bool) (before : Verification) :
    RoundCalls alternate before ((round attestation alternate).ended before).2 := by
  let compiled : Verification := { before with
    compilation := ((Compilation.compile alternate).ended before.compilation).2 }
  have asked := Compilation.compile_askedOnce alternate before.compilation
  have left : ((compile attestation alternate).ended before).2 = compiled :=
    compile_ended attestation alternate before
  have first : Opened alternate before compiled := .compiled rfl asked
  rw [round]
  refine bind_ended (left ▸ first.roundCalls) fun begun ran => ?_
  rw [left] at ran ⊢
  have opened : Opened alternate before ((recover begun alternate).ended compiled).2 :=
    (recover_recovered begun alternate compiled).opened rfl rfl asked
  refine bind_ended opened.roundCalls fun found ended => ?_
  obtain ⟨artifact, there⟩ : ∃ artifact,
      ((recover begun alternate).ended compiled).2.compilation.artifact = some artifact := by
    obtain ⟨artifact, compilation, compiled_well, -, same⟩ := compile_ends ran
    rcases recover_ends ended with ⟨-, searches, kept⟩ |
      ⟨_, _, again, _, _, -, -, compiled_again, -, replaced⟩
    · rw [kept, same]
      exact ⟨artifact, (Compilation.compile_fresh compiled_well).1⟩
    · rw [replaced]
      exact ⟨again, (Compilation.compile_fresh compiled_again).1⟩
  exact ⟨_, opened, rest_closed there⟩

/-- A compilation whose compiler orders functions by chance: it compiles Solidity by way of its
intermediate language, without the optimizer, before the version that fixes the order. -/
structure OrderedByChance (compilation : Compilation) : Prop where
  /-- The language is Solidity. -/
  solidity : compilation.language = .solidity
  /-- The version is one before the order was fixed. -/
  version : ∃ version, Version.ofText compilation.version = .ok version ∧
    version.before orderFixed = true
  /-- The optimizer is off. -/
  unoptimized : compilation.optimized = .ok false
  /-- The compiler goes by way of its intermediate language. -/
  intermediate : compilation.viaIntermediate = .ok true

/-- Code is ordered by chance exactly where it is found to be. -/
theorem orderedByChance_of_eq {compilation : Compilation}
    (found : ordersByChance compilation = .ok true) : OrderedByChance compilation := by
  rw [ordersByChance] at found
  split at found
  · simp [pure, Except.pure] at found
  rename_i solidity
  obtain ⟨version, read, found⟩ := Result.bind_eq_ok.mp found
  split at found
  · simp [pure, Except.pure] at found
  rename_i old
  obtain ⟨optimized, told, found⟩ := Result.bind_eq_ok.mp found
  have told := Failure.lift_eq_ok.mp told
  cases optimized with
  | true => simp [pure, Except.pure] at found
  | false =>
    exact {
      solidity := Decidable.not_not.mp solidity
      version := ⟨version, read, by simpa using old⟩
      unoptimized := told
      intermediate := Failure.lift_eq_ok.mp found }

/-- A verification whose second round begins: its first ended well, on the code that the chain gave
and for the usual build, with a verdict that the codes differ, and left a compilation that orders
functions by chance. -/
structure Retried (began middle : Verification) : Prop where
  /-- What the first round asked the compiler. -/
  calls : RoundCalls false began middle
  /-- The first round ended well, and the codes differ. -/
  differs : ∃ deployed asked first verdict, fetchRuntime.Ends began deployed asked ∧
    (round (began.beginning deployed) false).Ends asked first middle ∧
    first.attestation.runtimeMatch = some verdict ∧ verdict.status = .differs
  /-- The compilation that counts orders functions by chance. -/
  ordered : OrderedByChance middle.compilation

/-- What a verification asks the compiler from its beginning on: nothing, one round for the usual
build, or a second round as well, for the other build. -/
inductive Calls (began last : Verification) : Prop
  | nothing : last.compilation = began.compilation → last.replaced = began.replaced →
    Calls began last
  | once : RoundCalls false began last → Calls began last
  | twice {middle : Verification} : Retried began middle → RoundCalls true middle last →
    Calls began last

/-- A round asks the compiler the same whatever the chain has answered before. -/
theorem RoundCalls.of_chain {chain : Chain}
    (calls : RoundCalls alternate { before with chain } after) :
    RoundCalls alternate before after := by
  obtain ⟨opened, begins, closed⟩ := calls
  refine ⟨opened, ?_, closed⟩
  rcases begins with ⟨same, asked⟩ | ⟨asked, searched, answered, replaced, asked_again⟩
  · exact .compiled same asked
  · exact .recovered asked searched answered replaced asked_again

/-- A status that is no match is that the codes differ. -/
theorem eq_differs_of_not_matched {status : MatchStatus} (unmatched : ¬ status.matched = true) :
    status = .differs := by
  simpa [MatchStatus.matched] using unmatched

/-- Giving a round, or refusing it for its extra files, changes nothing. -/
theorem settle_keeps (last : Round) : Keeps Eq (do
    checkExtraFiles (← get).compilation last.attestation
    return last : Attempt Verification Round) :=
  frame_eq.bind frame_eq.get fun _ => frame_eq.bind (frame_eq.ofResult _) fun _ => frame_eq.pure _

/-- A second round with all that follows it asks the compiler what the round asks. -/
theorem again_keeps (attestation : Attestation) : Keeps (RoundCalls true) (do
    let second ← round attestation true
    if (Attestation.statusOf second.attestation.runtimeMatch).matched then return second
    checkExtraFiles (← get).compilation second.attestation
    return second : Attempt Verification Round) := by
  have keeps : Keeps (RoundCalls true) (round attestation true) := round_calls attestation true
  refine keeps.bind_still fun second => ?_
  split
  · exact frame_eq.pure second
  · exact settle_keeps second

/-- The rounds, whatever they come to, ask the compiler in one round or in two. -/
theorem rounds_calls {began asked : Verification} {deployed : Code}
    (fetched : fetchRuntime.Ends began deployed asked) :
    Calls began ((rounds (began.beginning deployed)).ended asked).2 := by
  obtain ⟨-, chain, same⟩ := fetchRuntime_ends fetched
  have first_calls : RoundCalls false began
      ((round (began.beginning deployed) false).ended asked).2 := by
    rw [same]
    exact (round_calls (began.beginning deployed) false { began with chain }).of_chain
  rw [rounds]
  refine bind_ended (.once first_calls) fun first ended => ?_
  generalize ((round (began.beginning deployed) false).ended asked).2 = middle
    at first_calls ended ⊢
  obtain ⟨verdict, told⟩ : ∃ verdict, first.attestation.runtimeMatch = some verdict := by
    obtain ⟨⟨run, rfl⟩, -⟩ := round_ends rfl ended
    exact ⟨run.verdict, rfl⟩
  split
  · exact .once first_calls
  · rename_i unmatched
    rw [ended_get_bind]
    refine liftM_bind_ended (.once first_calls) fun chance found => ?_
    split
    · rename_i ordered
      subst ordered
      rw [told] at unmatched
      have differs := eq_differs_of_not_matched unmatched
      have retried : Retried began middle := {
        calls := first_calls
        differs := ⟨deployed, asked, first, verdict, fetched, ended, told, differs⟩
        ordered := orderedByChance_of_eq found }
      exact .twice retried (again_keeps first.attestation middle)
    · rw [← settle_keeps first middle]
      exact .once first_calls

/-- Verifications with the same compilations. -/
def SameWork (before after : Verification) : Prop :=
  after.compilation = before.compilation ∧ after.replaced = before.replaced

/-- Keeping the compilations twice is keeping them. -/
theorem frame_sameWork : Frame SameWork where
  refl := fun _ => ⟨rfl, rfl⟩
  trans := fun ⟨same, replaced⟩ ⟨same_again, replaced_again⟩ =>
    ⟨same_again.trans same, replaced_again.trans replaced⟩

/-- Asking the chain keeps the compilations. -/
theorem onChain_keeps {α : Type} (action : Attempt Chain α) :
    (outcome (onChain action)).Keeps SameWork := fun _ => ⟨rfl, rfl⟩

/-- Fetching the code that runs keeps the compilations. -/
theorem fetchRuntime_keeps : fetchRuntime.Keeps SameWork := by
  refine frame_sameWork.bind frame_sameWork.get fun verification => ?_
  refine frame_sameWork.bind (onChain_keeps _) fun answer => ?_
  split
  · exact frame_sameWork.throw _
  · exact frame_sameWork.throw _
  · exact frame_sameWork.throw _
  · refine frame_sameWork.bind (frame_sameWork.ofReading _) fun bytecode => ?_
    have rest : Keeps SameWork (do
        let bytecode := Code.normalize bytecode
        if bytecode = noCode then
          throw (Failure.verification (.notDeployed verification.chain.id verification.address))
        return bytecode : Attempt Verification Code) := by
      dsimp only
      split
      · exact frame_sameWork.bind (frame_sameWork.throw _) fun _ => frame_sameWork.pure _
      · exact frame_sameWork.pure _
    split
    · exact frame_sameWork.bind (frame_sameWork.throw _) fun _ => rest
    · exact rest

/-- Fetching the transaction that created the contract keeps the compilations. -/
theorem fetchCreation_keeps (attestation : Attestation) (hash : String) :
    (fetchCreation attestation hash).Keeps SameWork := by
  have read {α β : Type} (outcome : Except Fault α) {next : α → Attempt Verification β}
      (keeps : ∀ value, (next value).Keeps SameWork) :
      ((liftM outcome : Attempt Verification α) >>= next).Keeps SameWork :=
    frame_sameWork.bind (frame_sameWork.ofReading outcome) keeps
  have raised {α β : Type} (failure : Failure) (next : α → Attempt Verification β) :
      ((throw failure : Attempt Verification α) >>= next).Keeps SameWork := frame_sameWork.refl
  refine frame_sameWork.bind frame_sameWork.get fun verification => ?_
  refine frame_sameWork.bind (onChain_keeps _) fun answer => ?_
  split
  · refine frame_sameWork.bind (frame_sameWork.pure _) fun transaction => ?_
    refine frame_sameWork.bind (onChain_keeps _) fun answer => ?_
    split
    · refine frame_sameWork.bind (frame_sameWork.pure _) fun (code, receipt) => ?_
      exact read _ fun _ => read _ fun _ => read _ fun _ => read _ fun _ => read _ fun _ =>
        read _ fun _ => frame_sameWork.pure _
    · exact raised _ _
    · exact raised _ _
  · exact raised _ _
  · exact raised _ _

/-- Keeping the difference for a reader keeps the compilations. -/
theorem noteDifference_keeps (attestation : Attestation) :
    (noteDifference attestation).Keeps SameWork := by
  intro before
  rw [noteDifference, ended_get_bind]
  split <;> exact ⟨rfl, rfl⟩

/-- A verification asks the compiler the same whatever is left but the compilations. -/
theorem Calls.of_sameWork {began last after : Verification} (calls : Calls began last)
    (same : SameWork last after) : Calls began after := by
  have round {alternate : Bool} {before : Verification} (calls : RoundCalls alternate before last) :
      RoundCalls alternate before after := by
    obtain ⟨opened, begins, replaced, edited⟩ := calls
    exact ⟨opened, begins, same.2.trans replaced, same.1 ▸ edited⟩
  cases calls with
  | nothing kept none => exact .nothing (same.1.trans kept) (same.2.trans none)
  | once calls => exact .once (round calls)
  | twice retried calls => exact .twice retried (round calls)

/-- Fetching and matching the code that created the contract keeps the compilations, as an artifact
is at hand. -/
theorem created_sameWork {artifact : Artifact} (there : before.compilation.artifact = some artifact)
    (positions : Option AuxdataPositions) (hash : String)
    {next : Attestation → Attempt Verification Attestation}
    (keeps : ∀ attestation, (next attestation).Keeps SameWork) :
    SameWork before (Attempt.ended (do
      let attestation ← fetchCreation attestation hash
      let attestation ← matchCreation attestation positions
      next attestation) before).2 := by
  refine frame_sameWork.bind_from (fetchCreation_keeps attestation hash before) ?_
  intro attestation fetched ended
  obtain ⟨_, -, -, chain, rfl⟩ := fetchCreation_ends ended
  have same : ((matchCreation attestation positions).ended { before with chain }).2 =
      { before with chain } := matchCreation_ended attestation positions there
  refine frame_sameWork.bind_from (same.symm ▸ frame_sameWork.refl _) fun attestation last _ => ?_
  exact keeps attestation last

/-- Handing the attestation out, or refusing it, keeps the compilations. -/
theorem concluded_keeps (attestation : Attestation) : Keeps SameWork (
    if attestation.matched then pure attestation
    else do
      noteDifference attestation
      throw (.verification .noMatch) : Attempt Verification Attestation) := by
  split
  · exact frame_sameWork.pure attestation
  · exact frame_sameWork.bind (noteDifference_keeps attestation) fun _ => frame_sameWork.throw _

/-- The rounds leave an artifact at hand. -/
theorem rounds_artifact {deployed : Code} {last : Round}
    (known : attestation.deployedRuntime = some deployed)
    (ended : (rounds attestation).Ends before last after) :
    ∃ artifact, after.compilation.artifact = some artifact := by
  obtain ⟨⟨run, -⟩, -⟩ := rounds_ends known ended
  exact ⟨run.artifact, run.artifact_eq⟩

/-- **The retry protocol.** A verification, whatever the chain, the compiler and the search answer it
and however it ends, asks the compiler for nothing but its rounds: at most one for the usual build,
and one for the other build after a first round that ended well, in which the codes differ and the
compilation that counts is one that orders functions by chance. -/
theorem verify_calls (began : Verification) : Calls began (verify.ended began).2 := by
  rw [verify, ended_get_bind]
  have fetched := fetchRuntime_keeps began
  refine bind_ended (.nothing fetched.1 fetched.2) fun deployed ended => ?_
  change Calls began (Attempt.ended (rounds (began.beginning deployed) >>= _) _).2
  have calls := rounds_calls ended
  refine bind_ended calls fun last ended => calls.of_sameWork ?_
  obtain ⟨artifact, there⟩ := rounds_artifact rfl ended
  generalize ((rounds _).ended _).2 = middle at there ⊢
  split
  · exact concluded_keeps last.attestation middle
  · exact created_sameWork there last.creation _ concluded_keeps

end Attest.Verification
