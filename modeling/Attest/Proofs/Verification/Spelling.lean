import Mathlib.Control.Monad.Basic
import Attest.Proofs.Chain.Spelling
import Attest.Proofs.Verification.Coherence

/-!
# Verifications of one contract under two spellings of its address

A verification uses the address where it asks the chain, and carries it into its attestation, its
failures and its notes. So two verifications that differ in the spelling of the address alone ask
the same, and come to the same but for the spelling, or to failures that programs cannot tell apart
(`spelling_immaterial`), if both spellings bear the mark or both do without.
-/
namespace Attest.Verification

open Attempt

/-- Two verifications of one contract under two spellings of its address. What is noted for a reader
may differ. -/
def Twins (one other : String) (verification twin : Verification) : Prop :=
  verification.address = one ∧ ∃ notes, twin = { verification with address := other, notes }

/-- An attestation under another spelling of the address. -/
def Respelled (other : String) (attestation twin : Attestation) : Prop :=
  twin = { attestation with address := other }

variable {one other : String} {attestation twin : Attestation} {alternate : Bool}

/-- What is asked of the chain in parallel is asked in parallel by twins. -/
theorem onChain_parallel {α β : Type} {values : α → β → Prop} {action : Attempt Chain α}
    {action' : Attempt Chain β} (parallel : Parallel Eq values action action') :
    Parallel (Twins one other) values (onChain action) (onChain action') := by
  refine .within ?_ ?_ parallel
  · rintro verification _ ⟨-, notes, rfl⟩
    rfl
  · rintro verification _ chain _ ⟨spelled, notes, rfl⟩ rfl
    exact ⟨spelled, notes, rfl⟩

/-- What the chain is asked is the same for twins, and so is the answer. -/
theorem onChain_outcome_parallel {α : Type} (action : Attempt Chain α) :
    Parallel (Twins one other) Eq (outcome (onChain action)) (outcome (onChain action)) := by
  rintro verification _ ⟨spelled, notes, rfl⟩
  exact ⟨.refl _, spelled, notes, rfl⟩

/-- What is done with the compilation is done in parallel by twins. -/
theorem onCompilation_parallel {α : Type} (action : Attempt Compilation α) :
    Parallel (Twins one other) Eq (onCompilation action) (onCompilation action) := by
  rintro verification _ ⟨spelled, notes, rfl⟩
  exact ⟨.refl _, spelled, notes, rfl⟩

/-- What becomes of the compilation is the same for twins. -/
theorem onCompilation_outcome_parallel {α : Type} (action : Attempt Compilation α) :
    Parallel (Twins one other) Eq (outcome (onCompilation action))
      (outcome (onCompilation action)) := by
  rintro verification _ ⟨spelled, notes, rfl⟩
  exact ⟨.refl _, spelled, notes, rfl⟩

/-- Twins compile in parallel. -/
theorem compile_parallel (respelled : Respelled other attestation twin) (alternate : Bool) :
    Parallel (Twins one other) (Respelled other) (compile attestation alternate)
      (compile twin alternate) := by
  obtain rfl := respelled
  refine (onCompilation_parallel _).bind fun _ _ _ => .get_bind ?_
  rintro verification _ ⟨-, notes, rfl⟩
  refine .taken_bind fun runtime => .taken_bind fun creation => ?_
  exact .ite (fun _ => .throw_bind (.refl _)) fun _ => .pure rfl

/-- Twins recover the metadata in parallel. -/
theorem recover_parallel (respelled : Respelled other attestation twin) (alternate : Bool) :
    Parallel (Twins one other) (Respelled other) (recover attestation alternate)
      (recover twin alternate) := by
  obtain rfl := respelled
  refine .get_bind ?_
  rintro verification _ ⟨-, notes, rfl⟩
  dsimp only
  cases verification.recovery with
  | none => exact .pure rfl
  | some recovery =>
    refine .ite (fun _ => .pure rfl) fun _ => ?_
    refine .taken_bind fun deployed => .taken_bind fun compiled => ?_
    refine .ite (fun _ => .pure rfl) fun _ => .modify_bind ?_ ?_
    · rintro state _ ⟨spelled, notes, rfl⟩
      exact ⟨spelled, notes, rfl⟩
    · refine .taken_bind fun found => ?_
      cases found with
      | none => exact .pure rfl
      | some compilation =>
        refine .modify_bind ?_ (compile_parallel rfl alternate)
        rintro state _ ⟨spelled, notes, rfl⟩
        exact ⟨spelled, notes, rfl⟩

/-- Twins locate auxdatas in parallel. -/
theorem locate_parallel (alternate : Bool) :
    Parallel (Twins one other) Eq (locate alternate) (locate alternate) := by
  refine (onCompilation_outcome_parallel _).bind ?_
  rintro answer _ rfl
  split
  · exact .pure rfl
  · exact .pure rfl
  · exact .throw (.refl _)

/-- Twins match the code that runs in parallel. -/
theorem matchRuntime_parallel (respelled : Respelled other attestation twin)
    (positions : Option AuxdataPositions) :
    Parallel (Twins one other) (Respelled other) (matchRuntime attestation positions)
      (matchRuntime twin positions) := by
  obtain rfl := respelled
  refine (onCompilation_parallel _).bind ?_
  rintro artifact _ rfl
  refine .get_bind ?_
  rintro verification _ ⟨-, notes, rfl⟩
  exact .taken_bind fun found => .pure rfl

/-- Twins match the code that created the contract in parallel. -/
theorem matchCreation_parallel (respelled : Respelled other attestation twin)
    (positions : Option AuxdataPositions) :
    Parallel (Twins one other) (Respelled other) (matchCreation attestation positions)
      (matchCreation twin positions) := by
  obtain rfl := respelled
  refine (onCompilation_parallel _).bind ?_
  rintro artifact _ rfl
  refine .get_bind ?_
  rintro verification _ ⟨-, notes, rfl⟩
  exact .taken_bind fun found => .pure rfl

/-- Rounds that come to the same under two spellings of an address. -/
def RoundsAlike (other : String) (round twin : Round) : Prop :=
  Respelled other round.attestation twin.attestation ∧ twin.creation = round.creation

/-- Twins go through a round in parallel. -/
theorem round_parallel (respelled : Respelled other attestation twin) (alternate : Bool) :
    Parallel (Twins one other) (RoundsAlike other) (round attestation alternate)
      (round twin alternate) := by
  refine (compile_parallel respelled alternate).bind fun compiled _ respelled => ?_
  refine (recover_parallel respelled alternate).bind fun found _ respelled => .get_bind ?_
  rintro verification _ ⟨-, notes, rfl⟩
  obtain rfl := respelled
  refine .taken_bind fun _ => ?_
  refine (locate_parallel alternate).bind ?_
  rintro places _ rfl
  refine (matchRuntime_parallel rfl places.runtime).bind fun judged _ respelled => ?_
  exact .pure ⟨respelled, rfl⟩

/-- Twins settle a round in parallel: it is given, or refused for its extra files. -/
theorem settle_parallel {last twin : Round} (alike : RoundsAlike other last twin) :
    Parallel (Twins one other) (RoundsAlike other) (do
      checkExtraFiles (← get).compilation last.attestation
      return last : Attempt Verification Round) (do
      checkExtraFiles (← get).compilation twin.attestation
      return twin : Attempt Verification Round) := by
  refine .get_bind ?_
  rintro verification _ ⟨-, notes, rfl⟩
  have checked : checkExtraFiles verification.compilation twin.attestation =
      checkExtraFiles verification.compilation last.attestation := by
    rw [alike.1]
    rfl
  rw [checked]
  exact .taken_bind fun _ => .pure alike

/-- Twins go through the rounds in parallel. -/
theorem rounds_parallel (respelled : Respelled other attestation twin) :
    Parallel (Twins one other) (RoundsAlike other) (rounds attestation) (rounds twin) := by
  have status {first second : Round} (alike : RoundsAlike other first second) :
      Attestation.statusOf second.attestation.runtimeMatch =
        Attestation.statusOf first.attestation.runtimeMatch := by
    rw [alike.1]
  refine (round_parallel respelled false).bind fun first first' alike => ?_
  rw [status alike]
  refine .ite (fun _ => .pure alike) fun _ => .get_bind ?_
  rintro verification _ ⟨-, notes, rfl⟩
  refine .taken_bind fun chance => .ite (fun _ => ?_) fun _ => settle_parallel alike
  refine (round_parallel alike.1 true).bind fun second second' alike => ?_
  rw [status alike]
  exact .ite (fun _ => .pure alike) fun _ => settle_parallel alike

variable {small : List Char} (spells : Address.Spells one small)
  (spells_too : Address.Spells other small)
include spells spells_too

/-- Twins fetch the code that runs in parallel. -/
theorem fetchRuntime_parallel :
    Parallel (Twins one other) Eq fetchRuntime fetchRuntime := by
  have same_question : Chain.bytecode one none = Chain.bytecode other none := by
    rw [Chain.bytecode, spells.ofText_eq, Chain.bytecode, spells_too.ofText_eq]
  refine .get_bind ?_
  rintro verification _ ⟨spelled, notes, rfl⟩
  dsimp only
  rw [spelled, same_question]
  refine (onChain_outcome_parallel _).bind ?_
  rintro answer _ rfl
  split
  · exact .throw (.refl _)
  · exact .throw (.refl _)
  · exact .throw (.refl _)
  · refine .reading_bind fun bytecode => .ite (fun _ => .throw_bind (.verification rfl)) fun _ => ?_
    exact .ite (fun _ => .throw_bind (.verification rfl)) fun _ => .pure rfl

/-- Twins fetch the transaction that created the contract in parallel. -/
theorem fetchCreation_parallel (marks : Address.Bears one ↔ Address.Bears other)
    (respelled : Respelled other attestation twin) (hash : String) :
    Parallel (Twins one other) (Respelled other) (fetchCreation attestation hash)
      (fetchCreation twin hash) := by
  have same := spells.lower_eq spells_too marks
  obtain rfl := respelled
  refine .get_bind ?_
  rintro verification _ ⟨rfl, notes, rfl⟩
  dsimp only
  refine (onChain_outcome_parallel _).bind ?_
  rintro answer _ rfl
  split
  · refine .bind (.pure rfl) ?_
    rintro transaction _ rfl
    have creation := Chain.creation_parallel same hash (some transaction)
    refine (onChain_parallel creation).outcome.bind fun answer answer' alike => ?_
    cases alike with
    | ok found =>
      subst found
      refine .bind (.pure rfl) ?_
      rintro ⟨code, receipt⟩ _ rfl
      refine .reading_bind fun _ => .reading_bind fun _ => .reading_bind fun _ => ?_
      exact .reading_bind fun _ => .reading_bind fun _ => .reading_bind fun _ => .pure rfl
    | @error raised _ fails =>
      cases fails with
      | refl =>
        cases raised with
        | chain _ => exact .throw_bind (.verification rfl)
        | _ => exact .throw_bind (.refl _)
      | chain _ => exact .throw_bind (.verification rfl)
      | verification codes => exact .throw_bind (.verification codes)
  · exact .throw_bind (.refl _)
  · exact .throw_bind (.refl _)

omit spells spells_too in
/-- Twins keep the difference for a reader in parallel. -/
theorem noteDifference_parallel (respelled : Respelled other attestation twin) :
    Parallel (Twins one other) Eq (noteDifference attestation) (noteDifference twin) := by
  obtain rfl := respelled
  refine .get_bind ?_
  rintro verification _ ⟨spelled, notes, rfl⟩
  refine .ite (fun _ => ?_) fun _ => .pure rfl
  -- What is noted names the address as it is spelled.
  exact fun _ _ _ => ⟨.ok rfl, spelled, _, rfl⟩

omit spells spells_too in
/-- Twins conclude in parallel. -/
theorem conclude_parallel (respelled : Respelled other attestation twin) :
    Parallel (Twins one other) (Respelled other) (
      if attestation.matched then pure attestation
      else do
        noteDifference attestation
        throw (.verification .noMatch) : Attempt Verification Attestation) (
      if twin.matched then pure twin
      else do
        noteDifference twin
        throw (.verification .noMatch) : Attempt Verification Attestation) := by
  have matched : twin.matched = attestation.matched := by
    rw [respelled]
    rfl
  rw [matched]
  refine .ite (fun _ => .pure respelled) fun _ => ?_
  exact (noteDifference_parallel respelled).bind fun _ _ _ => .throw (.refl _)

/-- Twins are verified in parallel. -/
theorem verify_parallel (marks : Address.Bears one ↔ Address.Bears other) :
    Parallel (Twins one other) (Respelled other) verify verify := by
  refine .get_bind ?_
  rintro verification _ ⟨rfl, notes, rfl⟩
  refine (fetchRuntime_parallel spells spells_too).bind ?_
  rintro deployed _ rfl
  refine (rounds_parallel rfl).bind fun last last' alike => ?_
  dsimp only
  cases verification.creator.filter (! ·.isEmpty) with
  | none =>
    refine .bind (.pure alike.1) fun attestation twin respelled => ?_
    exact conclude_parallel respelled
  | some hash =>
    refine (fetchCreation_parallel spells spells_too marks alike.1 hash).bind ?_
    intro attestation twin respelled
    rw [alike.2]
    refine (matchCreation_parallel respelled last.creation).bind ?_
    exact fun attestation twin respelled => conclude_parallel respelled

/-- **The spelling of the address.** Under two spellings of one address that both bear the mark, or
both do without, a chain gives the same creation of the contract, and a verification comes to the
same attestation but for the spelling; or both fail, and programs cannot tell the failures apart. -/
theorem spelling_immaterial (marks : Address.Bears one ↔ Address.Bears other) :
    (∀ (chain : Chain) (hash : String) (transaction : Option Json),
      Paired Eq Eq ((Chain.creation one hash transaction).ended chain)
        ((Chain.creation other hash transaction).ended chain)) ∧
    ∀ verification : Verification, Paired (Twins one other) (Respelled other)
      (verify.ended { verification with address := one })
      (verify.ended { verification with address := other }) := by
  constructor
  · intro chain hash transaction
    have same := spells.lower_eq spells_too marks
    exact Chain.creation_parallel same hash transaction chain chain rfl
  · intro verification
    exact verify_parallel spells spells_too marks _ _ ⟨rfl, verification.notes, rfl⟩

omit spells spells_too

/-- The address of the contract in small letters, without the mark. -/
def sampleBare : String := "5aaeb6053f3e94c9b9a09f33669435e7ef1beaed"

/-- The address of the contract in small letters, with the mark. -/
def sampleMarked : String := "0x5aaeb6053f3e94c9b9a09f33669435e7ef1beaed"

/-- The address of the contract in large letters, with the mark. -/
def sampleLarge : String := "0X5AAEB6053F3E94C9B9A09F33669435E7EF1BEAED"

/-- A transaction that created the contract. -/
def sampleTransaction : Json := .record [("input", .text "0x60aa6001a1646970667341010008")]

/-- The reply with the receipt of the transaction. -/
def sampleReceipt : NetworkReply :=
  .pieces 200 [(0, "\x7b\"result\":\x7b\"contractAddress\":\"" ++ sampleMarked ++ "\"\x7d\x7d")]

/-- A chain that gives replies. -/
def sampleChain (replies : List NetworkReply) : Chain where
  id := 1
  name := "1"
  settings := {}
  providers := [⟨"http://localhost", .record [], .null⟩]
  network := { replies }

/-- A verification of code that matches, under a spelling of the address. -/
def sampleUnder (address : String) : Verification where
  compilation := sampleCompilation [("60aa6001a1646970667341010008", "6001a1646970667341010008")]
  chain := sampleChain [
    .pieces 200 [(0, "\x7b\"result\":\"0x6001a1646970667341010008\"\x7d")],
    .pieces 200 [(0, "\x7b\"result\":\x7b\"input\":\"0x60aa6001a1646970667341010008\"\x7d\x7d")],
    sampleReceipt]
  address
  creator := some "0x01"

/-- The marked spelling of the sample is accepted. -/
theorem sampleMarked_spells : Address.Spells sampleMarked sampleBare.toList := by
  constructor <;> decide +kernel

/-- The sample is verified under the marked spelling. -/
theorem sampleUnder_marked :
    (verify.ended (sampleUnder sampleMarked)).1.toOption.isSome = true := by decide +kernel

/-- The contract of the sample is verified under the small spelling and under the large one. -/
theorem spelling_immaterial_sample :
    Paired Eq Eq
      ((Chain.creation sampleMarked "0x01" (some sampleTransaction)).ended
        (sampleChain [sampleReceipt]))
      ((Chain.creation sampleLarge "0x01" (some sampleTransaction)).ended
        (sampleChain [sampleReceipt])) ∧
    Paired (Twins sampleMarked sampleLarge) (Respelled sampleLarge)
      (verify.ended (sampleUnder sampleMarked)) (verify.ended (sampleUnder sampleLarge)) ∧
    (verify.ended (sampleUnder sampleMarked)).1.toOption.isSome = true := by
  have spells_large : Address.Spells sampleLarge sampleBare.toList := by
    constructor <;> decide +kernel
  have marks : Address.Bears sampleMarked ↔ Address.Bears sampleLarge :=
    iff_of_true (by decide +kernel) (by decide +kernel)
  obtain ⟨creations, verifications⟩ := spelling_immaterial sampleMarked_spells spells_large marks
  exact ⟨creations _ _ _, verifications (sampleUnder ""), sampleUnder_marked⟩

/-- The spelling of the sample without the mark is accepted as that of the same address, but the
creation that is found under the marked spelling is refused under it. -/
theorem bare_spelling_refused :
    (∃ address, Address.ofText sampleMarked = .ok address ∧
      Address.ofText sampleBare = .ok address) ∧
    (∃ found, ((Chain.creation sampleMarked "0x01" (some sampleTransaction)).ended
      (sampleChain [sampleReceipt])).1 = .ok found) ∧
    ((Chain.creation sampleBare "0x01" (some sampleTransaction)).ended
        (sampleChain [sampleReceipt])).1 =
      .error (.chain (.otherContract sampleBare sampleMarked "0x01")) ∧
    (∃ found, (verify.ended (sampleUnder sampleMarked)).1 = .ok found) ∧
    verify.Fails (sampleUnder sampleBare) (.verification (.noCreationCode sampleBare
      (.otherContract sampleBare sampleMarked "0x01"))) := by
  have spells_bare : Address.Spells sampleBare sampleBare.toList := by
    constructor <;> decide +kernel
  have found : ((Chain.creation sampleMarked "0x01" (some sampleTransaction)).ended
      (sampleChain [sampleReceipt])).1.toOption.isSome = true := by decide +kernel
  have refused : ((Chain.creation sampleBare "0x01" (some sampleTransaction)).ended
      (sampleChain [sampleReceipt])).1 =
        .error (.chain (.otherContract sampleBare sampleMarked "0x01")) := by decide +kernel
  have failed : (verify.ended (sampleUnder sampleBare)).1.map (fun _ => ()) =
      .error (.verification (.noCreationCode sampleBare
        (.otherContract sampleBare sampleMarked "0x01"))) := by decide +kernel
  exact ⟨⟨_, sampleMarked_spells.ofText_eq, spells_bare.ofText_eq⟩, Result.exists_of_isSome found,
    refused, Result.exists_of_isSome sampleUnder_marked, Result.map_eq_error.mp failed⟩

end Attest.Verification
