import Attest.Proofs.Chain.Provenance
import Attest.Proofs.Parallel

/-!
# Spellings of an address

An address is asked for in its one checked spelling, but what a chain tells is compared with the
spelling that was given, its letters made small. So the creation of a contract is the same for two
spellings of its address that both bear the mark or both do without (`Chain.creation_parallel`), and
a spelling without the mark finds none where the chain tells the marked one
(`Chain.creation_refused`).
-/
namespace Attest

open Attempt

namespace Address

/-- Whether a text bears the mark of base sixteen. -/
def Bears (text : String) : Prop := unmarked text.toList ≠ text.toList

instance (text : String) : Decidable (Bears text) :=
  inferInstanceAs (Decidable (unmarked text.toList ≠ text.toList))

/-- A spelling of an address: hexadecimal digits as many as an address has, which are the given ones
in small letters. -/
structure Spells (text : String) (small : List Char) : Prop where
  /-- The text is hexadecimal. -/
  hex : isHex text.toList = true
  /-- There are as many digits as an address has. -/
  length : (unmarked text.toList).length = digits
  /-- The digits are the given ones. -/
  small : Text.lower (unmarked text.toList) = small

/-- A spelling is accepted, and stands for the checked one. -/
theorem Spells.ofText_eq {text : String} {small : List Char} (spells : Spells text small) :
    ofText text = .ok (String.ofList (checked small)) := by
  rw [ofText_eq_ok spells.hex spells.length, spells.small]

/-- What is accepted is a spelling. -/
theorem spells_of_ofText {text address : String} (accepted : ofText text = .ok address) :
    Spells text (Text.lower (unmarked text.toList)) := by
  rw [ofText] at accepted
  split at accepted
  · rename_i told
    rw [Bool.and_eq_true, beq_iff_eq] at told
    exact ⟨told.1, told.2, rfl⟩
  · contradiction

/-- A text that bears the mark is in small letters the mark and its digits in small letters. -/
theorem lower_of_bears {text : String} (bears : Bears text) :
    Text.lower text.toList = Code.marked (Text.lower (unmarked text.toList)) := by
  unfold Bears unmarked at bears
  rw [unmarked]
  generalize text.toList = characters at bears
  unfold Code.body at bears ⊢
  split at bears
  · rfl
  · rfl
  · exact absurd rfl bears

/-- A text that does without the mark is its digits. -/
theorem unmarked_of_not_bears {text : String} (bare : ¬ Bears text) :
    unmarked text.toList = text.toList := Decidable.not_not.mp bare

/-- Two spellings of an address that both bear the mark, or both do without, are one text in small
letters. -/
theorem Spells.lower_eq {one other : String} {small : List Char} (spells : Spells one small)
    (spells_too : Spells other small) (marks : Bears one ↔ Bears other) :
    Text.lower one.toList = Text.lower other.toList := by
  have digits_eq : Text.lower (unmarked one.toList) = Text.lower (unmarked other.toList) :=
    spells.small.trans spells_too.small.symm
  by_cases bears : Bears one
  · rw [lower_of_bears bears, lower_of_bears (marks.mp bears), digits_eq]
  · rwa [unmarked_of_not_bears bears, unmarked_of_not_bears (mt marks.mpr bears)] at digits_eq

/-- A spelling that bears the mark and one that does without are different texts in small letters.
-/
theorem Spells.lower_ne {marked plain : String} {small : List Char} (spells : Spells marked small)
    (spells_too : Spells plain small) (bears : Bears marked) (bare : ¬ Bears plain) :
    Text.lower marked.toList ≠ Text.lower plain.toList := by
  rw [lower_of_bears bears, ← unmarked_of_not_bears bare, spells.small, spells_too.small]
  intro same
  have lengths : small.length + 2 = small.length := congrArg List.length same
  omega

end Address

variable {one other : String} (same : Text.lower one.toList = Text.lower other.toList)
include same

namespace Trace

/-- What is told is compared with a spelling in small letters. -/
theorem isAddress_spelled (found : Json) : isAddress found one = isAddress found other := by
  rw [isAddress, isAddress, same]

/-- The first entry for an address does not depend on its spelling. -/
theorem codeIn_spelled (entries : List Json) : codeIn one entries = codeIn other entries := by
  induction entries with
  | nil => rfl
  | cons entry rest inductive_hypothesis =>
    simp only [codeIn, isAddress_spelled same, inductive_hypothesis]

/-- The code in a list of entries does not depend on the spelling of the address. -/
theorem codeInList_alike (provider : Provider) (hash : String) (traces : Json) :
    Result.Alike Eq (codeInList provider hash one traces)
      (codeInList provider hash other traces) := by
  unfold codeInList
  split
  · refine .bind_same fun entries => ?_
    rw [codeIn_spelled same]
    refine .bind_same fun code => ?_
    cases code with
    | some code => exact .refl _
    | none => exact .bind_same fun addresses => .error (.chain rfl)
  · exact .refl _

/-- The code in the first frame for an address does not depend on its spelling. -/
theorem inputIn_alike (hash : String) (frames : List Json) :
    Result.Alike Eq (inputIn hash one frames) (inputIn hash other frames) := by
  induction frames with
  | nil => exact .error (.chain rfl)
  | cons frame rest inductive_hypothesis =>
    rw [inputIn, inputIn]
    refine .bind_same fun found => ?_
    rw [isAddress_spelled same]
    refine .bind_same fun matched => ?_
    cases matched with
    | true => exact .refl _
    | false => exact inductive_hypothesis

/-- The code in a tree of calls does not depend on the spelling of the address. -/
theorem codeInTree_alike (provider : Provider) (hash : String) (trace : Json) :
    Result.Alike Eq (codeInTree provider hash one trace)
      (codeInTree provider hash other trace) := by
  unfold codeInTree
  dsimp only
  split
  · split
    · split
      · exact .bind_same fun frames => inputIn_alike same hash frames
      · exact .refl _
    · exact .refl _
  · exact .refl _

end Trace

namespace Chain

/-- The code that a provider traces does not depend on the spelling of the address. -/
theorem tracedCode_parallel (form : TraceForm) (provider : Provider) (hash : String) :
    Parallel Eq Eq (tracedCode form provider hash one) (tracedCode form provider hash other) := by
  cases form with
  | listed =>
    refine (Parallel.refl _).bind ?_
    rintro traces _ rfl
    exact .taken (Trace.codeInList_alike same provider hash traces)
  | nested =>
    refine (Parallel.refl _).bind ?_
    rintro trace _ rfl
    exact .taken (Trace.codeInTree_alike same provider hash trace)

omit same in
/-- Providers that are asked in parallel give their first answer in parallel. -/
theorem firstAnswer_parallel {α : Type} {ask ask' : Provider → Attempt Chain (Option α)}
    (parallel : ∀ provider, Parallel Eq Eq (ask provider) (ask' provider))
    (providers : List Provider) :
    Parallel Eq Eq (firstAnswer ask providers) (firstAnswer ask' providers) :=
  parallel_iff.mpr (firstAnswer_related (List.forall₂_same.mpr fun provider _ =>
    ⟨Failure.Alike, fun _ _ alike => ⟨alike.isPassedOn_eq, fun _ => alike⟩,
      parallel_iff.mp (parallel provider)⟩))

/-- The code that the traces of a chain give does not depend on the spelling of the address. -/
theorem factoryCode_parallel (hash : String) :
    Parallel Eq Eq (factoryCode hash one) (factoryCode hash other) := by
  refine .get_bind ?_
  rintro chain _ rfl
  dsimp only
  refine .ite (fun _ => .throw_bind (.refl _)) fun _ => ?_
  refine (firstAnswer_parallel (fun provider => ?_) _).bind ?_
  · split
    · refine (tracedCode_parallel same _ provider hash).bind ?_
      rintro code _ rfl
      exact .refl _
    · exact .refl _
  · rintro answer _ rfl
    cases answer with
    | some code => exact .refl _
    | none => exact .throw (.chain rfl)

/-- The code that is given by a receipt and a transaction does not depend on the spelling of the
address. -/
theorem codeBy_parallel (hash : String) (receipt transaction : Json) :
    Parallel Eq Eq (codeBy one hash receipt transaction)
      (codeBy other hash receipt transaction) := by
  refine .reading_bind fun created => .ite (fun _ => ?_) fun _ => ?_
  · rw [Trace.isAddress_spelled same]
    exact .reading_bind fun found => .ite (fun _ => .refl _) fun _ => .throw (.chain rfl)
  · refine (factoryCode_parallel same hash).bind ?_
    rintro code _ rfl
    exact .refl _

/-- The creation of a contract does not depend on the spelling of its address. -/
theorem creation_parallel (hash : String) (transaction : Option Json) :
    Parallel Eq Eq (creation one hash transaction) (creation other hash transaction) := by
  refine (Parallel.refl _).bind ?_
  rintro receipt _ rfl
  cases transaction with
  | some transaction => exact codeBy_parallel same hash receipt transaction
  | none =>
    refine (Parallel.refl _).bind ?_
    rintro transaction _ rfl
    exact codeBy_parallel same hash receipt transaction

omit same

/-- A receipt that names the contract by one spelling is refused for another one. -/
theorem codeBy_refused {hash : String} {receipt transaction code created handed : Json}
    {start stop : Chain} (differ : Text.lower one.toList ≠ Text.lower other.toList)
    (names : receipt.memberD "contractAddress" .null = .ok created) (holds : created.holds = true)
    (ends : (codeBy one hash receipt transaction).Ends start (code, handed) stop) :
    (codeBy other hash receipt transaction).ended start =
      (.error (.chain (.otherContract other created.plain hash)), stop) := by
  obtain ⟨_, read, ends⟩ := ends_reading_bind.mp ends
  obtain rfl := Except.ok.inj (names.symm.trans read)
  rw [if_pos holds] at ends
  obtain ⟨found, compared, ends⟩ := ends_reading_bind.mp ends
  cases found with
  | false => exact absurd ends not_ends_throw
  | true =>
    obtain ⟨input, -, ends⟩ := ends_reading_bind.mp ends
    obtain ⟨-, rfl⟩ := ends_pure.mp ends
    obtain ⟨contract, rfl, equal⟩ := Trace.isAddress_sound compared
    have refused : Trace.isAddress (.text contract) other = .ok false := by
      have unequal : (Text.lower contract.toList == Text.lower other.toList) = false := by
        rw [equal]
        exact beq_false_of_ne differ
      exact congrArg Except.ok unequal
    rw [codeBy, names]
    change (if (Json.text contract).holds = true then _ else _ : Attempt Chain _).ended start = _
    rw [if_pos holds, refused]
    rfl

/-- A contract whose creation is found by its receipt under a spelling that bears the mark is
refused under every spelling that does without. -/
theorem creation_refused {small : List Char} (spells : Address.Spells one small)
    (spells_too : Address.Spells other small) (bears : Address.Bears one)
    (bare : ¬ Address.Bears other) {hash : String} {transaction : Option Json}
    {code receipt created : Json} {start stop : Chain}
    (names : receipt.memberD "contractAddress" .null = .ok created) (holds : created.holds = true)
    (ends : (creation one hash transaction).Ends start (code, receipt) stop) :
    (creation other hash transaction).ended start =
      (.error (.chain (.otherContract other created.plain hash)), stop) := by
  have differ := spells.lower_ne spells_too bears bare
  obtain ⟨told, first, asked, ends⟩ := ends_bind.mp ends
  cases transaction with
  | some transaction =>
    have ends : (codeBy one hash told transaction).Ends first (code, receipt) stop := ends
    obtain ⟨rfl, -⟩ := codeBy_of_own ends
    rw [creation, asked.ended_bind]
    exact codeBy_refused differ names holds ends
  | none =>
    obtain ⟨transaction, second, looked, ends⟩ := ends_bind.mp ends
    have ends : (codeBy one hash told transaction).Ends second (code, receipt) stop := ends
    obtain ⟨rfl, -⟩ := codeBy_of_own ends
    rw [creation, asked.ended_bind, looked.ended_bind]
    exact codeBy_refused differ names holds ends

end Chain

end Attest
