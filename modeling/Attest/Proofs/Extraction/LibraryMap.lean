import Attest.Proofs.Extraction.Filled

/-!
# The addresses that took the places of placeholders

Slots of libraries are filled in order, and the address that fills a slot is recorded under the name
of the library and under the text that the slot held. Under the name no address is lost: a library has
one. Under the text one is, where slots of several libraries hold one text: each is recorded over the
one before, and the text stands for the address of the last (`libraries_mapped`). The text is that of
the template unless an earlier slot has written into it.
-/
namespace Attest

namespace Extraction

/-- A code whose slots are filled from a deployed one, in order. -/
def linkedTo (real code : Code) (slots : List LibrarySlot) : Code :=
  slots.foldl (fun code slot => code.overwrite slot.start (real.textIn slot.extent)) code

/-- What a slot holds when its turn comes, the slots before it being filled. -/
def heldAfter (real code : Code) (before : List LibrarySlot) (slot : LibrarySlot) : Code :=
  (linkedTo real code before).textIn slot.extent

/-- The last of the slots that holds a text when its turn comes. -/
def lastToHold? (real code text : Code) : List LibrarySlot → Option LibrarySlot
  | [] => none
  | slot :: rest =>
    (lastToHold? real (code.overwrite slot.start (real.textIn slot.extent)) text rest).or
      (if code.textIn slot.extent = text then some slot else none)

/-- The address of a slot in a deployed code. -/
def addressOf (real : Code) (slot : LibrarySlot) : Code := Code.marked (real.textIn slot.extent)

/-- Addresses are the same where the texts of the slots are. -/
theorem addressOf_inj {real : Code} {one other : LibrarySlot} :
    addressOf real one = addressOf real other ↔
      real.textIn one.extent = real.textIn other.extent :=
  ⟨fun same => congrArg Code.body same, congrArg Code.marked⟩

section

variable {real code text template : Code} {before behind slots : List LibrarySlot}
  {slot last : LibrarySlot} {done after : Extraction}

/-- A slot at the end is the last to hold what it holds. -/
theorem lastToHold?_append_singleton :
    lastToHold? real code text (before ++ [slot]) =
      if heldAfter real code before slot = text then some slot
      else lastToHold? real code text before := by
  induction before generalizing code with
  | nil =>
    rw [List.nil_append, lastToHold?]
    rfl
  | cons first rest inductive_hypothesis =>
    have later : heldAfter real code (first :: rest) slot =
        heldAfter real (code.overwrite first.start (real.textIn first.extent)) rest slot := rfl
    rw [List.cons_append, lastToHold?, inductive_hypothesis, lastToHold?, later]
    split <;> simp

/-- The last slot to hold a text is one of the slots and holds it. -/
theorem exists_of_lastToHold? (found : lastToHold? real code text slots = some last) :
    ∃ before behind, slots = before ++ last :: behind ∧ heldAfter real code before last = text := by
  induction slots generalizing code with
  | nil => contradiction
  | cons slot rest inductive_hypothesis =>
    rw [lastToHold?, Option.or_eq_some_iff] at found
    rcases found with later | ⟨-, here⟩
    · obtain ⟨before, behind, rfl, held⟩ := inductive_hypothesis later
      exact ⟨slot :: before, behind, rfl, held⟩
    · rw [Option.ite_none_right_eq_some, Option.some.injEq] at here
      obtain ⟨held, rfl⟩ := here
      exact ⟨[], rest, rfl, held⟩

/-- Behind a slot that holds a text, or at it, is the last to hold it. -/
theorem exists_lastToHold? (held : heldAfter real code before slot = text) :
    ∃ last, lastToHold? real code text (before ++ slot :: behind) = some last := by
  rw [← Option.isSome_iff_exists]
  induction before generalizing code with
  | nil =>
    have here : code.textIn slot.extent = text := held
    rw [List.nil_append, lastToHold?, if_pos here]
    simp
  | cons first rest inductive_hypothesis =>
    have later : (lastToHold? real (code.overwrite first.start (real.textIn first.extent)) text
        (rest ++ slot :: behind)).isSome := inductive_hypothesis held
    rw [List.cons_append, lastToHold?, Option.isSome_or, later, Bool.true_or]

/-- What filling slots has come to: their deployed texts are written, recorded under the names of the
libraries, and under what the slots held, the last over those before. -/
structure Linked (real template : Code) (before : List LibrarySlot) (done : Extraction) : Prop where
  /-- The deployed texts are written. -/
  code : done.code = linkedTo real template before
  /-- The names of the libraries have the deployed texts. -/
  recorded : Recorded real done.values.libraries (before.map LibrarySlot.site)
  /-- What the slots held has the address of the last that held it. -/
  mapped : ∀ text, done.libraryMap.get? text =
    (lastToHold? real template text before).map (addressOf real)

/-- Filling one more slot writes and records its deployed text. -/
theorem Linked.step {next : Extraction} (linked : Linked real template before done)
    (stepped : fillLibrary real slot done = .ok next) :
    Linked real template (before ++ [slot]) next := by
  obtain ⟨-, address, taken, free, rfl⟩ := fillLibrary_eq_ok.mp stepped
  obtain ⟨rfl, -⟩ := eq_region_of_deployed taken
  refine ⟨?_, ?_, fun text => ?_⟩
  · have joined : linkedTo real template (before ++ [slot]) =
        (linkedTo real template before).overwrite slot.start (real.textIn slot.extent) :=
      List.foldl_append
    rw [joined, ← linked.code]
    rfl
  · rw [List.map_append]
    exact linked.recorded.put slot.site free
  · have held : Code.region done.code slot.start slot.length =
        heldAfter real template before slot := by
      rw [heldAfter, ← linked.code]
      rfl
    rw [Table.get?_put, held, lastToHold?_append_singleton, linked.mapped text]
    split <;> rfl

/-- Slots that are filled are written and recorded. -/
theorem linked_of_fillLibraries
    (filled : fillLibraries real { code := template } slots = .ok after) :
    Linked real template slots after := by
  rw [fillLibraries_eq_foldlM] at filled
  refine Result.foldlM_induction (motive := Linked real template) filled
    ⟨rfl, .start real, fun _ => rfl⟩ ?_
  intro before slot rest done next _ linked stepped
  exact linked.step stepped

/-- Where slots are filled, those before one of them are. -/
theorem fillLibraries_of_append {start : Extraction}
    (filled : fillLibraries real start (before ++ slot :: behind) = .ok after) :
    ∃ done next, fillLibraries real start before = .ok done ∧
      fillLibrary real slot done = .ok next ∧ fillLibraries real next behind = .ok after := by
  rw [fillLibraries_eq_foldlM, List.foldlM_append] at filled
  obtain ⟨done, ran, filled⟩ := Result.bind_eq_ok.mp filled
  rw [List.foldlM_cons] at filled
  obtain ⟨next, stepped, filled⟩ := Result.bind_eq_ok.mp filled
  exact ⟨done, next, by rw [fillLibraries_eq_foldlM, ran], stepped,
    by rw [fillLibraries_eq_foldlM, filled]⟩

/-- Filled slots change the template within themselves. -/
theorem unchangedOutside_of_fillLibraries (bears : real.Marked)
    (nonneg : ∀ slot ∈ slots, slot.extent.Nonneg)
    (filled : fillLibraries real { code := template } slots = .ok after) :
    after.code.UnchangedOutside (slots.map LibrarySlot.extent) template := by
  rw [fillLibraries_eq_foldlM] at filled
  refine Result.foldlM_induction
    (motive := fun before done =>
      done.code.UnchangedOutside (before.map LibrarySlot.extent) template) filled
    (fun _ _ => rfl) ?_
  intro before slot rest done next parts unchanged stepped
  have regular := (nonneg slot (by simp [parts])).regular
  exact unchangedOutside_of_fillLibrary bears regular unchanged stepped

/-- A slot holds what the template has there if no slot filled before it overlaps it. -/
theorem heldAfter_eq (bears : real.Marked) (nonneg : slot.extent.Nonneg)
    (nonneg_before : ∀ other ∈ before, other.extent.Nonneg)
    (apart : ∀ other ∈ before, slot.extent.Apart other.extent)
    (filled : fillLibraries real { code := template } before = .ok done) :
    heldAfter real template before slot = template.textIn slot.extent := by
  rw [heldAfter, ← (linked_of_fillLibraries filled).code]
  exact (unchangedOutside_of_fillLibraries bears nonneg_before filled).textIn_slot nonneg.regular
    (fun other earlier => (nonneg_before other earlier).regular) apart

end

/-- What the record of filled slots says of one of them, which comes after some. -/
structure Mapped (real template : Code) (slots before : List LibrarySlot) (slot : LibrarySlot)
    (after : Extraction) : Prop where
  /-- The name of the library has the deployed content of the slot. -/
  recorded : after.values.libraries.get? slot.name = some (addressOf real slot)
  /-- The slot holds what the template has there, if no slot filled before overlaps it. -/
  original : real.Marked → slot.extent.Nonneg →
    (∀ other ∈ before, other.extent.Nonneg ∧ slot.extent.Apart other.extent) →
    heldAfter real template before slot = template.textIn slot.extent
  /-- What the slot holds has the deployed content of the last slot that holds it. -/
  last : ∃ last, lastToHold? real template (heldAfter real template before slot) slots = some last ∧
    after.libraryMap.get? (heldAfter real template before slot) = some (addressOf real last) ∧
    (after.libraryMap.get? (heldAfter real template before slot) =
        after.values.libraries.get? slot.name ↔
      real.textIn last.extent = real.textIn slot.extent)

/-- Whether a record of filled slots has the deployed content of each slot under the name of its
library and under the text that the template holds there. -/
def Kept (real template : Code) (slots : List LibrarySlot) (after : Extraction) : Prop :=
  ∀ slot ∈ slots, after.values.libraries.get? slot.name = some (addressOf real slot) ∧
    after.libraryMap.get? (template.textIn slot.extent) = some (addressOf real slot)

instance (real template : Code) (slots : List LibrarySlot) (after : Extraction) :
    Decidable (Kept real template slots after) :=
  inferInstanceAs (Decidable (∀ slot ∈ slots, _ ∧ _))

/-- Whether slots that hold one text in a template have one text in a deployed code. -/
def OneAddress (real template : Code) (slots : List LibrarySlot) : Prop :=
  ∀ one ∈ slots, ∀ other ∈ slots, template.textIn one.extent = template.textIn other.extent →
    real.textIn one.extent = real.textIn other.extent

section

variable {real template : Code} {before behind slots : List LibrarySlot} {slot : LibrarySlot}
  {after : Extraction}

/-- The record of filled slots says of each what was filled in last for its text. -/
theorem mapped_of_fillLibraries
    (filled : fillLibraries real { code := template } (before ++ slot :: behind) = .ok after) :
    Mapped real template (before ++ slot :: behind) before slot after := by
  have linked := linked_of_fillLibraries filled
  obtain ⟨done, next, ran, -, -⟩ := fillLibraries_of_append filled
  have recorded : after.values.libraries.get? slot.name = some (addressOf real slot) :=
    (linked.recorded slot.name _).mpr ⟨slot.site, by simp, rfl, rfl⟩
  obtain ⟨last, found⟩ : ∃ last, lastToHold? real template (heldAfter real template before slot)
      (before ++ slot :: behind) = some last := exists_lastToHold? rfl
  have mapped := linked.mapped (heldAfter real template before slot)
  rw [found, Option.map_some] at mapped
  refine ⟨recorded, fun bears nonneg others => ?_, last, found, mapped, ?_⟩
  · exact heldAfter_eq bears nonneg (fun other member => (others other member).1)
      (fun other member => (others other member).2) ran
  · rw [mapped, recorded, Option.some.injEq, addressOf_inj]

/-- Slots that do not overlap lose no address exactly if slots that hold one text have one. -/
theorem kept_iff (bears : real.Marked) (nonneg : ∀ slot ∈ slots, slot.extent.Nonneg)
    (apart : slots.Pairwise fun one other => one.extent.Apart other.extent)
    (filled : fillLibraries real { code := template } slots = .ok after) :
    Kept real template slots after ↔ OneAddress real template slots := by
  have original : ∀ {before slot behind}, slots = before ++ slot :: behind →
      Mapped real template slots before slot after ∧
        heldAfter real template before slot = template.textIn slot.extent := by
    rintro before slot behind rfl
    have mapped := mapped_of_fillLibraries filled
    refine ⟨mapped, mapped.original bears (nonneg slot (by simp)) fun other member => ?_⟩
    exact ⟨nonneg other (by simp [member]),
      ((List.pairwise_append.mp apart).2.2 other member slot (by simp)).symm⟩
  constructor
  · intro kept one member other member_other same
    have found := (kept one member).2
    rw [same, (kept other member_other).2, Option.some.injEq] at found
    exact addressOf_inj.mp found.symm
  · intro agree slot member
    obtain ⟨before, behind, parts⟩ := List.append_of_mem member
    obtain ⟨mapped, held⟩ := original parts
    obtain ⟨last, found, kept, -⟩ := mapped.last
    obtain ⟨before_last, behind_last, parts_last, held_last⟩ := exists_of_lastToHold? found
    rw [(original parts_last).2, held] at held_last
    rw [held] at kept
    have one := agree last (by simp [parts_last]) slot member held_last
    exact ⟨mapped.recorded, kept.trans (congrArg some (addressOf_inj.mpr one))⟩

end

/-- **The library map tells of the last slot.** Where all slots of libraries are filled, each library
has the deployed content of each of its slots recorded under its name, and the text that a slot holds
in its turn, which is that of the template if no slot before overlaps it, has the deployed content of
the last slot that holds it. So for slots that do not overlap the texts of the template have the
addresses of their libraries exactly if slots that hold one text have one address. -/
theorem libraries_mapped {template real : Code} {slots : Listing LibrarySlot} {after : Extraction}
    (filled : libraries template real slots = .ok after) :
    (∀ before slot behind, slots.entries = before ++ slot :: behind →
      Mapped real template slots.entries before slot after) ∧
    (real.Marked → (∀ slot ∈ slots.entries, slot.extent.Nonneg) →
      (slots.entries.Pairwise fun one other => one.extent.Apart other.extent) →
      (Kept real template slots.entries after ↔ OneAddress real template slots.entries)) := by
  obtain ⟨found, ran, settled⟩ := Result.bind_eq_ok.mp filled
  have same : found = after := by
    rw [Listing.settle] at settled
    split at settled
    · exact Except.ok.inj settled
    · contradiction
  subst same
  refine ⟨fun before slot behind parts => ?_, fun bears nonneg apart => ?_⟩
  · rw [parts] at ran ⊢
    exact mapped_of_fillLibraries ran
  · exact kept_iff bears nonneg apart ran

/-- Two slots that hold zeros. -/
def sampleZeros : Code := Code.marked (Placeholder.zeros ++ Placeholder.zeros)

/-- Two libraries with a slot each. -/
def sampleApart : Listing LibrarySlot := ⟨[⟨"f.sol:L1", 0, 20⟩, ⟨"f.sol:L2", 20, 20⟩], none⟩

/-- The address of a library that is one digit all over. -/
def sampleAddress (digit : Char) : Code := List.replicate Placeholder.addressDigits digit

/-- The addresses of two libraries. -/
def sampleAddresses : Code := Code.marked (sampleAddress '1' ++ sampleAddress '2')

/-- What two slots that hold zeros are filled with: the zeros stand for the second. -/
def sampleShared : Extraction where
  code := sampleAddresses
  transformations :=
    [⟨.replace, .library, 0, some "f.sol:L1"⟩, ⟨.replace, .library, 20, some "f.sol:L2"⟩]
  values := { libraries := [("f.sol:L1", Code.marked (sampleAddress '1')),
    ("f.sol:L2", Code.marked (sampleAddress '2'))] }
  libraryMap := [(Placeholder.zeros, Code.marked (sampleAddress '2'))]

set_option maxRecDepth 20000 in
/-- Of two libraries with zeros in their slots the zeros tell of the second. -/
theorem libraries_mapped_sample :
    libraries sampleZeros sampleAddresses sampleApart = .ok sampleShared ∧
      Mapped sampleAddresses sampleZeros sampleApart.entries [] ⟨"f.sol:L1", 0, 20⟩
        sampleShared ∧
      ¬ Kept sampleAddresses sampleZeros sampleApart.entries sampleShared := by
  have filled : libraries sampleZeros sampleAddresses sampleApart = .ok sampleShared :=
    Result.eq_ok_of_toOption (by decide +kernel)
  obtain ⟨mapped, kept_iff⟩ := libraries_mapped filled
  refine ⟨filled, mapped [] _ _ rfl, fun kept => ?_⟩
  have agree := (kept_iff (by decide) (by decide) (by decide)).mp kept
  exact absurd (agree _ (List.mem_cons_self ..) ⟨"f.sol:L2", 20, 20⟩ (by simp [sampleApart])
    (by decide +kernel)) (by decide +kernel)

/-- Whether all slots are filled and the record loses the address of one. -/
def Loses (template real : Code) (slots : Listing LibrarySlot) : Prop :=
  ∃ after, libraries template real slots = .ok after ∧ ¬ Kept real template slots.entries after

instance (template real : Code) (slots : Listing LibrarySlot) :
    Decidable (Loses template real slots) :=
  match filled : libraries template real slots with
  | .ok after => decidable_of_iff (¬ Kept real template slots.entries after)
      ⟨fun lost => ⟨after, filled, lost⟩,
        fun ⟨_, given, lost⟩ => by rwa [← Except.ok.inj (filled.symm.trans given)] at lost⟩
  | .error _ => isFalse fun ⟨_, given, _⟩ => by simp [filled] at given

/-- The slot of a library with its name, and a byte behind it. -/
def sampleNamed : Code := Code.marked (Placeholder.named "f.sol:L1" ++ "00".toList)

/-- An address of zeros, and a byte behind it. -/
def sampleZeroAddress : Code := Code.marked (Placeholder.zeros ++ "00".toList)

set_option maxRecDepth 20000 in
/-- An address is lost where libraries share a text; where slots overlap, so that one holds what was
filled into the other; and where a slot counts from an end that has moved. -/
theorem addresses_lost :
    Loses sampleZeros sampleAddresses sampleApart ∧
      Loses sampleNamed sampleZeroAddress ⟨[⟨"f.sol:L1", 0, 20⟩, ⟨"f.sol:L2", 1, 20⟩], none⟩ ∧
      Loses (Code.marked Placeholder.zeros) sampleZeroAddress
        ⟨[⟨"f.sol:L1", 0, 21⟩, ⟨"f.sol:L2", -22, 20⟩], none⟩ := by
  decide +kernel

end Extraction

end Attest
