import Attest.Proofs.Extraction.Step

/-!
# Linked code is in small letters

A template may have capital letters in the slots of libraries, since its placeholders hold names.
The slots are overwritten with deployed text, so a template that is small outside its slots is small
when they are filled: normalizing it then changes nothing, and the transformations of libraries lead
to the very code that the matching goes on with.
-/
namespace Attest

/-- A code whose characters outside some extents are small. -/
def Code.SmallOutside (code : Code) (extents : List Extent) : Prop :=
  ∀ (index : Nat) (c : Char), code[index]? = some c →
    (∀ extent ∈ extents, ¬ extent.Covers index) → Text.lowerChar c = [c]

instance (code : Code) (extents : List Extent) : Decidable (code.SmallOutside extents) :=
  decidable_of_iff (∀ pair ∈ code.zipIdx,
      (∀ extent ∈ extents, ¬ extent.Covers pair.2) → Text.lowerChar pair.1 = [pair.1]) <| by
    constructor
    · intro small index c found
      exact small (c, index) (List.mk_mem_zipIdx_iff_getElem?.mpr found)
    · intro small pair member
      exact small pair.2 pair.1 (List.mem_zipIdx_iff_getElem?.mp member)

/-- A character of a region is one of the code. -/
theorem Code.mem_of_mem_region {code : Code} {start length : Int} {c : Char}
    (member : c ∈ region code start length) : c ∈ code :=
  List.mem_of_mem_take (List.mem_of_mem_drop member)

/-- A text in a region that is not empty begins inside the code. -/
theorem Code.first_le_length_of_region_ne_nil {code : Code} {extent : Extent}
    (regular : extent.Regular) (filled : region code extent.start extent.length ≠ []) :
    extent.first ≤ code.length := by
  rw [region_eq code regular, ne_eq, List.drop_eq_nil_iff, List.length_take] at filled
  omega

/-- Every placeholder says something. -/
theorem Placeholder.ne_nil_of_mem_accepted {name : String} {held : Code}
    (accepted : held ∈ accepted name) : held ≠ [] := by
  rintro rfl
  simp [Placeholder.accepted, hashed, named, zeros, addressDigits] at accepted

namespace Extraction

/-- The address of a filled slot is as long as the slot. -/
theorem length_of_deployed {real value : Code} {part : Part} {extent : Extent}
    (bears : real.Marked) (regular : extent.Regular)
    (taken : deployed real part extent.start extent.length = .ok value) :
    value.length = extent.stop - extent.first := by
  obtain ⟨rfl, reaches⟩ := eq_region_of_deployed taken
  exact Code.length_region regular ((regular.stop_le_iff bears).mpr reaches)

/-- A code filled from a template up to some slots: it bears the mark, each of its characters is small
or one of the template that no filled slot covers, and it has whole bytes if the template has. -/
structure FilledUpTo (template : Code) (slots : List LibrarySlot) (done : Code) : Prop where
  /-- The code bears the mark. -/
  marked : done.Marked
  /-- A character is small already or one of the template that no filled slot covers. -/
  settled : ∀ (index : Nat) (c : Char), done[index]? = some c → Text.lowerChar c = [c] ∨
    (template[index]? = some c ∧ ∀ slot ∈ slots, ¬ slot.extent.Covers index)
  /-- The code has whole bytes if the template has. -/
  whole : template.length % 2 = 0 → done.length % 2 = 0

/-- Overwriting one more slot with deployed text fills the code up to that slot. -/
theorem FilledUpTo.overwrite {real template done address : Code} {before : List LibrarySlot}
    {slot : LibrarySlot} {part : Part} (bears : real.Marked) (small : Text.Small real)
    (counts : slot.extent.Nonneg) (begins : slot.extent.first ≤ done.length)
    (taken : deployed real part slot.start slot.length = .ok address)
    (filled : FilledUpTo template before done) :
    FilledUpTo template (before ++ [slot]) (done.overwrite slot.extent.start address) := by
  have fits : address.length = slot.extent.stop - slot.extent.first :=
    length_of_deployed bears counts.regular taken
  rw [Code.overwrite_eq_splice done counts.regular fits]
  refine ⟨filled.marked.splice address counts, fun index c found => ?_, fun even => ?_⟩
  · rw [Code.getElem?_splice counts.regular fits begins] at found
    split at found
    · left
      obtain ⟨rfl, -⟩ := eq_region_of_deployed taken
      exact small c (Code.mem_of_mem_region (List.mem_of_getElem? found))
    · rename_i free
      refine (filled.settled index c found).imp_right fun ⟨old, apart⟩ =>
        ⟨old, fun other member => ?_⟩
      rcases List.mem_append.mp member with earlier | last
      · exact apart other earlier
      · rw [List.mem_singleton.mp last]
        exact free
  · have ends := counts.regular.stop_eq
    have start := counts.regular.position_start
    rw [Code.position] at start
    have length := filled.whole even
    rw [Code.length_splice counts.regular fits begins]
    omega

/-- Filling the slots of libraries keeps the mark, leaves small letters only, and whole bytes. -/
theorem fillLibraries_small {real template : Code} {slots : List LibrarySlot} {after : Extraction}
    (bears : real.Marked) (small : Text.Small real) (marked : template.Marked)
    (outside : template.SmallOutside (slots.map LibrarySlot.extent))
    (nonneg : ∀ slot ∈ slots, slot.extent.Nonneg)
    (filled : fillLibraries real { code := template } slots = .ok after) :
    after.code.Marked ∧ Text.Small after.code ∧
      (template.length % 2 = 0 → after.code.length % 2 = 0) := by
  rw [fillLibraries_eq_foldlM] at filled
  have start : FilledUpTo template [] template :=
    ⟨marked, fun _ _ found => .inr ⟨found, by simp⟩, id⟩
  have result := Result.foldlM_induction
    (motive := fun before done => FilledUpTo template before done.code) filled start ?_
  · refine ⟨result.marked, fun c member => ?_, result.whole⟩
    obtain ⟨index, found⟩ := List.mem_iff_getElem?.mp member
    rcases result.settled index c found with lowered | ⟨old, free⟩
    · exact lowered
    · refine outside index c old fun extent listed => ?_
      obtain ⟨slot, present, rfl⟩ := List.mem_map.mp listed
      exact free slot present
  · intro before slot rest done next parts filled_done stepped
    obtain ⟨accepted, address, taken, -, rfl⟩ := fillLibrary_eq_ok.mp stepped
    have counts := nonneg slot (by simp [parts])
    have begins : slot.extent.first ≤ done.code.length :=
      Code.first_le_length_of_region_ne_nil counts.regular
        (Placeholder.ne_nil_of_mem_accepted accepted)
    exact filled_done.overwrite bears small counts begins taken

end Extraction

end Attest
