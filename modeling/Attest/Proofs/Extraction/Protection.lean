import Attest.Proofs.Extraction.Linked
import Attest.Proofs.Extraction.Record

/-!
# Filling the address of call protection

A template that begins by pushing an address of zeros has the deployed address written over these
zeros and nothing else. The zeros lie in the template, so its length stays, and only small letters
come in.
-/
namespace Attest.Extraction

/-- The extent of the address that call protection pushes. -/
def protectionExtent : Extent := ⟨1, addressBytes⟩

/-- The address of call protection counts upwards. -/
theorem protectionExtent_nonneg : protectionExtent.Nonneg where
  start := by decide
  length := by decide

/-- A code that begins with call protection has the address of call protection. -/
theorem protectionExtent_stop_le {template : Code}
    (begins : protectionMark.isPrefixOf template = true) :
    protectionExtent.stop ≤ template.length := by
  have shorter := (List.isPrefixOf_iff_prefix.mp begins).length_le
  have length : protectionMark.length = protectionExtent.stop := by decide
  omega

/-- A template without call protection stays as it is, and one with it gets the deployed address. -/
theorem callProtection_eq_ok {template real : Code} {after : Extraction} :
    callProtection template real = .ok after ↔
      (protectionMark.isPrefixOf template = false ∧ after = { code := template }) ∨
      (protectionMark.isPrefixOf template = true ∧
        ∃ address, deployed real .callProtection 1 addressBytes = .ok address ∧
          after = {
            code := Code.overwrite template 1 address
            transformations := [protectionTransformation]
            values := { callProtection := some (Code.marked address) } }) := by
  rw [callProtection]
  cases begins : protectionMark.isPrefixOf template with
  | false => simp [eq_comm]
  | true =>
    rw [if_pos rfl, Result.bind_eq_ok]
    simp [pure, Except.pure, eq_comm]

/-- The address of call protection is filled in or the deployed code does not reach to its end. -/
theorem callProtection_eq_error {template real : Code} {failure : Failure}
    (failed : callProtection template real = .error failure) :
    ∃ error, failure = .region error := by
  rw [callProtection] at failed
  split at failed
  · rcases Result.bind_eq_error.mp failed with missing | ⟨address, -, failed⟩
    · exact deployed_eq_error missing
    · simp [pure, Except.pure] at failed
  · contradiction

/-- The address that is filled in has the place of the zeros. -/
theorem overwrite_protection (template : Code) {real address : Code} (bears : real.Marked)
    (taken : deployed real .callProtection 1 addressBytes = .ok address) :
    address.length = protectionExtent.stop - protectionExtent.first ∧
      Code.overwrite template 1 address =
        Code.splice template protectionExtent.start address protectionExtent.length := by
  have regular := protectionExtent_nonneg.regular
  have fits := length_of_deployed bears regular taken
  have spliced := Code.overwrite_eq_splice template regular fits
  exact ⟨fits, spliced⟩

/-- Call protection is filled as recorded, and only its address is recorded. -/
theorem callProtection_explained {template real : Code} {after : Extraction}
    (filled : callProtection template real = .ok after) :
    Explained template after ∧ after.values = { callProtection := after.values.callProtection } := by
  rcases callProtection_eq_ok.mp filled with ⟨-, rfl⟩ | ⟨-, address, taken, rfl⟩
  · exact ⟨explained_start template, rfl⟩
  · refine ⟨?_, rfl⟩
    have keeps : Values.Keeps { callProtection := some (Code.marked address) } {} :=
      Values.keeps_of_parts fun reason => .inr (by cases reason <;> rfl)
    have written := (Transformation.explain_nil template {}).write keeps
      protectionTransformation rfl
    exact written

/-- Filling in the address of call protection keeps the mark, the length, and that all characters
outside other extents are small. -/
theorem callProtection_small {template real : Code} {after : Extraction} (bears : real.Marked)
    (small : Text.Small real) (marked : template.Marked)
    (filled : callProtection template real = .ok after) :
    after.code.Marked ∧ after.code.length = template.length ∧
      ∀ extents, template.SmallOutside extents → after.code.SmallOutside extents := by
  rcases callProtection_eq_ok.mp filled with ⟨-, rfl⟩ | ⟨begins, address, taken, rfl⟩
  · exact ⟨marked, rfl, fun _ outside => outside⟩
  have regular := protectionExtent_nonneg.regular
  have reaches := protectionExtent_stop_le begins
  have order := protectionExtent.first_le_stop
  have begun : protectionExtent.first ≤ template.length := by omega
  obtain ⟨fits, spliced⟩ := overwrite_protection template bears taken
  simp only [spliced]
  refine ⟨marked.splice address protectionExtent_nonneg, ?_, fun extents outside index c found => ?_⟩
  · rw [Code.length_splice regular fits begun]
    omega
  · rw [Code.getElem?_splice regular fits begun] at found
    split at found
    · intro _
      obtain ⟨rfl, -⟩ := eq_region_of_deployed taken
      exact small c (Code.mem_of_mem_region (List.mem_of_getElem? found))
    · exact outside index c found

end Attest.Extraction
