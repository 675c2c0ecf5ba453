import Attest.Proofs.Match.Decision
import Attest.Proofs.Match.RoundTrip

/-!
# Deciding the code that a contract runs

Call protection is one more part that is filled in, before all others and only where the template
begins with it. With it filled in the parts lie as before, so a match of the code that a contract
runs decides whether the deployed code corresponds to the template outside all parts
(`runtime_matches_iff`).
-/
namespace Attest

namespace Extraction

/-- The extents that call protection fills in: one if the template begins with it. -/
def protectionExtents (template : Code) : List Extent :=
  if protectionMark.isPrefixOf template then [protectionExtent] else []

/-- An extent of call protection is the one, and the template begins with call protection. -/
theorem mem_protectionExtents {template : Code} {extent : Extent}
    (member : extent ∈ protectionExtents template) :
    extent = protectionExtent ∧ protectionMark.isPrefixOf template = true := by
  rw [protectionExtents] at member
  split at member
  · rename_i begins
    exact ⟨List.mem_singleton.mp member, begins⟩
  · exact absurd member List.not_mem_nil

/-- Extents of call protection count upwards. -/
theorem nonneg_of_mem_protectionExtents (template : Code) :
    ∀ extent ∈ protectionExtents template, extent.Nonneg := by
  intro extent member
  rw [(mem_protectionExtents member).1]
  exact protectionExtent_nonneg

/-- Call protection is filled in, or the deployed code ends before its address does. -/
theorem callProtection_decides (template : Code) {real : Code} (bears : real.Marked) :
    (∃ protection, callProtection template real = .ok protection ∧
      protection.code.FilledFrom real (protectionExtents template) template) ∨
    ∃ failure, callProtection template real = .error failure ∧
      (∃ error, failure = .region error) ∧ real.length < template.length := by
  have regular := protectionExtent_nonneg.regular
  cases filled : callProtection template real with
  | ok protection =>
    refine .inl ⟨protection, rfl, ?_⟩
    rcases callProtection_eq_ok.mp filled with ⟨plain, rfl⟩ | ⟨begins, address, taken, rfl⟩
    · rw [protectionExtents, if_neg (by simp [plain])]
      exact .start template real
    · obtain ⟨ends, rfl⟩ := stop_le_of_deployed bears regular taken
      have start := Code.FilledFrom.start template real
      have spliced := start.splice regular (protectionExtent_stop_le begins) ends
      rw [← Code.overwrite_textIn template regular ends] at spliced
      rw [protectionExtents, if_pos begins]
      exact spliced
  | error failure =>
    refine .inr ⟨failure, rfl, callProtection_eq_error filled, Nat.not_le.mp fun long => ?_⟩
    rw [callProtection] at filled
    split at filled
    · rename_i begins
      have ends := Nat.le_trans (protectionExtent_stop_le begins) long
      have taken := deployed_eq_ok bears .callProtection regular ends
      rcases Result.bind_eq_error.mp filled with missing | ⟨address, -, failed⟩
      · rw [show deployed real .callProtection 1 addressBytes = _ from taken] at missing
        contradiction
      · simp [pure, Except.pure] at failed
    · contradiction

end Extraction

namespace Match

variable {template real : Code} {libraries : Listing LibrarySlot} {positions : AuxdataPositions}
  {immutables : Listing ImmutableSlot} {style : AuxdataStyle}

/-- Where no slot of a library overlaps call protection, the parts are placed as before once it is
filled in. -/
theorem Placed.callProtection (placed : Placed template libraries positions immutables)
    (clear : ∀ extent ∈ Extraction.protectionExtents template, ∀ slot ∈ libraries.entries,
      slot.extent.Apart extent) {code : Code}
    (filled : code.FilledFrom real (Extraction.protectionExtents template) template) :
    Placed code libraries positions immutables := by
  have nonneg := Extraction.nonneg_of_mem_protectionExtents template
  have bytes := filled.byteLength nonneg
  exact {
    libraries_listed := placed.libraries_listed
    immutables_listed := placed.immutables_listed
    slots := fun slot member =>
      ⟨(placed.slots slot member).toNonneg, filled.length ▸ (placed.slots slot member).stop⟩
    placeholders := by
      intro slot member
      have same := filled.textIn_eq (placed.slots slot member).regular
        (fun extent listed => (nonneg extent listed).regular)
        (fun extent listed => clear extent listed slot member)
      rw [same]
      exact placed.placeholders slot member
    apart := placed.apart
    immutables := fun slot member =>
      (placed.immutables slot member).of_byteLength_le (Nat.le_of_eq bytes.symm)
    places := fun place member =>
      (placed.places place member).of_byteLength_le (Nat.le_of_eq bytes.symm) }

/-- Where no slot of a library overlaps call protection, the parts lie as before once it is filled
in. -/
theorem Laid.callProtection (laid : Laid template libraries positions immutables)
    (small : Text.Small real)
    (clear : ∀ extent ∈ Extraction.protectionExtents template, ∀ slot ∈ libraries.entries,
      slot.extent.Apart extent) {code : Code}
    (filled : code.FilledFrom real (Extraction.protectionExtents template) template) :
    Laid code libraries positions immutables := by
  have placed := laid.placed.callProtection clear filled
  have nonneg := Extraction.nonneg_of_mem_protectionExtents template
  have bytes := filled.byteLength nonneg
  exact {
    marked := filled.marked laid.marked nonneg
    plain := filled.plain small fun index c found free => laid.plain index c found
      fun extent member => free extent (by simp [member])
    libraries_listed := placed.libraries_listed
    immutables_listed := placed.immutables_listed
    slots := fun slot member =>
      (laid.slots slot member).of_byteLength_le (Nat.le_of_eq bytes.symm)
    placeholders := placed.placeholders
    apart := placed.apart
    immutables := placed.immutables
    places := placed.places }

/-- A deployed code corresponds to a template outside extents exactly if it corresponds to the
template with these filled in. -/
theorem Corresponds.filledFrom_iff {kind : CodeKind} {given : List Extent} {code : Code}
    (small : Text.Small real) (filled : code.FilledFrom real given template) :
    Corresponds kind [] code real libraries positions immutables ↔
      Corresponds kind given template real libraries positions immutables := by
  have agrees_iff := filled.agreesOutside_iff
    (libraries.entries.map LibrarySlot.extent ++ immutables.entries.map ImmutableSlot.extent ++
      positions.map fun place => place.2.extent) small
  simp only [← List.append_assoc] at agrees_iff
  constructor
  · rintro ⟨fits, agrees, one_address, one_value⟩
    rw [filled.length] at fits
    exact ⟨fits, agrees_iff.mp agrees, one_address, one_value⟩
  · rintro ⟨fits, agrees, one_address, one_value⟩
    rw [← filled.length] at fits
    exact ⟨fits, agrees_iff.mpr agrees, one_address, one_value⟩

/-- Code that a contract runs is linked and compared, and a part that is missing makes a
difference. -/
theorem ofCode_runtime (template real : Code) (libraries : Listing LibrarySlot)
    (positions : AuxdataPositions) (immutables : Listing ImmutableSlot) (style : AuxdataStyle)
    (interface : Json) :
    ofCode .runtime template real libraries positions immutables style interface =
      orDiffers template.normalize
        (linked template real.normalize libraries immutables style >>= fun found =>
          compare .runtime found real.normalize positions style) := by
  simp only [ofCode, bind_pure]

/-- A match of the code that a contract runs always comes to an end, and comes out as a match exactly
if the deployed code has the template's length and its characters outside all parts, and one text in
all slots of one library and of one immutable. -/
theorem runtime_matches_iff (real : Code)
    (laid : Laid template libraries positions immutables)
    (clear : ∀ extent ∈ Extraction.protectionExtents template, ∀ slot ∈ libraries.entries,
      slot.extent.Apart extent)
    (readable : Readable style positions) (in_place : style.immutableAction = .replace) :
    ∃ found, runtime template real libraries positions immutables style = .ok found ∧
      (found.status ≠ .differs ↔ Corresponds .runtime (Extraction.protectionExtents template)
        template real.normalize libraries positions immutables) := by
  have bears := Code.marked_normalize real
  have small := Code.small_normalize real
  rcases Extraction.callProtection_decides template bears with
    ⟨protection, filled, code⟩ | ⟨failure, failed, ⟨error, rfl⟩, short⟩
  · have corresponds_iff :
        Corresponds .runtime [] protection.code real.normalize libraries positions immutables ↔
          Corresponds .runtime (Extraction.protectionExtents template) template real.normalize
            libraries positions immutables := Corresponds.filledFrom_iff small code
    simp only [runtime, filled, ofCode_runtime, Code.normalize_normalize]
    rcases compared_decides .runtime (laid.callProtection small clear code) bears small readable
      (.inl in_place) with
      ⟨result, compared, decided, -⟩ | ⟨failure, failed, ⟨error, rfl⟩, apart⟩
    · rw [compared]
      exact ⟨_, rfl, decided.trans corresponds_iff⟩
    · rw [failed]
      refine ⟨_, rfl, ⟨fun matched => absurd rfl matched, fun corresponds => ?_⟩⟩
      exact absurd (corresponds_iff.mpr corresponds) apart
  · simp only [runtime, failed]
    refine ⟨_, rfl, ⟨fun matched => absurd rfl matched, fun corresponds => ?_⟩⟩
    exact absurd corresponds.fits.le (Nat.not_le.mpr short)

/-- The bytecode of a library with call protection, two slots of another library that hold
placeholders of two kinds, three bytes for an immutable, and an auxdata. -/
def sampleLibraryCode : Code :=
  Code.marked ('7' :: '3' :: Placeholder.zeros ++ Placeholder.named "L.sol:L" ++
    Placeholder.zeros ++ "000000a164".toList)

/-- The slots of the other library. -/
def sampleLibrarySlots : Listing LibrarySlot :=
  ⟨[⟨"L.sol:L", 21, 20⟩, ⟨"L.sol:L", 41, 20⟩], none⟩

/-- Two slots of one immutable that share a byte. -/
def sampleValueSlots : Listing ImmutableSlot := ⟨[⟨"5", 61, 2⟩, ⟨"5", 62, 2⟩], none⟩

/-- An auxdata that begins with the last byte of the immutable. -/
def sampleTail : AuxdataPositions := [("1", ⟨63, "0x00a164".toList⟩)]

/-- The deployed library, with the first byte given. -/
def sampleDeployed (first : Code) : Code :=
  first ++ sampleAddress ++ sampleAddress ++ sampleAddress ++ "070707FFEE".toList

set_option maxRecDepth 20000 in
/-- The deployed library matches, and it differs with its first byte changed. -/
theorem runtime_matches_iff_sample :
    Laid sampleLibraryCode sampleLibrarySlots sampleTail sampleValueSlots ∧
      Readable .solidity sampleTail ∧
      (∃ found, runtime sampleLibraryCode (sampleDeployed ['7', '3']) sampleLibrarySlots sampleTail
        sampleValueSlots .solidity = .ok found ∧ found.status ≠ .differs) ∧
      ∃ found, runtime sampleLibraryCode (sampleDeployed ['7', '4']) sampleLibrarySlots sampleTail
        sampleValueSlots .solidity = .ok found ∧ found.status = .differs := by
  have laid : Laid sampleLibraryCode sampleLibrarySlots sampleTail sampleValueSlots := by
    decide +kernel
  have readable : Readable .solidity sampleTail := by decide +kernel
  have clear : ∀ extent ∈ Extraction.protectionExtents sampleLibraryCode,
      ∀ slot ∈ sampleLibrarySlots.entries, slot.extent.Apart extent := by decide +kernel
  have same : Corresponds .runtime (Extraction.protectionExtents sampleLibraryCode)
      sampleLibraryCode (sampleDeployed ['7', '3']).normalize sampleLibrarySlots sampleTail
      sampleValueSlots := by decide +kernel
  have different : ¬ Corresponds .runtime (Extraction.protectionExtents sampleLibraryCode)
      sampleLibraryCode (sampleDeployed ['7', '4']).normalize sampleLibrarySlots sampleTail
      sampleValueSlots := by decide +kernel
  obtain ⟨found, ran, decided⟩ :=
    runtime_matches_iff (sampleDeployed ['7', '3']) laid clear readable rfl
  obtain ⟨other, ran_other, decided_other⟩ :=
    runtime_matches_iff (sampleDeployed ['7', '4']) laid clear readable rfl
  refine ⟨laid, readable, ⟨found, ran, decided.mpr same⟩, other, ran_other, ?_⟩
  exact Decidable.not_not.mp fun matched => different (decided_other.mp matched)

end Match

end Attest
