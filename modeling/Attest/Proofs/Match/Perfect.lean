import Attest.Proofs.Auxdata.Contents
import Attest.Proofs.Match.Runtime

/-!
# What a perfect match proves

A match is perfect by what stands in the template, and yet speaks of the deployed code: where the
auxdatas are the template's own text and no other part overlaps them, linking leaves them as they
are, so a deployed code that agrees has them too (`perfect_proves`). Each holds a content hash then,
and none was taken over. Auxdatas that differ in the deployed code are all taken over, and the match
is partial. What Vyper writes never makes a match perfect.
-/
namespace Attest

namespace Match

variable {template real : Code} {libraries : Listing LibrarySlot} {positions : AuxdataPositions}
  {immutables : Listing ImmutableSlot} {style : AuxdataStyle} {kind : CodeKind}

/-- Auxdatas that are the template's own text, capital letters aside, and overlap no slot. The template
bears the mark and has no capital dotted I outside the slots of libraries, and all parts lie inside
it. -/
structure Embedded (template : Code) (libraries : Listing LibrarySlot)
    (positions : AuxdataPositions) (immutables : Listing ImmutableSlot) : Prop where
  /-- The template bears the mark. -/
  marked : template.Marked
  /-- The template has no capital dotted I outside the slots of libraries. -/
  plain : template.PlainOutside (libraries.entries.map LibrarySlot.extent)
  /-- The slots of libraries lie inside the template. -/
  slots : ∀ slot ∈ libraries.entries, slot.extent.Inside template
  /-- The auxdatas lie inside the template. -/
  places : ∀ place ∈ positions, place.2.extent.Inside template
  /-- The auxdatas are the template's own text. -/
  own : ∀ place ∈ positions,
    Text.lower (template.textIn place.2.extent) = Text.lower place.2.value.body
  /-- No auxdata overlaps a slot of a library. -/
  apart : ∀ place ∈ positions, ∀ slot ∈ libraries.entries, place.2.extent.Apart slot.extent
  /-- No auxdata overlaps a slot of an immutable. -/
  apart_immutables : ∀ place ∈ positions, ∀ slot ∈ immutables.entries,
    place.2.extent.Apart slot.extent
  /-- The slots of immutables lie inside the template. -/
  immutables : ∀ slot ∈ immutables.entries, slot.extent.Inside template

instance (template : Code) (libraries : Listing LibrarySlot) (positions : AuxdataPositions)
    (immutables : Listing ImmutableSlot) :
    Decidable (Embedded template libraries positions immutables) :=
  decidable_of_iff (template.Marked ∧
      template.PlainOutside (libraries.entries.map LibrarySlot.extent) ∧
      (∀ slot ∈ libraries.entries, slot.extent.Inside template) ∧
      (∀ place ∈ positions, place.2.extent.Inside template) ∧
      (∀ place ∈ positions,
        Text.lower (template.textIn place.2.extent) = Text.lower place.2.value.body) ∧
      (∀ place ∈ positions, ∀ slot ∈ libraries.entries, place.2.extent.Apart slot.extent) ∧
      (∀ place ∈ positions, ∀ slot ∈ immutables.entries, place.2.extent.Apart slot.extent) ∧
      ∀ slot ∈ immutables.entries, slot.extent.Inside template)
    ⟨fun ⟨marked, plain, slots, places, own, apart, apart_values, values⟩ =>
        ⟨marked, plain, slots, places, own, apart, apart_values, values⟩,
      fun embedded => ⟨embedded.marked, embedded.plain, embedded.slots, embedded.places,
        embedded.own, embedded.apart, embedded.apart_immutables, embedded.immutables⟩⟩

/-- Whether the deployed code has the text of an auxdata in the place of it. -/
def HasAuxdata (real : Code) (position : AuxdataPosition) : Prop :=
  real.textIn position.extent = Text.lower position.value.body

instance (real : Code) (position : AuxdataPosition) : Decidable (HasAuxdata real position) :=
  inferInstanceAs (Decidable (_ = _))

/-- What a perfect match promises: auxdatas were located, the deployed code has all of them, each is a
map with a content hash, and none was taken over. -/
structure Proven (found : Match) (real : Code) (positions : AuxdataPositions) : Prop where
  /-- An auxdata was located. -/
  located : positions ≠ []
  /-- The deployed code has all auxdatas. -/
  deployed : ∀ place ∈ positions, HasAuxdata real place.2
  /-- Each is a map with a content hash. -/
  hashed : ∀ place ∈ positions, ∃ execution trailer,
    split place.2.value .solidity = .ok ⟨execution, some trailer⟩ ∧ Contents.Hashed trailer.item
  /-- None was taken over. -/
  untouched : ∀ transformation ∈ found.transformations, transformation.reason ≠ .auxdata

/-- The transformations that take auxdatas over. -/
def takenOver (positions : AuxdataPositions) : List Transformation :=
  positions.map fun place => ⟨.replace, .auxdata, place.2.offset, some place.1⟩

/-- The transformations of auxdatas in a match. -/
def auxdataChanges (found : Match) : List Transformation :=
  found.transformations.filter fun transformation => transformation.reason = .auxdata

/-- No transformation of an auxdata is among those for other reasons. -/
theorem filter_auxdata_eq_nil {list : List Transformation}
    (other : ∀ transformation ∈ list, transformation.reason ≠ .auxdata) :
    list.filter (fun transformation => transformation.reason = .auxdata) = [] :=
  List.filter_eq_nil_iff.mpr fun transformation member => by simp [other transformation member]

/-- What the status of a match says about auxdatas is so. -/
structure Sincere (found : Match) (real : Code) (positions : AuxdataPositions) : Prop where
  /-- A perfect match keeps its promise. -/
  perfect : found.status = .perfect → Proven found real positions
  /-- Where the deployed code has another auxdata, a match is partial, and all are taken over. -/
  partly : found.status ≠ .differs → (∃ place ∈ positions, ¬ HasAuxdata real place.2) →
    found.status = .partly ∧ auxdataChanges found = takenOver positions

/-- Transformations for other reasons than auxdata change nothing in what a match says of them. -/
theorem Sincere.surround {found other : Match} {before after : List Transformation}
    (sincere : Sincere found real positions) (same : other.status = found.status)
    (recorded : other.transformations = before ++ found.transformations ++ after)
    (no_auxdata : ∀ transformation ∈ before ++ after, transformation.reason ≠ .auxdata) :
    Sincere other real positions where
  perfect := by
    intro proved
    obtain ⟨located, deployed, hashed, untouched⟩ := sincere.perfect (same ▸ proved)
    refine ⟨located, deployed, hashed, fun transformation member => ?_⟩
    rw [recorded, List.mem_append, List.mem_append] at member
    rcases member with (first | kept) | last
    · exact no_auxdata transformation (List.mem_append_left after first)
    · exact untouched transformation kept
    · exact no_auxdata transformation (List.mem_append_right before last)
  partly := by
    intro matched different
    obtain ⟨status, changes⟩ := sincere.partly (same ▸ matched) different
    refine ⟨same.trans status, ?_⟩
    have none_before := filter_auxdata_eq_nil fun transformation member =>
      no_auxdata transformation (List.mem_append_left after member)
    have none_after := filter_auxdata_eq_nil fun transformation member =>
      no_auxdata transformation (List.mem_append_right before member)
    rw [auxdataChanges, recorded, List.filter_append, List.filter_append, none_before, none_after,
      List.nil_append, List.append_nil]
    exact changes

/-- An auxdata of Solidity that proves the metadata is a map with a content hash. -/
theorem hashed_of_provesMetadata {value : Code} (proves : provesMetadata .solidity value = .ok true) :
    ∃ execution trailer, split value .solidity = .ok ⟨execution, some trailer⟩ ∧
      Contents.Hashed trailer.item := by
  rw [provesMetadata] at proves
  split at proves
  · rename_i contents decoded
    obtain ⟨⟨execution, trailer⟩, parts, read⟩ := Result.bind_eq_ok.mp decoded
    cases trailer with
    | none => contradiction
    | some trailer =>
      have stated := Except.ok.inj proves
      exact ⟨execution, trailer, parts, Contents.hashed_of_hasContentHash read stated⟩
  · simp at proves
  · contradiction

/-- An auxdata of Vyper proves no metadata. -/
theorem provesMetadata_of_vyper (vyper : style ≠ .solidity) (value : Code) :
    provesMetadata style value ≠ .ok true := by
  intro proves
  rw [provesMetadata] at proves
  split at proves
  · rename_i contents decoded
    obtain ⟨⟨execution, trailer⟩, -, read⟩ := Result.bind_eq_ok.mp decoded
    cases trailer with
    | none => contradiction
    | some trailer =>
      change Contents.ofItem style trailer.item = .ok contents at read
      unfold Contents.ofItem at read
      rw [if_neg vyper] at read
      have stated := Except.ok.inj proves
      rw [Contents.hasContentHash_ofVyper read] at stated
      contradiction
  · simp at proves
  · contradiction

/-- A status is perfect if there are auxdatas and all prove the metadata. -/
theorem proves_of_provenStatus (proved : provenStatus style positions = .ok .perfect) :
    positions ≠ [] ∧ ∀ place ∈ positions, provesMetadata style place.2.value = .ok true := by
  rw [provenStatus] at proved
  cases positions with
  | nil => simp [pure, Except.pure] at proved
  | cons place rest =>
    obtain ⟨proves, decided, status⟩ := Result.bind_eq_ok.mp proved
    cases proves with
    | false => simp [pure, Except.pure] at status
    | true => exact ⟨List.cons_ne_nil _ _, allProve_eq_true_iff.mp decided⟩

/-- A comparison comes out as perfect only where the code agrees without a change to an auxdata, and
where all auxdatas prove the metadata. -/
theorem compare_perfect {found result : Match} (unmatched : found.status = .differs)
    (compared : compare kind found real positions style = .ok result)
    (perfect : result.status = .perfect) :
    agrees kind found.code real = true ∧ result.transformations = found.transformations ∧
      positions ≠ [] ∧ ∀ place ∈ positions, provesMetadata style place.2.value = .ok true := by
  unfold compare at compared
  split at compared
  · rename_i same
    obtain ⟨status, proved, written⟩ := Result.bind_eq_ok.mp compared
    rw [Result.pure_eq_ok] at written
    subst written
    rw [show status = .perfect from perfect] at proved
    exact ⟨same, rfl, proves_of_provenStatus proved⟩
  · have matched : result.status ≠ .differs := by rw [perfect]; decide
    split at compared
    · rw [Result.pure_eq_ok] at compared
      exact absurd (compared ▸ unmatched) matched
    · obtain ⟨auxdatas, -, compared⟩ := Result.bind_eq_ok.mp compared
      split at compared
      · rw [Result.pure_eq_ok] at compared
        rw [← compared] at perfect
        contradiction
      · rw [Result.pure_eq_ok] at compared
        exact absurd (compared ▸ unmatched) matched

/-- A linked template that still has the auxdatas of its template, with nothing recorded of them. -/
structure Carries (found : Match) (positions : AuxdataPositions) : Prop where
  /-- Nothing is compared yet. -/
  unmatched : found.status = .differs
  /-- The linked template bears the mark. -/
  marked : found.code.Marked
  /-- The auxdatas lie inside the linked template. -/
  places : ∀ place ∈ positions, place.2.extent.Inside found.code
  /-- The linked template has all auxdatas. -/
  own : ∀ place ∈ positions, HasAuxdata found.code place.2
  /-- None was taken over. -/
  untouched : ∀ transformation ∈ found.transformations, transformation.reason ≠ .auxdata

/-- Linking a template leaves its auxdatas as they are, in small letters. -/
theorem linked_carries {found : Match} (embedded : Embedded template libraries positions immutables)
    (bears : real.Marked) (small : Text.Small real)
    (link : linked template real libraries immutables .solidity = .ok found) :
    Carries found positions := by
  obtain ⟨addresses, values, filled, filled_values, rfl⟩ := linked_eq_ok.mp link
  obtain ⟨-, filled⟩ := Extraction.libraries_eq_ok.mp filled
  obtain ⟨-, filled_values⟩ := Extraction.immutables_eq_ok.mp filled_values
  have code := Extraction.fillLibraries_filledFrom bears
    (fun slot present => (embedded.slots slot present).within embedded.marked) filled
  have nonneg := Extent.nonneg_of_inside embedded.slots
  have marked := code.marked embedded.marked nonneg
  have plain : addresses.code.PlainOutside [] := by
    apply code.plain small
    rw [List.append_nil]
    exact embedded.plain
  have normal := Code.marked_normalize addresses.code
  have length : addresses.code.normalize.length = template.length :=
    (Code.length_normalize marked plain).trans code.length
  have inside {extent : Extent} (within : extent.Inside template) :
      extent.Inside addresses.code.normalize :=
    within.of_length embedded.marked normal length
  have code_values := Extraction.fillImmutables_filledFrom bears normal
    (fun slot present => inside (embedded.immutables slot present)) filled_values
  have nonneg_values := Extent.nonneg_of_inside embedded.immutables
  have marked_values : values.code.Marked := code_values.marked normal nonneg_values
  refine ⟨rfl, marked_values, ?_, ?_, ?_⟩
  · intro place member
    exact (inside (embedded.places place member)).of_length normal marked_values code_values.length
  · intro place member
    have regular := (embedded.places place member).regular
    calc
      values.code.textIn place.2.extent
        = addresses.code.normalize.textIn place.2.extent := by
          apply code_values.textIn_eq regular fun extent listed =>
            (nonneg_values extent listed).regular
          exact List.forall_mem_map.mpr (embedded.apart_immutables place member)
      _ = Text.lower (addresses.code.textIn place.2.extent) :=
          Code.textIn_normalize marked plain regular
      _ = Text.lower (template.textIn place.2.extent) := by
          congr 1
          apply code.textIn_eq regular fun extent listed => (nonneg extent listed).regular
          exact List.forall_mem_map.mpr (embedded.apart place member)
      _ = Text.lower place.2.value.body := embedded.own place member
  · intro transformation member
    simp only [Extraction.fillLibraries_transformations filled,
      Extraction.fillImmutables_transformations filled_values, List.mem_append,
      List.mem_map] at member
    rcases member with ⟨slot, -, rfl⟩ | ⟨slot, -, rfl⟩ <;> simp

/-- Code that agrees with a linked template has the auxdatas that it carries. -/
theorem Carries.deployed {found : Match} (carries : Carries found positions)
    (same : agrees kind found.code real = true) :
    ∀ place ∈ positions, HasAuxdata real place.2 := by
  intro place member
  have inside := carries.places place member
  have regular := inside.regular
  have stops := inside.stop_le carries.marked
  have characters := (agrees_iff.mp same).2
  rw [HasAuxdata, ← carries.own place member, Code.textIn, Code.textIn,
    Code.region_eq real regular, Code.region_eq found.code regular]
  refine List.ext_getElem? fun index => ?_
  rw [List.getElem?_drop, List.getElem?_drop, List.getElem?_take, List.getElem?_take]
  split
  · rename_i before
    exact (characters _ (by omega) (by simp)).symm
  · rfl

/-- What comparing a linked template says about the auxdatas that it carries is so. -/
theorem compare_sincere {found result : Match} (carries : Carries found positions)
    (compared : compare kind found real positions .solidity = .ok result) :
    Sincere result real positions where
  perfect := by
    intro proved
    obtain ⟨same, recorded, located, proves⟩ := compare_perfect carries.unmatched compared proved
    refine ⟨located, carries.deployed same, fun place member => ?_, ?_⟩
    · exact hashed_of_provesMetadata (proves place member)
    · rw [recorded]
      exact carries.untouched
  partly := by
    intro matched ⟨place, member, different⟩
    rcases compare_eq_ok carries.unmatched compared matched with
      ⟨same, -⟩ | ⟨auxdatas, taken, -, rfl⟩
    · exact absurd (carries.deployed same place member) different
    · refine ⟨rfl, ?_⟩
      have recorded := Extraction.fillAuxdatas_transformations taken
      change (found.transformations ++ auxdatas.transformations).filter _ = _
      rw [List.filter_append, filter_auxdata_eq_nil carries.untouched, recorded, List.nil_append,
        List.filter_eq_self.mpr]
      · rfl
      · intro transformation present
        obtain ⟨other, -, rfl⟩ := List.mem_map.mp present
        simp

/-- Filling in call protection leaves auxdatas as they are that do not overlap it. -/
theorem Embedded.callProtection (embedded : Embedded template libraries positions immutables)
    (small : Text.Small real)
    (clear : ∀ place ∈ positions, ∀ extent ∈ Extraction.protectionExtents template,
      place.2.extent.Apart extent) {code : Code}
    (filled : code.FilledFrom real (Extraction.protectionExtents template) template) :
    Embedded code libraries positions immutables := by
  have nonneg : ∀ extent ∈ Extraction.protectionExtents template, extent.Nonneg := by
    intro extent member
    rw [(Extraction.mem_protectionExtents member).1]
    exact Extraction.protectionExtent_nonneg
  have marked := filled.marked embedded.marked nonneg
  have inside {extent : Extent} (within : extent.Inside template) : extent.Inside code :=
    within.of_length embedded.marked marked filled.length
  exact {
    marked := marked
    plain := filled.plain small fun index c found free => embedded.plain index c found
      fun extent member => free extent (by simp [member])
    slots := fun slot member => inside (embedded.slots slot member)
    places := fun place member => inside (embedded.places place member)
    own := by
      intro place member
      have same := filled.textIn_eq (embedded.places place member).regular
        (fun extent listed => (nonneg extent listed).regular) (clear place member)
      rw [same]
      exact embedded.own place member
    apart := embedded.apart
    apart_immutables := embedded.apart_immutables
    immutables := fun slot member => inside (embedded.immutables slot member) }

/-- A match that differs says nothing about auxdatas. -/
theorem sincere_of_differs {found : Match} (unmatched : found.status = .differs) :
    Sincere found real positions where
  perfect := fun proved => by rw [unmatched] at proved; contradiction
  partly := fun matched => absurd unmatched matched

/-- What a match of the code that a contract runs says about auxdatas is so. -/
theorem runtime_sincere {found : Match}
    (embedded : Embedded template libraries positions immutables)
    (clear : ∀ place ∈ positions, ∀ extent ∈ Extraction.protectionExtents template,
      place.2.extent.Apart extent)
    (ran : runtime template real libraries positions immutables .solidity = .ok found) :
    Sincere found real.normalize positions := by
  have bears := Code.marked_normalize real
  have small := Code.small_normalize real
  by_cases matched : found.status = .differs
  · exact sincere_of_differs matched
  obtain ⟨protection, rest, filled, compared, rfl⟩ := runtime_eq_ok ran matched
  obtain ⟨linked, link, compare⟩ := ofCode_runtime_eq_ok compared matched
  rw [Code.normalize_normalize] at link compare
  have code : protection.code.FilledFrom real.normalize (Extraction.protectionExtents template)
      template := by
    rcases Extraction.callProtection_decides template bears with
      ⟨other, same, code⟩ | ⟨failure, failed, -⟩
    · obtain rfl := Except.ok.inj (filled.symm.trans same)
      exact code
    · rw [filled] at failed
      contradiction
  have carries := linked_carries (embedded.callProtection small clear code) bears small link
  have sincere := compare_sincere carries compare
  refine sincere.surround rfl (List.append_nil _).symm fun transformation member => ?_
  rw [List.append_nil] at member
  rcases Extraction.callProtection_eq_ok.mp filled with ⟨-, rfl⟩ | ⟨-, address, -, rfl⟩
  · exact absurd member List.not_mem_nil
  · rw [List.mem_singleton.mp member]
    decide

/-- What a match of the code that creates a contract says about auxdatas is so. -/
theorem creation_sincere {found : Match} {interface : Json}
    (embedded : Embedded template libraries positions .empty)
    (ran : creation template real libraries positions interface .solidity = .ok found) :
    Sincere found real.normalize positions := by
  have bears := Code.marked_normalize real
  have small := Code.small_normalize real
  by_cases matched : found.status = .differs
  · exact sincere_of_differs matched
  obtain ⟨linked, compared, arguments, link, compare, -, taken, rfl⟩ :=
    ofCode_creation_eq_ok ran matched
  have sincere := compare_sincere (linked_carries embedded bears small link) compare
  have recorded : (compared.extend arguments).transformations =
      [] ++ compared.transformations ++ arguments.transformations := rfl
  refine sincere.surround rfl recorded fun transformation member => ?_
  rw [List.nil_append] at member
  rcases Nat.lt_or_ge compared.code.length real.normalize.length with longer | short
  · rw [Extraction.constructorArguments_eq_ok longer taken] at member
    rw [List.mem_singleton.mp member]
    simp [Extraction.argumentsTransformation]
  · rw [Extraction.constructorArguments_of_le short, Except.ok.injEq] at taken
    rw [← taken] at member
    exact absurd member List.not_mem_nil

/-- Comparing by what Vyper writes is never perfect. -/
theorem compare_ne_perfect {found result : Match} (vyper : style ≠ .solidity)
    (unmatched : found.status = .differs)
    (compared : compare kind found real positions style = .ok result) :
    result.status ≠ .perfect := by
  intro perfect
  obtain ⟨-, -, located, proves⟩ := compare_perfect unmatched compared perfect
  obtain ⟨place, rest, rfl⟩ := List.exists_cons_of_ne_nil located
  exact provesMetadata_of_vyper vyper place.2.value (proves place List.mem_cons_self)

/-- A linked template is not compared yet. -/
theorem status_of_linked {found : Match}
    (link : linked template real libraries immutables style = .ok found) :
    found.status = .differs := by
  obtain ⟨addresses, values, -, -, rfl⟩ := linked_eq_ok.mp link
  rfl

/-- A match by what Vyper writes of the code that a contract runs is never perfect. -/
theorem runtime_ne_perfect {found : Match} (vyper : style ≠ .solidity)
    (ran : runtime template real libraries positions immutables style = .ok found) :
    found.status ≠ .perfect := by
  intro perfect
  have matched : found.status ≠ .differs := by rw [perfect]; decide
  obtain ⟨protection, rest, -, compared, rfl⟩ := runtime_eq_ok ran matched
  obtain ⟨linked, link, compare⟩ := ofCode_runtime_eq_ok compared matched
  exact compare_ne_perfect vyper (status_of_linked link) compare perfect

/-- A match by what Vyper writes of the code that creates a contract is never perfect. -/
theorem creation_ne_perfect {interface : Json} {found : Match} (vyper : style ≠ .solidity)
    (ran : creation template real libraries positions interface style = .ok found) :
    found.status ≠ .perfect := by
  intro perfect
  have matched : found.status ≠ .differs := by rw [perfect]; decide
  obtain ⟨linked, compared, arguments, link, compare, -, -, rfl⟩ :=
    ofCode_creation_eq_ok ran matched
  exact compare_ne_perfect vyper (status_of_linked link) compare perfect

/-- Where the auxdatas of a template are its own text and no other part overlaps them, a perfect match
of either kind of code means that auxdatas were located, that the deployed code has all of them, that
each is a map with a content hash, and that none was taken over; a match with a deployed code that has
another auxdata is partial, and takes all auxdatas over. What Vyper writes never makes a match
perfect, whatever the parts are. -/
theorem perfect_proves (template real : Code) (libraries : Listing LibrarySlot)
    (positions : AuxdataPositions) (immutables : Listing ImmutableSlot) (interface : Json) :
    (Embedded template libraries positions immutables →
      (∀ place ∈ positions, ∀ extent ∈ Extraction.protectionExtents template,
        place.2.extent.Apart extent) →
      ∀ found, runtime template real libraries positions immutables .solidity = .ok found →
        Sincere found real.normalize positions) ∧
    (Embedded template libraries positions .empty →
      ∀ found, creation template real libraries positions interface .solidity = .ok found →
        Sincere found real.normalize positions) ∧
    ∀ style, style ≠ .solidity →
      (∀ found, runtime template real libraries positions immutables style = .ok found →
        found.status ≠ .perfect) ∧
      ∀ found, creation template real libraries positions interface style = .ok found →
        found.status ≠ .perfect := by
  refine ⟨?_, ?_, ?_⟩
  · intro embedded clear found ran
    exact runtime_sincere embedded clear ran
  · intro embedded found ran
    exact creation_sincere embedded ran
  · intro style vyper
    exact ⟨fun found ran => runtime_ne_perfect vyper ran,
      fun found ran => creation_ne_perfect vyper ran⟩

/-- A bytecode with two slots of one library, three bytes for an immutable, and an auxdata that names
the metadata. -/
def sampleNamed : Code :=
  Code.marked (Placeholder.named "L.sol:L" ++ Placeholder.named "L.sol:L" ++
    "000000a1646970667341010008".toList)

/-- The place of that auxdata. -/
def sampleName : AuxdataPositions := [("1", ⟨43, "0xa1646970667341010008".toList⟩)]

/-- The deployed code with some bytes for the immutable and some for the auxdata. -/
def sampleNaming (value auxdata : String) : Code :=
  sampleAddress ++ sampleAddress ++ value.toList ++ auxdata.toList

set_option maxRecDepth 20000 in
/-- The sample is perfect with its own auxdata in the deployed code, in capital letters, and partial
with another. -/
theorem perfect_proves_sample :
    Embedded sampleNamed sampleLibraries sampleName sampleImmutables ∧
      (∃ found, runtime sampleNamed (sampleNaming "070707" "A1646970667341010008") sampleLibraries
          sampleName sampleImmutables .solidity = .ok found ∧ found.status = .perfect ∧
        Proven found (sampleNaming "070707" "A1646970667341010008").normalize sampleName) ∧
      (∃ found, creation sampleNamed (sampleNaming "000000" "A1646970667341010008")
          sampleLibraries sampleName .null .solidity = .ok found ∧ found.status = .perfect ∧
        Proven found (sampleNaming "000000" "A1646970667341010008").normalize sampleName) ∧
      (∃ found, runtime sampleNamed (sampleNaming "070707" "a1646970667341020008") sampleLibraries
          sampleName sampleImmutables .solidity = .ok found ∧ found.status = .partly ∧
        auxdataChanges found = takenOver sampleName) ∧
      ∃ found, runtime sampleNamed (sampleNaming "070707" "A1646970667341010008") sampleLibraries
          sampleName sampleImmutables .vyperBefore0310 = .ok found ∧ found.status ≠ .perfect := by
  have embedded : Embedded sampleNamed sampleLibraries sampleName sampleImmutables := by
    decide +kernel
  have embedded_creation : Embedded sampleNamed sampleLibraries sampleName .empty := by
    decide +kernel
  have clear : ∀ place ∈ sampleName, ∀ extent ∈ Extraction.protectionExtents sampleNamed,
      place.2.extent.Apart extent := by decide +kernel
  have other : ∃ place ∈ sampleName,
      ¬ HasAuxdata (sampleNaming "070707" "a1646970667341020008").normalize place.2 := by
    decide +kernel
  obtain ⟨found, ran, status⟩ := exists_of_status (show (runtime sampleNamed
    (sampleNaming "070707" "A1646970667341010008") sampleLibraries sampleName sampleImmutables
    .solidity).toOption.map Match.status = some .perfect by decide +kernel)
  obtain ⟨made, ran_made, status_made⟩ := exists_of_status (show (creation sampleNamed
    (sampleNaming "000000" "A1646970667341010008") sampleLibraries sampleName .null
    .solidity).toOption.map Match.status = some .perfect by decide +kernel)
  obtain ⟨apart, ran_apart, status_apart⟩ := exists_of_status (show (runtime sampleNamed
    (sampleNaming "070707" "a1646970667341020008") sampleLibraries sampleName sampleImmutables
    .solidity).toOption.map Match.status = some .partly by decide +kernel)
  obtain ⟨older, ran_older, -⟩ := exists_of_status (show (runtime sampleNamed
    (sampleNaming "070707" "A1646970667341010008") sampleLibraries sampleName sampleImmutables
    .vyperBefore0310).toOption.map Match.status = some .partly by decide +kernel)
  obtain ⟨of_runtime, -, of_vyper⟩ := perfect_proves sampleNamed
    (sampleNaming "070707" "A1646970667341010008") sampleLibraries sampleName sampleImmutables .null
  obtain ⟨-, of_creation, -⟩ := perfect_proves sampleNamed
    (sampleNaming "000000" "A1646970667341010008") sampleLibraries sampleName .empty .null
  have proven := (of_runtime embedded clear found ran).perfect status
  have proven_made := (of_creation embedded_creation made ran_made).perfect status_made
  have matched : apart.status ≠ .differs := by rw [status_apart]; decide
  have told := ((perfect_proves sampleNamed _ sampleLibraries sampleName sampleImmutables .null).1
    embedded clear apart ran_apart).partly matched other
  have imperfect := (of_vyper .vyperBefore0310 (by decide)).1 older ran_older
  exact ⟨embedded, ⟨found, ran, status, proven⟩, ⟨made, ran_made, status_made, proven_made⟩,
    ⟨apart, ran_apart, told.1, told.2⟩, older, ran_older, imperfect⟩

end Match

end Attest
