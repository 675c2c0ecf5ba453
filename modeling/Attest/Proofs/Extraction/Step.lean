import Attest.Extraction.Auxdata
import Attest.Extraction.Immutable
import Attest.Proofs.Code.Extent
import Attest.Proofs.Result

/-!
# The steps of an extraction

Each kind of part is filled by one step over a list. A step ends well exactly if the deployed code
reaches to the end of the part and no other value was recorded for its id, and says then what it has
filled; a library's slot has to hold a placeholder besides. The runs over all parts are left folds
of their steps.
-/
namespace Attest

/-- The extent of a slot of a library. -/
def LibrarySlot.extent (slot : LibrarySlot) : Extent := ⟨slot.start, slot.length⟩

/-- The extent of a slot of an immutable. -/
def ImmutableSlot.extent (slot : ImmutableSlot) : Extent := ⟨slot.start, slot.length⟩

/-- The extent of a located auxdata. -/
def AuxdataPosition.extent (place : AuxdataPosition) : Extent :=
  ⟨place.offset, place.value.byteLength⟩

namespace Extraction

/-- A value is in no conflict if it is the one recorded, where one is. -/
theorem conflict?_eq_none_iff {table : Table String Code} {id : String} {found : Code} :
    conflict? table id found = none ↔ ∀ value, table.get? id = some value → value = found := by
  simp [conflict?, Option.filter_eq_none_iff]

/-- What is taken from the deployed code is the text of the region. -/
theorem eq_region_of_deployed {real : Code} {part : Part} {start length : Int} {value : Code}
    (taken : deployed real part start length = .ok value) :
    value = Code.region real start length ∧ start + length ≤ real.byteLength := by
  rw [deployed] at taken
  split at taken
  · contradiction
  · rename_i reaches
    exact ⟨(Except.ok.inj taken).symm, Int.not_lt.mp reaches⟩

/-- What is not taken from the deployed code lies outside it. -/
theorem deployed_eq_error {real : Code} {part : Part} {start length : Int} {failure : Failure}
    (missing : deployed real part start length = .error failure) :
    ∃ error, failure = .region error := by
  rw [deployed] at missing
  split at missing
  · exact ⟨_, (Except.error.inj missing).symm⟩
  · contradiction

/-- The run over the slots of libraries. -/
theorem fillLibraries_eq_foldlM (real : Code) (slots : List LibrarySlot) (done : Extraction) :
    fillLibraries real done slots =
      slots.foldlM (fun done slot => fillLibrary real slot done) done := by
  induction slots generalizing done with
  | nil => rfl
  | cons slot rest inductive_hypothesis =>
    rw [fillLibraries, List.foldlM_cons]
    exact congrArg _ (funext inductive_hypothesis)

/-- The run over the slots of immutables. -/
theorem fillImmutables_eq_foldlM (real : Code) (action : Action) (slots : List ImmutableSlot)
    (done : Extraction) :
    fillImmutables real action done slots =
      slots.foldlM (fun done slot => fillImmutable real action slot done) done := by
  induction slots generalizing done with
  | nil => rfl
  | cons slot rest inductive_hypothesis =>
    rw [fillImmutables, List.foldlM_cons]
    exact congrArg _ (funext inductive_hypothesis)

/-- The run over auxdatas. -/
theorem fillAuxdatas_eq_foldlM (real : Code) (places : AuxdataPositions) (done : Extraction) :
    fillAuxdatas real done places =
      places.foldlM (fun done place => fillAuxdata real place.1 place.2 done) done := by
  induction places generalizing done with
  | nil => rfl
  | cons place rest inductive_hypothesis =>
    rw [fillAuxdatas, List.foldlM_cons]
    exact congrArg _ (funext inductive_hypothesis)

/-- A slot of a library is filled exactly if it holds a placeholder and the deployed code has an
address for it that is not in conflict. -/
theorem fillLibrary_eq_ok {real : Code} {slot : LibrarySlot} {done after : Extraction} :
    fillLibrary real slot done = .ok after ↔
      Code.region done.code slot.start slot.length ∈ Placeholder.accepted slot.name ∧
      ∃ address, deployed real (.library slot.name) slot.start slot.length = .ok address ∧
        conflict? done.values.libraries slot.name (Code.marked address) = none ∧
        after = {
          code := Code.overwrite done.code slot.start address
          transformations := done.transformations ++
            [⟨.replace, .library, slot.start, some slot.name⟩]
          values := { done.values with
            libraries := done.values.libraries.put slot.name (Code.marked address) }
          libraryMap := done.libraryMap.put (Code.region done.code slot.start slot.length)
            (Code.marked address) } := by
  rw [fillLibrary]
  by_cases accepted :
      Code.region done.code slot.start slot.length ∈ Placeholder.accepted slot.name
  · simp only [List.contains_iff_mem.mpr accepted, ↓reduceIte, accepted, true_and,
      Result.bind_eq_ok]
    refine exists_congr fun address => and_congr_right fun _ => ?_
    cases conflict? done.values.libraries slot.name (Code.marked address) with
    | none => simp [pure, Except.pure, eq_comm]
    | some recorded => simp
  · simp [accepted]

/-- A slot of a library that holds a placeholder is filled, or the deployed code cannot fill it. -/
theorem fillLibrary_eq_error {real : Code} {slot : LibrarySlot} {done : Extraction}
    {failure : Failure}
    (accepted : Code.region done.code slot.start slot.length ∈ Placeholder.accepted slot.name)
    (failed : fillLibrary real slot done = .error failure) : ∃ error, failure = .region error := by
  rw [fillLibrary] at failed
  simp only [List.contains_iff_mem.mpr accepted, ↓reduceIte, Result.bind_eq_error] at failed
  rcases failed with missing | ⟨address, -, failed⟩
  · exact deployed_eq_error missing
  · cases found : conflict? done.values.libraries slot.name (Code.marked address) with
    | none => simp [found, pure, Except.pure] at failed
    | some recorded =>
      rw [found] at failed
      exact ⟨_, (Except.error.inj failed).symm⟩

/-- A slot of an immutable is filled exactly if the deployed code has a value for it that is not in
conflict. -/
theorem fillImmutable_eq_ok {real : Code} {action : Action} {slot : ImmutableSlot}
    {done after : Extraction} :
    fillImmutable real action slot done = .ok after ↔
      ∃ value, deployed real (.immutable slot.id) slot.start slot.length = .ok value ∧
        conflict? done.values.immutables slot.id (Code.marked value) = none ∧
        after = { done with
          code := Transformation.write ⟨action, .immutable, slot.start, some slot.id⟩ done.code value
          transformations := done.transformations ++
            [⟨action, .immutable, slot.start, some slot.id⟩]
          values := { done.values with
            immutables := done.values.immutables.put slot.id (Code.marked value) } } := by
  rw [fillImmutable, Result.bind_eq_ok]
  refine exists_congr fun value => and_congr_right fun _ => ?_
  cases conflict? done.values.immutables slot.id (Code.marked value) with
  | none => simp [pure, Except.pure, eq_comm]
  | some recorded => simp

/-- A slot of an immutable is filled, or the deployed code cannot fill it. -/
theorem fillImmutable_eq_error {real : Code} {action : Action} {slot : ImmutableSlot}
    {done : Extraction} {failure : Failure}
    (failed : fillImmutable real action slot done = .error failure) :
    ∃ error, failure = .region error := by
  rw [fillImmutable, Result.bind_eq_error] at failed
  rcases failed with missing | ⟨value, -, failed⟩
  · exact deployed_eq_error missing
  · cases found : conflict? done.values.immutables slot.id (Code.marked value) with
    | none => simp [found, pure, Except.pure] at failed
    | some recorded =>
      rw [found] at failed
      exact ⟨_, (Except.error.inj failed).symm⟩

/-- An auxdata is taken over exactly if the deployed code reaches to its end. -/
theorem fillAuxdata_eq_ok {real : Code} {id : String} {place : AuxdataPosition}
    {done after : Extraction} :
    fillAuxdata real id place done = .ok after ↔
      ∃ value, deployed real (.auxdata id) place.offset place.value.byteLength = .ok value ∧
        after = { done with
          code := Code.splice done.code place.offset value place.value.byteLength
          transformations := done.transformations ++
            [⟨.replace, .auxdata, place.offset, some id⟩]
          values := { done.values with
            auxdatas := done.values.auxdatas.put id (Code.marked value) } } := by
  rw [fillAuxdata, Result.bind_eq_ok]
  refine exists_congr fun value => and_congr_right fun _ => ?_
  simp [pure, Except.pure, eq_comm]

/-- An auxdata is taken over, or the deployed code does not reach to its end. -/
theorem fillAuxdata_eq_error {real : Code} {id : String} {place : AuxdataPosition}
    {done : Extraction} {failure : Failure}
    (failed : fillAuxdata real id place done = .error failure) :
    ∃ error, failure = .region error := by
  rw [fillAuxdata, Result.bind_eq_error] at failed
  rcases failed with missing | ⟨value, -, failed⟩
  · exact deployed_eq_error missing
  · simp [pure, Except.pure] at failed

end Extraction

end Attest
