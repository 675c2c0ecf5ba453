import Attest.Proofs.Auxdata.Assignment
import Attest.Proofs.Match.Agreement
import Mathlib.Data.List.Forall2

/-!
# What is located by comparison

An auxdata that is located by comparing two bytecodes stands around the first index of a run of
differences, so what the edited bytecode has there is another text
(`AuxdataPositions.find_around_changes`). Its place is given in bytes: where its text begins at a
byte and is of whole bytes, the bytes at the place are the text, and they have changed. A text that
begins within a byte is given the place of that byte, which may hold a copy of it that has not
changed (`AuxdataPositions.find_unchanged_copy`).
-/
namespace Attest

/-- A text that begins at an index of a code has its characters there. -/
theorem Code.getElem?_of_prefix_drop {text code : Code} {start index : Nat}
    (stands : text <+: code.drop start) (inside : index < text.length) :
    code[start + index]? = text[index]? := by
  have same := List.prefix_iff_getElem?.mp stands index inside
  rw [List.getElem?_drop] at same
  rw [same, List.getElem?_eq_getElem inside]

/-- Characters of a marked code that are whole bytes. -/
structure Code.WholeBytes (start length : Nat) : Prop where
  /-- The characters are behind the mark. -/
  behind : 2 ≤ start
  /-- They begin at a byte. -/
  start : start % 2 = 0
  /-- Their number is even. -/
  length : length % 2 = 0

instance (start length : Nat) : Decidable (Code.WholeBytes start length) :=
  decidable_of_iff (2 ≤ start ∧ start % 2 = 0 ∧ length % 2 = 0)
    ⟨fun ⟨behind, start, length⟩ => ⟨behind, start, length⟩,
      fun whole => ⟨whole.behind, whole.start, whole.length⟩⟩

namespace AuxdataPosition

/-- A place at which the bytes of a code are those of its auxdata, capital letters aside. -/
structure Describes (position : AuxdataPosition) (code : Code) : Prop where
  /-- The place does not begin before the code. -/
  nonneg : position.extent.Nonneg
  /-- The text of the bytes is that of the auxdata. -/
  text : Text.lower (code.textIn position.extent) = Text.lower position.value.body

instance (position : AuxdataPosition) (code : Code) : Decidable (position.Describes code) :=
  decidable_of_iff (position.extent.Nonneg ∧
      Text.lower (code.textIn position.extent) = Text.lower position.value.body)
    ⟨fun ⟨nonneg, text⟩ => ⟨nonneg, text⟩, fun describes => ⟨describes.nonneg, describes.text⟩⟩

variable {position : AuxdataPosition} {text : Code} {start : Nat}

/-- The place of characters that are whole bytes covers these characters. -/
theorem extent_of_wholeBytes (value : position.value = Code.marked text)
    (offset : position.offset = ((start : Int) - 2) / 2)
    (whole : Code.WholeBytes start text.length) :
    position.extent.Nonneg ∧ position.extent.first = start ∧
      position.extent.stop = start + text.length := by
  have behind := whole.behind
  have even := whole.start
  have bytes := whole.length
  have size : position.value.byteLength = text.length / 2 := by
    rw [value, Code.byteLength_marked]
  have nonneg : position.extent.Nonneg := by
    constructor
    · change 0 ≤ position.offset
      omega
    · exact Int.natCast_nonneg _
  have first : position.extent.first = start := by
    simp only [Extent.first, extent, Code.position, offset]
    omega
  have stop : position.extent.stop = position.extent.first + 2 * (text.length / 2) := by
    simp only [Extent.stop, extent, size]
    omega
  refine ⟨nonneg, first, ?_⟩
  rw [stop, first]
  omega

/-- The bytes at the place of characters that are whole bytes are these characters. -/
theorem textIn_of_wholeBytes (code : Code) (value : position.value = Code.marked text)
    (offset : position.offset = ((start : Int) - 2) / 2)
    (whole : Code.WholeBytes start text.length) :
    code.textIn position.extent = (code.drop start).take text.length := by
  obtain ⟨nonneg, first, stop⟩ := extent_of_wholeBytes value offset whole
  rw [Code.textIn, Code.region_eq _ nonneg.regular, first, stop, List.drop_take,
    Nat.add_sub_cancel_left]

/-- The place of a small text of whole bytes describes a small code exactly if the text begins
there. -/
theorem describes_lower_iff {code : Code} (value : position.value = Code.marked text)
    (offset : position.offset = ((start : Int) - 2) / 2) (whole : Code.WholeBytes start text.length)
    (small : Text.Small text) :
    position.Describes (Text.lower code) ↔ text <+: (Text.lower code).drop start := by
  obtain ⟨nonneg, -, -⟩ := extent_of_wholeBytes value offset whole
  have found := textIn_of_wholeBytes (Text.lower code) value offset whole
  have small_found : Text.Small (Code.textIn (Text.lower code) position.extent) := by
    intro c member
    exact Text.small_lower code c (Code.mem_of_mem_region member)
  rw [List.prefix_iff_eq_take, ← found]
  constructor
  · intro describes
    have same := describes.text
    rw [Text.lower_of_small small_found, value, Code.body_marked, Text.lower_of_small small] at same
    exact same.symm
  · intro same
    refine ⟨nonneg, ?_⟩
    rw [← same, value, Code.body_marked]

end AuxdataPosition

namespace AuxdataPositions

/-- A place by comparison: the text of an auxdata, in small letters, begins in the unedited code so
far before the first index of a run of differences as its own first change lies behind its
beginning. -/
structure Around (unedited edited literal editedLiteral : Code) (begins first : Nat)
    (position : AuxdataPosition) : Prop where
  /-- The value is the text of the auxdata. -/
  value : position.value = Code.marked (Text.lower literal)
  /-- A run of differences begins at the index. -/
  run : ∃ last, Difference.MaximalRun (Text.lower unedited) (Text.lower edited) begins last
  /-- The auxdata itself changes first at an index of its own. -/
  changes : Difference.FirstAt (Text.lower literal) (Text.lower editedLiteral) first
  /-- The text does not begin before the code. -/
  fits : first ≤ begins
  /-- The text stands in the unedited code. -/
  stands : Text.lower literal <+: (Text.lower unedited).drop (begins - first)
  /-- The run begins inside the text. -/
  inside : begins < begins - first + (Text.lower literal).length
  /-- The offset is that of the byte in which the text begins. -/
  offset : position.offset = ((begins : Int) - first - 2) / 2
  /-- The edited code has another text there. -/
  altered : ¬ Text.lower literal <+: (Text.lower edited).drop (begins - first)
  /-- Where the text is whole bytes, the bytes at the place are the text, and they have changed. -/
  region : Code.WholeBytes (begins - first) (Text.lower literal).length →
    position.Describes (Text.lower unedited) ∧ ¬ position.Describes (Text.lower edited)

variable {unedited edited : Code} {auxdatas editedAuxdatas : List Code}
  {positions : AuxdataPositions}

/-- An auxdata that stands around the first index of a run has its place around it. -/
theorem around_of_occursAt {literal editedLiteral : Code} {change : Change} {run : Int × Int}
    (changed : Change.of (Text.lower literal) (Text.lower editedLiteral) = .ok change)
    (member : run ∈ Difference.textRuns (Text.lower unedited) (Text.lower edited))
    (occurs : change.occursAt (Text.lower unedited) run.1 = true) :
    ∃ begins first : Nat, run.1 = begins ∧
      Around unedited edited literal editedLiteral begins first (placeOf change run.1) := by
  obtain ⟨same, first, first_eq, least⟩ := Change.of_eq_ok changed
  obtain ⟨begins, last, rfl, maximal⟩ := Difference.exists_of_mem_textRuns member
  obtain ⟨fits, stands⟩ := (Change.occursAt_iff first_eq).mp occurs
  rw [same] at stands
  have within : first < (Text.lower literal).length := least.differs.1
  have differs := maximal.differs begins (Nat.le_refl _) maximal.order
  have at_first : begins - first + first = begins := Nat.sub_add_cancel fits
  have altered : ¬ Text.lower literal <+: (Text.lower edited).drop (begins - first) := by
    intro again
    have old := Code.getElem?_of_prefix_drop stands within
    have new := Code.getElem?_of_prefix_drop again within
    -- At the first index of the run the two codes would have the same character of the auxdata.
    rw [at_first] at old new
    exact differs.2.2 (old.trans new.symm)
  have value : (placeOf change begins).value = Code.marked (Text.lower literal) := by
    rw [placeOf, same]
  have offset : (placeOf change begins).offset = ((begins : Int) - first - 2) / 2 := by
    rw [placeOf, first_eq]
  refine ⟨begins, first, rfl, value, ⟨last, maximal⟩, least, fits, stands, by omega, offset,
    altered, fun whole => ?_⟩
  have start : (placeOf change begins).offset = (((begins - first : Nat) : Int) - 2) / 2 := by
    rw [offset, Int.natCast_sub fits]
  have small := Text.small_lower literal
  exact ⟨(AuxdataPosition.describes_lower_iff value start whole small).mpr stands,
    fun describes => altered
      ((AuxdataPosition.describes_lower_iff value start whole small).mp describes)⟩

/-- An auxdata that is given a run is a reported one and has its place around the first index of the
run. -/
theorem around_of_assigns {changes : List Change} {given : List Assignment}
    (made : Change.ofReports (auxdatas.map Text.lower) (editedAuxdatas.map Text.lower) =
      .ok changes)
    (assigns : Assigns (Text.lower unedited) changes []
      (Difference.textRuns (Text.lower unedited) (Text.lower edited)) given)
    {assignment : Assignment} (member : assignment ∈ given) :
    ∃ (begins first : Nat) (literal editedLiteral : Code), assignment.index = begins ∧
      auxdatas[assignment.number]? = some literal ∧
        editedAuxdatas[assignment.number]? = some editedLiteral ∧
        Around unedited edited literal editedLiteral begins first assignment.row.2 := by
  obtain ⟨listed, occurs⟩ := assigns.occurs assignment member
  obtain ⟨_, _, old, new, changed⟩ := (Change.ofReports_eq_ok made).2.2 _ _ listed
  rw [List.getElem?_map, Option.map_eq_some_iff] at old new
  obtain ⟨literal, there, rfl⟩ := old
  obtain ⟨editedLiteral, there_edited, rfl⟩ := new
  obtain ⟨run, member_run, same⟩ := List.mem_map.mp
    (assigns.indexes_sublist.mem (List.mem_map_of_mem member))
  rw [← same] at occurs
  obtain ⟨begins, first, index_eq, around⟩ := around_of_occursAt changed member_run occurs
  rw [same] at index_eq around
  exact ⟨begins, first, literal, editedLiteral, index_eq, there, there_edited, around⟩

/-- What is located by comparison is located around the first index of a run. -/
theorem exists_around_of_mem (found : find unedited edited auxdatas editedAuxdatas = .ok positions)
    {row : String × AuxdataPosition} (member : row ∈ positions) :
    ∃ (begins first : Nat) (literal editedLiteral : Code),
      Around unedited edited literal editedLiteral begins first row.2 := by
  obtain ⟨changes, given, made, assigns, rfl⟩ := find_assigns found
  obtain ⟨assignment, listed, rfl⟩ := List.mem_map.mp member
  obtain ⟨begins, first, literal, editedLiteral, -, -, -, around⟩ :=
    around_of_assigns made assigns listed
  exact ⟨begins, first, literal, editedLiteral, around⟩

/-- What is located by comparison are reported auxdatas, each at most once and each around the first
index of a run of its own: the edited code has another text in its stead. -/
theorem find_around_changes
    (found : find unedited edited auxdatas editedAuxdatas = .ok positions) :
    positions.Distinct ∧ ∃ begins : List Nat, begins.Pairwise (· < ·) ∧
      List.Forall₂ (fun row index => ∃ (number first : Nat) (literal editedLiteral : Code),
        row.1 = idAt number ∧ auxdatas[number]? = some literal ∧
          editedAuxdatas[number]? = some editedLiteral ∧
          Around unedited edited literal editedLiteral index first row.2) positions begins := by
  obtain ⟨changes, given, made, assigns, rfl⟩ := find_assigns found
  have runs := Difference.textRuns_ascend (Text.lower unedited) (Text.lower edited)
  have indexes : (given.map Assignment.index).Pairwise (· < ·) :=
    (List.pairwise_map.mpr runs).sublist assigns.indexes_sublist
  have distinct : Table.Distinct (given.map Assignment.row) := by
    have numbers := List.pairwise_map.mp assigns.numbers_nodup
    rw [Table.Distinct, List.map_map]
    exact List.pairwise_map.mpr (numbers.imp fun apart same => apart (idAt_inj.mp same))
  refine ⟨distinct, given.map fun assignment => assignment.index.toNat, ?_, ?_⟩
  · refine List.pairwise_map.mpr ((List.pairwise_map.mp indexes).imp_of_mem ?_)
    intro one other member member_other less
    obtain ⟨_, _, _, _, index_eq, -⟩ := around_of_assigns made assigns member
    obtain ⟨_, _, _, _, index_other, -⟩ := around_of_assigns made assigns member_other
    omega
  · rw [List.forall₂_map_left_iff, List.forall₂_map_right_iff, List.forall₂_same]
    intro assignment member
    obtain ⟨begins, first, literal, editedLiteral, index_eq, there, there_edited, around⟩ :=
      around_of_assigns made assigns member
    rw [index_eq, Int.toNat_natCast]
    exact ⟨assignment.number, first, literal, editedLiteral, rfl, there, there_edited, around⟩

/-- Two auxdatas that stand next to each other and change within are located around their
changes. -/
theorem find_around_changes_adjacent :
    let located := [("1", ⟨0, "0xaa11".toList⟩), ("2", ⟨2, "0xbb22".toList⟩)]
    find "0xAA11bb22".toList "0xaa12bb23".toList ["aa11".toList, "bb22".toList]
        ["aa12".toList, "bb23".toList] = .ok located ∧
      Table.Distinct located ∧ ∃ begins : List Nat, begins.Pairwise (· < ·) ∧
        List.Forall₂ (fun row index => ∃ (number first : Nat) (literal editedLiteral : Code),
          row.1 = idAt number ∧ ["aa11".toList, "bb22".toList][number]? = some literal ∧
            ["aa12".toList, "bb23".toList][number]? = some editedLiteral ∧
            Around "0xAA11bb22".toList "0xaa12bb23".toList literal editedLiteral index first
              row.2) located begins :=
  have found : find "0xAA11bb22".toList "0xaa12bb23".toList ["aa11".toList, "bb22".toList]
      ["aa12".toList, "bb23".toList] =
        .ok [("1", ⟨0, "0xaa11".toList⟩), ("2", ⟨2, "0xbb22".toList⟩)] := by decide +kernel
  ⟨found, find_around_changes found⟩

/-- The place of an auxdata whose text begins within a byte may hold a copy of the auxdata that has
not changed. -/
theorem find_unchanged_copy :
    find "0xaaaaa0".toList "0xaaaab0".toList ["aaaa".toList] ["aaab".toList] =
        .ok [("1", ⟨0, "0xaaaa".toList⟩)] ∧
      AuxdataPosition.Describes ⟨0, "0xaaaa".toList⟩ "0xaaaaa0".toList ∧
      AuxdataPosition.Describes ⟨0, "0xaaaa".toList⟩ "0xaaaab0".toList := by
  decide +kernel

end AuxdataPositions

end Attest
