import Attest.Proofs.Auxdata.Comparison
import Mathlib.Data.List.Sort

/-!
# Auxdatas embedded in any order

A bytecode may embed auxdatas between pieces of code, and an edit of the sources changes nothing in
it but the texts of these auxdatas (`Arrangement`). The first change of each block is then the first
index of a run of differences (`Arrangement.exists_maximalRun`), though the block may have more runs
than that one. Where no reported auxdata stands around the first index of any other run, locating
gives one place to each reported auxdata, and the places are those at which the blocks are embedded,
in whatever order the auxdatas are reported (`Arrangement.find_locates`).
-/
namespace Attest

/-- A text of whole bytes in small letters. -/
structure Piece where
  /-- The text. -/
  text : Code
  /-- Its letters are small. -/
  small : Text.Small text
  /-- Its length is even. -/
  whole : text.length % 2 = 0
  deriving DecidableEq

/-- An auxdata as it is reported before and after an edit that changes it. -/
structure EditedAuxdata where
  /-- The text before the edit. -/
  literal : Piece
  /-- The text after the edit. -/
  edited : Piece
  /-- The edit keeps the length. -/
  length : edited.text.length = literal.text.length
  /-- The edit changes the text. -/
  differs : edited.text ≠ literal.text
  /-- The edit keeps the first character. -/
  head : edited.text.head? = literal.text.head?
  deriving DecidableEq

namespace EditedAuxdata

/-- The change of a reported auxdata. -/
def change (report : EditedAuxdata) : Change :=
  match Change.of report.literal.text report.edited.text with
  | .ok change => change
  | .error _ => ⟨report.literal.text, 0, 0⟩

/-- The first index at which a reported auxdata changes. -/
def first (report : EditedAuxdata) : Nat := report.change.first.toNat

/-- A reported auxdata changes somewhere. -/
theorem exists_differsAt (report : EditedAuxdata) :
    ∃ index, Difference.DiffersAt report.literal.text report.edited.text index :=
  Difference.exists_differsAt report.length report.differs

/-- The change of a reported auxdata is made from its texts. -/
theorem change_of (report : EditedAuxdata) :
    Change.of report.literal.text report.edited.text = .ok report.change := by
  obtain ⟨index, differs⟩ := report.exists_differsAt
  obtain ⟨change, made⟩ := Change.exists_of_differsAt differs
  rw [EditedAuxdata.change, made]

/-- The text that changes is the one before the edit. -/
theorem change_literal (report : EditedAuxdata) : report.change.literal = report.literal.text :=
  (Change.of_eq_ok report.change_of).1

/-- The first index at which a reported auxdata changes, as its change counts it. -/
theorem change_first (report : EditedAuxdata) : report.change.first = report.first := by
  obtain ⟨-, first, counted, -⟩ := Change.of_eq_ok report.change_of
  rw [EditedAuxdata.first, counted, Int.toNat_natCast]

/-- The texts of a reported auxdata differ first where it changes first. -/
theorem firstAt (report : EditedAuxdata) :
    Difference.FirstAt report.literal.text report.edited.text report.first := by
  obtain ⟨-, first, counted, firstAt⟩ := Change.of_eq_ok report.change_of
  rwa [EditedAuxdata.first, counted, Int.toNat_natCast]

/-- The first character of a reported auxdata does not change. -/
theorem first_pos (report : EditedAuxdata) : 0 < report.first := by
  have head := report.head
  have differs := report.firstAt.differs.2.2
  rw [List.head?_eq_getElem?, List.head?_eq_getElem?] at head
  apply Nat.pos_of_ne_zero
  intro zero
  rw [zero] at differs
  exact differs head.symm

/-- The changes of reported auxdatas are made from the texts that are reported. -/
theorem ofReports_eq (reports : List EditedAuxdata) :
    Change.ofReports ((reports.map (·.literal.text)).map Text.lower)
      ((reports.map (·.edited.text)).map Text.lower) = .ok (reports.map change) := by
  have literals : (reports.map (·.literal.text)).map Text.lower = reports.map (·.literal.text) := by
    rw [List.map_map]
    exact List.map_congr_left fun report _ => Text.lower_of_small report.literal.small
  have editions : (reports.map (·.edited.text)).map Text.lower = reports.map (·.edited.text) := by
    rw [List.map_map]
    exact List.map_congr_left fun report _ => Text.lower_of_small report.edited.small
  rw [literals, editions, Change.ofReports, if_neg (by simp), List.zip_map']
  exact Result.mapM_map_eq_ok change_of reports

end EditedAuxdata

/-- Pieces of code and auxdatas that a bytecode embeds between them. -/
structure Arrangement where
  /-- The code before the first auxdata. -/
  front : Piece
  /-- The auxdatas, each with the code behind it. -/
  blocks : List (EditedAuxdata × Piece)

namespace Arrangement

/-- The bytecode of an arrangement, with a text for each auxdata. -/
def code (arrangement : Arrangement) (side : EditedAuxdata → Piece) : Code :=
  Code.marked arrangement.front.text ++
    arrangement.blocks.flatMap fun block => (side block.1).text ++ block.2.text

/-- The bytecode before the edit. -/
def unedited (arrangement : Arrangement) : Code := arrangement.code EditedAuxdata.literal

/-- The bytecode after the edit. -/
def edited (arrangement : Arrangement) : Code := arrangement.code EditedAuxdata.edited

/-- The auxdatas that are embedded. -/
def reports (arrangement : Arrangement) : List EditedAuxdata := arrangement.blocks.map Prod.fst

/-- The auxdatas of blocks from an index on, each with the index at which it begins. -/
def placesFrom (start : Nat) : List (EditedAuxdata × Piece) → List (EditedAuxdata × Nat)
  | [] => []
  | (report, code) :: rest =>
    (report, start) :: placesFrom (start + report.literal.text.length + code.text.length) rest

/-- The auxdatas that are embedded, each with the index at which it begins. -/
def embedded (arrangement : Arrangement) : List (EditedAuxdata × Nat) :=
  placesFrom (Code.marked arrangement.front.text).length arrangement.blocks

/-- An auxdata that stands around the first index of a run is embedded there, and the run begins
with its first change. -/
def TellsApart (arrangement : Arrangement) : Prop :=
  ∀ report ∈ arrangement.reports, ∀ begins last,
    Difference.MaximalRun arrangement.unedited arrangement.edited begins last →
    report.first ≤ begins →
    report.literal.text <+: arrangement.unedited.drop (begins - report.first) →
    (report, begins - report.first) ∈ arrangement.embedded

variable {blocks : List (EditedAuxdata × Piece)} {start : Nat} {place : EditedAuxdata × Nat}

/-- Blocks have places for their auxdatas, in order. -/
theorem map_fst_placesFrom (blocks : List (EditedAuxdata × Piece)) (start : Nat) :
    (placesFrom start blocks).map Prod.fst = blocks.map Prod.fst := by
  induction blocks generalizing start with
  | nil => rfl
  | cons block rest inductive_hypothesis =>
    rw [placesFrom, List.map_cons, List.map_cons, inductive_hypothesis]

/-- No block begins before the index from which blocks are placed. -/
theorem le_of_mem_placesFrom (member : place ∈ placesFrom start blocks) : start ≤ place.2 := by
  induction blocks generalizing start with
  | nil => contradiction
  | cons block rest inductive_hypothesis =>
    rcases List.mem_cons.mp member with rfl | behind
    · exact Nat.le_refl _
    · have later := inductive_hypothesis behind
      omega

/-- Blocks begin as the first of them does, at a byte or within one. -/
theorem parity_of_mem_placesFrom (member : place ∈ placesFrom start blocks) :
    place.2 % 2 = start % 2 := by
  induction blocks generalizing start with
  | nil => contradiction
  | cons block rest inductive_hypothesis =>
    have literal := block.1.literal.whole
    have code := block.2.whole
    rcases List.mem_cons.mp member with rfl | behind
    · rfl
    · have later := inductive_hypothesis behind
      omega

/-- A block ends before the next one begins. -/
theorem placesFrom_apart (blocks : List (EditedAuxdata × Piece)) (start : Nat) :
    (placesFrom start blocks).Pairwise fun place later =>
      place.2 + place.1.literal.text.length ≤ later.2 := by
  induction blocks generalizing start with
  | nil => exact List.Pairwise.nil
  | cons block rest inductive_hypothesis =>
    refine List.pairwise_cons.mpr ⟨fun later behind => ?_, inductive_hypothesis _⟩
    have begins := le_of_mem_placesFrom behind
    dsimp only
    omega

/-- The text of a block stands where its auxdata is placed. -/
theorem prefix_of_mem_placesFrom {side : EditedAuxdata → Piece}
    (lengths : ∀ report, (side report).text.length = report.literal.text.length) {front : Code}
    (member : place ∈ placesFrom front.length blocks) :
    (side place.1).text <+:
      (front ++ blocks.flatMap fun block => (side block.1).text ++ block.2.text).drop place.2 := by
  induction blocks generalizing front with
  | nil => contradiction
  | cons block rest inductive_hypothesis =>
    rcases List.mem_cons.mp member with rfl | behind
    · rw [List.drop_left, List.flatMap_cons, List.append_assoc]
      exact List.prefix_append _ _
    · have longer : (front ++ (side block.1).text ++ block.2.text).length =
          front.length + block.1.literal.text.length + block.2.text.length := by
        rw [List.length_append, List.length_append, lengths]
      rw [← longer] at behind
      have stands := inductive_hypothesis behind
      rwa [List.append_assoc, List.append_assoc, ← List.append_assoc (side block.1).text,
        ← List.flatMap_cons (f := fun block : EditedAuxdata × Piece =>
          (side block.1).text ++ block.2.text)] at stands

variable (arrangement : Arrangement)

/-- The first change of an embedded auxdata begins a run. -/
theorem exists_maximalRun (member : place ∈ arrangement.embedded) :
    ∃ last, Difference.MaximalRun arrangement.unedited arrangement.edited
      (place.2 + place.1.first) last := by
  have before : place.1.literal.text <+: arrangement.unedited.drop place.2 :=
    prefix_of_mem_placesFrom (fun _ => rfl) member
  have after : place.1.edited.text <+: arrangement.edited.drop place.2 :=
    prefix_of_mem_placesFrom EditedAuxdata.length member
  have length := place.1.length
  have differs_iff : ∀ index < place.1.literal.text.length,
      Difference.DiffersAt arrangement.unedited arrangement.edited (place.2 + index) ↔
        Difference.DiffersAt place.1.literal.text place.1.edited.text index := by
    intro index inside
    have inside_edited : index < place.1.edited.text.length := by omega
    have old := Code.getElem?_of_prefix_drop before inside
    have new := Code.getElem?_of_prefix_drop after inside_edited
    have old_length := before.length_le
    have new_length := after.length_le
    rw [List.length_drop] at old_length new_length
    rw [Difference.DiffersAt, Difference.DiffersAt, old, new]
    constructor
    · rintro ⟨-, -, other⟩
      exact ⟨inside, inside_edited, other⟩
    · rintro ⟨-, -, other⟩
      exact ⟨by omega, by omega, other⟩
  have firstAt := place.1.firstAt
  have positive := place.1.first_pos
  have inside := firstAt.differs.1
  -- A block keeps its first character, so the character before its first change is one of its own.
  apply Difference.exists_maximalRun
  · exact (differs_iff _ inside).mpr firstAt.differs
  · intro index next
    rw [show index = place.2 + (place.1.first - 1) by omega, differs_iff _ (by omega)]
    exact firstAt.least _ (by omega)

/-- Where a block embeds an auxdata, its place covers the text of the block. -/
structure Locates (reports : List EditedAuxdata) (row : String × AuxdataPosition)
    (place : EditedAuxdata × Nat) : Prop where
  /-- The id is that of a reported auxdata with the text of the block. -/
  reported : ∃ number report, row.1 = AuxdataPositions.idAt number ∧
    reports[number]? = some report ∧ report.literal.text = place.1.literal.text
  /-- The value is the text. -/
  value : row.2.value = Code.marked place.1.literal.text
  /-- The place does not begin before the code. -/
  nonneg : row.2.extent.Nonneg
  /-- The place begins where the block begins. -/
  first : row.2.extent.first = place.2
  /-- The place ends where the block ends. -/
  stop : row.2.extent.stop = place.2 + place.1.literal.text.length

/-- The runs that the embedded auxdatas are due. -/
def due : List (Change × Int) :=
  arrangement.embedded.map fun place => (place.1.change, ((place.2 + place.1.first : Nat) : Int))

/-- The bytecode of an arrangement has small letters, with either text of its auxdatas. -/
theorem small_code (side : EditedAuxdata → Piece) : Text.Small (arrangement.code side) := by
  refine (Code.small_marked arrangement.front.small).append fun c member => ?_
  obtain ⟨block, -, inside⟩ := List.mem_flatMap.mp member
  exact ((side block.1).small.append block.2.small) c inside

/-- The runs that the embedded auxdatas are due ascend. -/
theorem due_ascend : (arrangement.due.map Prod.snd).Pairwise (· < ·) := by
  rw [due, List.map_map, List.pairwise_map]
  refine (placesFrom_apart arrangement.blocks _).imp ?_
  intro place later apart
  have inside := place.1.firstAt.differs.1
  change ((place.2 + place.1.first : Nat) : Int) < ((later.2 + later.1.first : Nat) : Int)
  omega

/-- What an embedded auxdata is due is a run. -/
theorem begin_of_mem_due {index : Int} (member : index ∈ arrangement.due.map Prod.snd) :
    index ∈ (Difference.textRuns arrangement.unedited arrangement.edited).map Prod.fst := by
  rw [due, List.map_map] at member
  obtain ⟨place, embedded, rfl⟩ := List.mem_map.mp member
  obtain ⟨last, maximal⟩ := arrangement.exists_maximalRun embedded
  exact List.mem_map.mpr ⟨_, (Difference.mem_textRuns_iff _ _ _ _).mpr maximal, rfl⟩

/-- An embedded auxdata stands around the run that it is due. -/
theorem occursAt_of_mem_due {pair : Change × Int} (member : pair ∈ arrangement.due) :
    pair.1.occursAt arrangement.unedited pair.2 = true := by
  obtain ⟨place, embedded, rfl⟩ := List.mem_map.mp member
  have stands : place.1.literal.text <+: arrangement.unedited.drop place.2 :=
    prefix_of_mem_placesFrom (fun _ => rfl) embedded
  apply (Change.occursAt_iff place.1.change_first).mpr
  rw [Nat.add_sub_cancel, place.1.change_literal]
  exact ⟨Nat.le_add_left _ _, stands⟩

/-- The embedded auxdatas are those that are reported, in another order. -/
theorem perm_due {reports : List EditedAuxdata} (listing : arrangement.reports.Perm reports) :
    ((List.range reports.length).map ((reports.map EditedAuxdata.change)[·]?)).Perm
      (arrangement.due.map fun pair => some pair.1) := by
  have listed : (List.range reports.length).map ((reports.map EditedAuxdata.change)[·]?) =
      reports.map fun report => some report.change := by
    apply List.ext_getElem?
    intro number
    by_cases inside : number < reports.length <;> simp [inside]
  have embedded : (arrangement.due.map fun pair => some pair.1) =
      arrangement.reports.map fun report => some report.change := by
    rw [Arrangement.reports, ← map_fst_placesFrom arrangement.blocks, due, List.map_map,
      List.map_map]
    rfl
  rw [listed, embedded]
  exact (listing.map _).symm

/-- In a text that tells its auxdatas apart, an auxdata that stands around the first index of a run
is embedded there. -/
theorem TellsApart.embedded {arrangement : Arrangement} (apart : arrangement.TellsApart)
    {report : EditedAuxdata}
    (reported : report ∈ arrangement.reports) {run : Int × Int}
    (member : run ∈ Difference.textRuns arrangement.unedited arrangement.edited)
    (occurs : report.change.occursAt arrangement.unedited run.1 = true) :
    ∃ start, run.1 = ((start + report.first : Nat) : Int) ∧
      (report, start) ∈ arrangement.embedded := by
  obtain ⟨begins, last, rfl, maximal⟩ := Difference.exists_of_mem_textRuns member
  obtain ⟨behind, stands⟩ := (Change.occursAt_iff report.change_first).mp occurs
  rw [report.change_literal] at stands
  refine ⟨begins - report.first, ?_, apart report reported begins last maximal behind stands⟩
  rw [Nat.sub_add_cancel behind]

instance : Decidable arrangement.TellsApart :=
  decidable_of_iff (∀ report ∈ arrangement.reports,
      ∀ run ∈ Difference.textRuns arrangement.unedited arrangement.edited,
        report.change.occursAt arrangement.unedited run.1 = true →
        (report, (run.1 - report.first).toNat) ∈ arrangement.embedded) <| by
    constructor
    · intro checked report reported begins last maximal behind stands
      rw [← report.change_literal] at stands
      have found := checked report reported (begins, last)
        ((Difference.mem_textRuns_iff _ _ _ _).mpr maximal)
        ((Change.occursAt_iff report.change_first).mpr ⟨behind, stands⟩)
      rwa [← Int.natCast_sub behind, Int.toNat_natCast] at found
    · intro apart report reported run member occurs
      obtain ⟨start, begins, embedded⟩ := apart.embedded reported member occurs
      rwa [begins, Int.natCast_add, Int.add_sub_cancel, Int.toNat_natCast]

/-- Where the text tells its auxdatas apart, the auxdatas that are reported are due the runs that
the embedded ones are, and no others. -/
theorem due_holds (apart : arrangement.TellsApart) {reports : List EditedAuxdata}
    (listing : arrangement.reports.Perm reports) :
    AuxdataPositions.Due arrangement.unedited (reports.map EditedAuxdata.change) []
      (Difference.textRuns arrangement.unedited arrangement.edited) (List.range reports.length)
      arrangement.due where
  ascend := List.pairwise_map.mpr (Difference.textRuns_ascend _ _)
  begins := by
    have runs := Difference.textRuns_ascend arrangement.unedited arrangement.edited
    have nodup := arrangement.due_ascend.imp fun {one other : Int} (less : one < other) => less.ne
    -- Both lists of indexes ascend, so members of the other list stand in it in the same order.
    exact List.sublist_of_subperm_of_pairwise
      (List.subperm_of_subset nodup fun _ => arrangement.begin_of_mem_due)
      arrangement.due_ascend (List.pairwise_map.mpr runs)
  occurs := fun _ => arrangement.occursAt_of_mem_due
  only := by
    intro run member change among occurs
    obtain ⟨report, reported, rfl⟩ := List.mem_map.mp among
    obtain ⟨start, begins, embedded⟩ :=
      apart.embedded (listing.mem_iff.mpr reported) member occurs
    exact List.mem_map.mpr ⟨_, embedded, by rw [begins]⟩
  nodup := List.nodup_range
  untaken := by simp
  perm := arrangement.perm_due listing

/-- An assignment of what an embedded auxdata is due locates its block. -/
theorem locates_of_due {reports : List EditedAuxdata} {place : EditedAuxdata × Nat}
    (embedded : place ∈ arrangement.embedded) {assignment : AuxdataPositions.Assignment}
    (listed : (reports.map EditedAuxdata.change)[assignment.number]? = some assignment.change)
    (due : (assignment.change, assignment.index) =
      (place.1.change, ((place.2 + place.1.first : Nat) : Int))) :
    Locates reports assignment.row place := by
  obtain ⟨change_eq, index_eq⟩ := Prod.mk.inj due
  rw [List.getElem?_map, Option.map_eq_some_iff] at listed
  obtain ⟨report, reported, same⟩ := listed
  have text : report.literal.text = place.1.literal.text := by
    rw [← report.change_literal, same, change_eq, place.1.change_literal]
  have value : assignment.row.2.value = Code.marked place.1.literal.text := by
    rw [← place.1.change_literal, ← change_eq]
    rfl
  have offset : assignment.row.2.offset = ((place.2 : Int) - 2) / 2 := by
    change (assignment.index - assignment.change.first - 2) / 2 = _
    rw [index_eq, change_eq, place.1.change_first]
    omega
  have whole : Code.WholeBytes place.2 place.1.literal.text.length := by
    have front := arrangement.front.whole
    have marked : (Code.marked arrangement.front.text).length =
        arrangement.front.text.length + 2 := rfl
    have begins := le_of_mem_placesFrom embedded
    have parity := parity_of_mem_placesFrom embedded
    rw [marked] at begins parity
    exact ⟨by omega, by omega, place.1.literal.whole⟩
  obtain ⟨nonneg, first, stop⟩ := AuxdataPosition.extent_of_wholeBytes value offset whole
  exact ⟨⟨assignment.number, report, rfl, reported, text⟩, value, nonneg, first, stop⟩

/-- Auxdatas that are embedded in any order are located where they are embedded, each once. -/
theorem find_locates (apart : arrangement.TellsApart) {reports : List EditedAuxdata}
    (listing : arrangement.reports.Perm reports) :
    ∃ positions, AuxdataPositions.find arrangement.unedited arrangement.edited
        (reports.map (·.literal.text)) (reports.map (·.edited.text)) = .ok positions ∧
      (positions.map Prod.fst).Perm ((List.range reports.length).map AuxdataPositions.idAt) ∧
      List.Forall₂ (Locates reports) positions arrangement.embedded := by
  have made := EditedAuxdata.ofReports_eq reports
  obtain ⟨positions, found⟩ : ∃ positions, AuxdataPositions.find arrangement.unedited
      arrangement.edited (reports.map (·.literal.text)) (reports.map (·.edited.text)) =
        .ok positions := by
    rw [AuxdataPositions.find, made]
    exact ⟨_, rfl⟩
  obtain ⟨changes, given, made_again, assigns, rfl⟩ := AuxdataPositions.find_assigns found
  obtain rfl := Except.ok.inj (made.symm.trans made_again)
  have small := arrangement.small_code EditedAuxdata.literal
  have small_edited := arrangement.small_code EditedAuxdata.edited
  rw [unedited, Text.lower_of_small small, edited, Text.lower_of_small small_edited] at assigns
  obtain ⟨pairs, numbers⟩ := assigns.given_eq (arrangement.due_holds apart listing)
  refine ⟨_, found, ?_, ?_⟩
  · have ids := numbers.map AuxdataPositions.idAt
    rw [List.map_map] at ids ⊢
    exact ids
  · rw [due, ← List.forall₂_eq_eq_eq] at pairs
    have paired := List.forall₂_map_left_iff.mp (List.forall₂_map_right_iff.mp pairs)
    obtain ⟨lengths, due⟩ := List.forall₂_iff_zip.mp paired
    rw [List.forall₂_map_left_iff]
    refine List.forall₂_iff_zip.mpr ⟨lengths, fun {assignment place} member => ?_⟩
    obtain ⟨given_member, embedded⟩ := List.of_mem_zip member
    have listed := (assigns.occurs assignment given_member).1
    exact arrangement.locates_of_due embedded listed (due member)

/-- An auxdata that changes in two runs. -/
def sampleLong : EditedAuxdata where
  literal := ⟨"aa1122".toList, by decide +kernel, by decide +kernel⟩
  edited := ⟨"aa3142".toList, by decide +kernel, by decide +kernel⟩
  length := by decide +kernel
  differs := by decide +kernel
  head := by decide +kernel

/-- An auxdata that changes in one run. -/
def sampleShort : EditedAuxdata where
  literal := ⟨"bb55".toList, by decide +kernel, by decide +kernel⟩
  edited := ⟨"bb56".toList, by decide +kernel, by decide +kernel⟩
  length := by decide +kernel
  differs := by decide +kernel
  head := by decide +kernel

/-- A bytecode that embeds one auxdata twice, another between, and a copy of the first behind. -/
def sampleArrangement : Arrangement where
  front := ⟨"60aa".toList, by decide +kernel, by decide +kernel⟩
  blocks := [(sampleLong, ⟨[], by decide +kernel, by decide +kernel⟩),
    (sampleShort, ⟨"60".toList, by decide +kernel, by decide +kernel⟩),
    (sampleLong, ⟨"00aa1122".toList, by decide +kernel, by decide +kernel⟩)]

/-- Three auxdatas are located though they are reported in another order. -/
theorem find_locates_sample :
    sampleArrangement.TellsApart ∧
      sampleArrangement.reports.Perm [sampleShort, sampleLong, sampleLong] ∧
      ∃ positions, AuxdataPositions.find sampleArrangement.unedited sampleArrangement.edited
          ([sampleShort, sampleLong, sampleLong].map (·.literal.text))
          ([sampleShort, sampleLong, sampleLong].map (·.edited.text)) = .ok positions ∧
        (positions.map Prod.fst).Perm ((List.range 3).map AuxdataPositions.idAt) ∧
        List.Forall₂ (Locates [sampleShort, sampleLong, sampleLong]) positions
          sampleArrangement.embedded :=
  have apart : sampleArrangement.TellsApart := by decide +kernel
  have listing : sampleArrangement.reports.Perm [sampleShort, sampleLong, sampleLong] := by
    decide +kernel
  ⟨apart, listing, sampleArrangement.find_locates apart listing⟩

end Arrangement

end Attest
