import Attest.Proofs.Auxdata.Contents
import Attest.Proofs.Match.Runtime

/-!
# Malformed slots

A slot of a library that holds no placeholder ends a match in a failure and not in a difference, but
only if the match comes to it: slots are filled one after another, and an earlier one that the
deployed code cannot fill ends the match in a difference first. So a failure tells which slot is the
first malformed one (`placeholder_raised_iff`), a template without malformed slots never gives one,
and a malformed slot behind a slot that cannot be filled goes unnoticed
(`malformed_slot_unnoticed`).
-/
namespace Attest

namespace Code

/-- A code that can fill sites can fill fewer. -/
theorem Fills.of_append {real : Code} {sites more : List Site}
    (fills : real.Fills (sites ++ more)) :
    real.Fills sites where
  reaches := fun site member => fills.reaches site (by simp [member])
  oneText := fun one member other present =>
    fills.oneText one (by simp [member]) other (by simp [present])

end Code

/-- Whether a slot of a library holds a placeholder of the library. -/
def LibrarySlot.Held (slot : LibrarySlot) (template : Code) : Prop :=
  template.textIn slot.extent ∈ Placeholder.accepted slot.name

instance (slot : LibrarySlot) (template : Code) : Decidable (slot.Held template) :=
  inferInstanceAs (Decidable (_ ∈ _))

/-- Where the filling of slots comes to an end: the slots before one, which hold placeholders and
can be filled, and the one. -/
structure StopsAt (template real : Code) (slots before : List LibrarySlot) (slot : LibrarySlot) :
    Prop where
  /-- The slots begin with those before and the one. -/
  parts : ∃ after, slots = before ++ slot :: after
  /-- The slots before hold placeholders. -/
  held : ∀ other ∈ before, other.Held template
  /-- The deployed code can fill the slots before. -/
  fills : real.Fills (before.map LibrarySlot.site)

/-- A malformed slot that the filling comes to is the one at which it ends. -/
theorem StopsAt.unique {template real : Code} {slots : List LibrarySlot}
    {before before_other : List LibrarySlot} {slot other : LibrarySlot}
    (stops : StopsAt template real slots before slot)
    (stops_other : StopsAt template real slots before_other other) (broken : ¬ slot.Held template)
    (ends : ¬ other.Held template ∨
      ¬ real.Fills ((before_other ++ [other]).map LibrarySlot.site)) :
    before = before_other ∧ slot = other := by
  obtain ⟨after, parts⟩ := stops.parts
  obtain ⟨after_other, parts_other⟩ := stops_other.parts
  rcases List.append_eq_append_iff.mp (parts.symm.trans parts_other) with
    ⟨more, rfl, rest⟩ | ⟨more, rfl, rest⟩
  · cases more with
    | nil => exact ⟨(List.append_nil before).symm, (List.cons.inj rest).1⟩
    | cons first more =>
      -- The malformed slot would be one of those that hold placeholders.
      obtain ⟨rfl, -⟩ := List.cons.inj rest
      exact absurd (stops_other.held slot (by simp)) broken
  · cases more with
    | nil => exact ⟨List.append_nil before_other, (List.cons.inj rest).1.symm⟩
    | cons first more =>
      obtain ⟨rfl, -⟩ := List.cons.inj rest
      have parted : before_other ++ other :: more = before_other ++ [other] ++ more := by simp
      rcases ends with malformed | unfilled
      · exact absurd (stops.held other (by simp)) malformed
      · have fills := stops.fills
        rw [parted, List.map_append] at fills
        exact absurd fills.of_append unfilled

/-- Whether the filling of slots comes to one that holds no placeholder. -/
def ComesToMalformed (template real : Code) (slots : List LibrarySlot) : Prop :=
  ∃ before slot, StopsAt template real slots before slot ∧ ¬ slot.Held template

/-- Of two templates whose slots hold placeholders alike, if the filling of one comes to a malformed
slot then so does that of the other. -/
theorem ComesToMalformed.of_held_iff {template code real : Code} {slots : List LibrarySlot}
    (held_iff : ∀ slot ∈ slots, slot.Held template ↔ slot.Held code)
    (comes : ComesToMalformed template real slots) : ComesToMalformed code real slots := by
  obtain ⟨before, slot, ⟨⟨after, parts⟩, held, fills⟩, broken⟩ := comes
  refine ⟨before, slot, ⟨⟨after, parts⟩, fun other member => ?_, fills⟩, fun holds => broken ?_⟩
  · exact (held_iff other (by simp [parts, member])).mp (held other member)
  · exact (held_iff slot (by simp [parts])).mpr holds

namespace Extraction

variable {real template : Code} {slots : List LibrarySlot}

/-- A slot without a placeholder is a failure of its own. -/
theorem fillLibrary_malformed (real : Code) {slot : LibrarySlot} {done : Extraction}
    (broken : ¬ slot.Held done.code) : fillLibrary real slot done =
      .error (.placeholder ⟨slot.name, slot.start, done.code.textIn slot.extent⟩) := by
  rw [fillLibrary]
  exact if_neg fun accepted => broken (List.contains_iff_mem.mp accepted)

/-- What filling slots has come to: they held placeholders of the template, which is unchanged
outside them, and the deployed code reaches all of them and is recorded for each. -/
structure FilledSlots (template real : Code) (before : List LibrarySlot) (done : Extraction) :
    Prop where
  /-- The code is that of the template outside the slots. -/
  unchanged : done.code.UnchangedOutside (before.map LibrarySlot.extent) template
  /-- The slots held placeholders. -/
  held : ∀ slot ∈ before, slot.Held template
  /-- The deployed code reaches the slots. -/
  reaches : ∀ slot ∈ before, slot.extent.stop ≤ real.length
  /-- The deployed text of each slot is recorded. -/
  recorded : Recorded real done.values.libraries (before.map LibrarySlot.site)

namespace FilledSlots

variable {before : List LibrarySlot} {slot : LibrarySlot} {done : Extraction}

/-- No slots are filled in the template itself. -/
theorem start (template real : Code) : FilledSlots template real [] { code := template } :=
  ⟨fun _ _ => rfl, by simp, by simp, .start real⟩

/-- The deployed code can fill the slots that it has filled. -/
theorem fills (filled : FilledSlots template real before done) :
    real.Fills (before.map LibrarySlot.site) := by
  refine ⟨fun site member => ?_, filled.recorded.oneText⟩
  obtain ⟨slot, earlier, rfl⟩ := List.mem_map.mp member
  exact filled.reaches slot earlier

/-- A slot that still holds the template's placeholder is filled, or the deployed code cannot fill
it together with those before. -/
theorem step (filled : FilledSlots template real before done) (bears : real.Marked)
    (regular : slot.extent.Regular)
    (same : done.code.textIn slot.extent = template.textIn slot.extent)
    (holds : slot.Held template) :
    (∃ next, fillLibrary real slot done = .ok next ∧
      FilledSlots template real (before ++ [slot]) next) ∨
    ∃ error, fillLibrary real slot done = .error (.region error) ∧
      ¬ real.Fills ((before ++ [slot]).map LibrarySlot.site) := by
  have accepted : done.code.textIn slot.extent ∈ Placeholder.accepted slot.name := same ▸ holds
  rcases fillLibrary_step bears regular accepted with
    ⟨next, stepped, ⟨ends, free⟩, -, row⟩ | ⟨failure, failed, ⟨error, rfl⟩, unready⟩
  · refine .inl ⟨next, stepped, ?_, ?_, ?_, ?_⟩
    · exact unchangedOutside_of_fillLibrary bears regular filled.unchanged stepped
    · exact List.forall_mem_append.mpr ⟨filled.held, List.forall_mem_singleton.mpr holds⟩
    · exact List.forall_mem_append.mpr ⟨filled.reaches, List.forall_mem_singleton.mpr ends⟩
    · rw [row, List.map_append]
      exact filled.recorded.put slot.site free
  · refine .inr ⟨error, failed, fun more => ?_⟩
    rw [List.map_append] at more
    exact unready ⟨more.reaches slot.site (by simp), filled.recorded.conflict?_eq_none more.oneText⟩

end FilledSlots

/-- Slots that are apart are all filled, or the filling ends at one: at one without a placeholder
with a failure that names it, or at one that cannot be filled with a region that is missing. -/
theorem fillLibraries_stops (template : Code) (bears : real.Marked)
    (counts : ∀ slot ∈ slots, slot.extent.Nonneg)
    (apart : slots.Pairwise fun one other => one.extent.Apart other.extent) :
    (∃ after, fillLibraries real { code := template } slots = .ok after ∧
      (∀ slot ∈ slots, slot.Held template) ∧ real.Fills (slots.map LibrarySlot.site)) ∨
    ∃ failure, fillLibraries real { code := template } slots = .error failure ∧
      ∃ before slot, StopsAt template real slots before slot ∧
        ((¬ slot.Held template ∧
            failure = .placeholder ⟨slot.name, slot.start, template.textIn slot.extent⟩) ∨
          (slot.Held template ∧ ¬ real.Fills ((before ++ [slot]).map LibrarySlot.site) ∧
            ∃ error, failure = .region error)) := by
  rw [fillLibraries_eq_foldlM]
  have run := Result.foldlM_decides (fun done slot => fillLibrary real slot done) slots
    { code := template } (FilledSlots template real)
    (fun failure => ∃ before slot, StopsAt template real slots before slot ∧
      ((¬ slot.Held template ∧
          failure = .placeholder ⟨slot.name, slot.start, template.textIn slot.extent⟩) ∨
        (slot.Held template ∧ ¬ real.Fills ((before ++ [slot]).map LibrarySlot.site) ∧
          ∃ error, failure = .region error)))
    (.start template real) ?_
  · rcases run with ⟨after, done, filled⟩ | refused
    · exact .inl ⟨after, done, filled.held, filled.fills⟩
    · exact .inr refused
  intro before slot after done parts filled
  have stops : StopsAt template real slots before slot :=
    ⟨⟨after, parts⟩, filled.held, filled.fills⟩
  have regular : ∀ other ∈ slots, other.extent.Regular :=
    fun other member => (counts other member).regular
  rw [parts] at apart regular
  have same := filled.unchanged.textIn_slot (regular slot (by simp))
    (fun other earlier => regular other (by simp [earlier]))
    fun other earlier => ((List.pairwise_append.mp apart).2.2 other earlier slot (by simp)).symm
  by_cases holds : slot.Held template
  · rcases filled.step bears (regular slot (by simp)) same holds with
      ⟨next, stepped, filled_more⟩ | ⟨error, failed, unfilled⟩
    · exact .inl ⟨next, stepped, filled_more⟩
    · exact .inr ⟨_, failed, before, slot, stops, .inr ⟨holds, unfilled, error, rfl⟩⟩
  · have broken : ¬ slot.Held done.code := by rwa [LibrarySlot.Held, same]
    have failed := fillLibrary_malformed real broken
    rw [same] at failed
    exact .inr ⟨_, failed, before, slot, stops, .inl ⟨holds, rfl⟩⟩

/-- Filling slots that are apart fails for want of a placeholder exactly if it comes to a malformed
slot, and says then which. -/
theorem fillLibraries_placeholder_iff (template : Code) (bears : real.Marked)
    (counts : ∀ slot ∈ slots, slot.extent.Nonneg)
    (apart : slots.Pairwise fun one other => one.extent.Apart other.extent)
    (error : PlaceholderError) :
    fillLibraries real { code := template } slots = .error (.placeholder error) ↔
      ∃ before slot, StopsAt template real slots before slot ∧ ¬ slot.Held template ∧
        error = ⟨slot.name, slot.start, template.textIn slot.extent⟩ := by
  have run := fillLibraries_stops template bears counts apart
  constructor
  · intro failed
    rw [failed] at run
    rcases run with ⟨_, filled, -⟩ |
      ⟨_, ⟨rfl⟩, before, slot, stops, ⟨broken, named⟩ | ⟨-, -, _, region⟩⟩
    · contradiction
    · exact ⟨before, slot, stops, broken, Failure.placeholder.inj named⟩
    · contradiction
  · rintro ⟨before, slot, stops, broken, rfl⟩
    rcases run with ⟨_, -, held, -⟩ | ⟨failure, failed, earlier, other, stops_other, ended⟩
    · obtain ⟨after, parts⟩ := stops.parts
      exact absurd (held slot (by simp [parts])) broken
    · obtain ⟨rfl, rfl⟩ := stops.unique stops_other broken
        (ended.imp And.left fun unfilled => unfilled.2.1)
      rcases ended with ⟨-, rfl⟩ | ⟨held, -⟩
      · exact failed
      · exact absurd held broken

/-- Filling slots of which one is malformed never ends well: it fails for want of a placeholder or
for want of a region. -/
theorem fillLibraries_of_malformed (bears : real.Marked)
    (counts : ∀ slot ∈ slots, slot.extent.Nonneg)
    (apart : slots.Pairwise fun one other => one.extent.Apart other.extent)
    (broken : ∃ slot ∈ slots, ¬ slot.Held template) :
    (∃ error, fillLibraries real { code := template } slots = .error (.placeholder error)) ∨
      ∃ error, fillLibraries real { code := template } slots = .error (.region error) := by
  rcases fillLibraries_stops template bears counts apart with
    ⟨_, -, held, -⟩ | ⟨_, failed, _, _, -, ⟨-, rfl⟩ | ⟨-, -, error, rfl⟩⟩
  · obtain ⟨slot, member, malformed⟩ := broken
    exact absurd (held slot member) malformed
  · exact .inl ⟨_, failed⟩
  · exact .inr ⟨error, failed⟩

end Extraction

/-- A failure that is not for want of a placeholder. -/
def Failure.IsElsewhere : Failure → Prop
  | .placeholder _ => False
  | _ => True

instance (failure : Failure) : Decidable failure.IsElsewhere :=
  match failure with
  | .placeholder _ => .isFalse id
  | .region _ | .fault _ | .argument _ | .usage _ | .arguments _ | .auxdata _ | .compilation _
  | .chain _ | .verification _ | .network _ | .tool _ _ | .unanswered => .isTrue trivial

/-- A failure of reading is elsewhere. -/
theorem Failure.IsReading.isElsewhere {failure : Failure} (reads : failure.IsReading) :
    failure.IsElsewhere := by
  cases failure with
  | placeholder error => exact reads
  | _ => exact trivial

namespace Contents

/-- The entries that newer Vyper compilers list are read or laid out wrongly. -/
theorem vyperSizes_reads (parts : List Cbor) :
    Result.FailsOnly Failure.IsReading (vyperSizes parts) := by
  unfold vyperSizes
  split
  · split
    · exact Result.failsOnly_ok _
    · exact Result.failsOnly_error trivial
  · exact Result.failsOnly_error trivial

/-- What a Vyper compiler wrote fails for reasons of reading. -/
theorem ofVyper_reads (style : AuxdataStyle) (item : Cbor) :
    Result.FailsOnly Failure.IsReading (ofVyper style item) := by
  unfold ofVyper
  split
  · split
    · exact Result.failsOnly_error trivial
    · rename_i hash _ _ _ _ _
      have hashed : Result.FailsOnly Failure.IsReading (integrity hash) := by
        cases hash with
        | bytes value => exact Result.failsOnly_ok _
        | real value => exact Result.failsOnly_ok _
        | _ => exact Result.failsOnly_error trivial
      exact hashed.bind fun _ => (vyperSizes_reads _).bind fun _ => Result.failsOnly_ok _
    · exact vyperSizes_reads _
  · split
    · exact Result.failsOnly_ok _
    · exact Result.failsOnly_error trivial

/-- The reading of an auxdata fails for reasons of reading. -/
theorem decode_reads (code : Code) (style : AuxdataStyle) :
    Result.FailsOnly Failure.IsReading (decode code style) := by
  by_cases filled : code = []
  · rw [filled]
    exact Result.failsOnly_error trivial
  rw [decode_eq style filled]
  split
  · exact Result.failsOnly_error trivial
  split
  · exact Result.failsOnly_error trivial
  rename_i item _
  unfold ofItem
  split
  · cases item with
    | map entries =>
      intro failure failed
      rcases ofEntries_decides entries [] with ⟨-, contents, read⟩ | ⟨-, fault, read⟩
      · exact absurd (read.symm.trans failed) nofun
      · obtain rfl := Except.error.inj (read.symm.trans failed)
        exact trivial
    | _ => exact Result.failsOnly_error trivial
  · exact ofVyper_reads style item

end Contents

namespace Match

variable {template real : Code} {libraries : Listing LibrarySlot} {positions : AuxdataPositions}
  {immutables : Listing ImmutableSlot} {style : AuxdataStyle}

/-- Going through a listing fails with its fault. -/
theorem settle_elsewhere {α β : Type} (listing : Listing α) (result : β) :
    Result.FailsOnly Failure.IsElsewhere (listing.settle result) := by
  rw [Listing.settle]
  split
  · exact Result.failsOnly_ok _
  · exact Result.failsOnly_error trivial

/-- Immutables are not filled for other reasons than a placeholder. -/
theorem immutables_elsewhere (template real : Code) (slots : Listing ImmutableSlot)
    (style : AuxdataStyle) :
    Result.FailsOnly Failure.IsElsewhere (Extraction.immutables template real slots style) := by
  refine Result.FailsOnly.bind ?_ fun after => settle_elsewhere slots after
  rw [Extraction.fillImmutables_eq_foldlM]
  refine Result.FailsOnly.foldlM (fun done slot failure failed => ?_) _ _
  obtain ⟨error, rfl⟩ := Extraction.fillImmutable_eq_error failed
  exact trivial

/-- Auxdatas are not taken over for other reasons than a placeholder. -/
theorem auxdatas_elsewhere (template real : Code) (places : AuxdataPositions) :
    Result.FailsOnly Failure.IsElsewhere (Extraction.auxdatas template real places) := by
  rw [Extraction.auxdatas, Extraction.fillAuxdatas_eq_foldlM]
  refine Result.FailsOnly.foldlM (fun done place failure failed => ?_) _ _
  obtain ⟨error, rfl⟩ := Extraction.fillAuxdata_eq_error failed
  exact trivial

/-- Proving the metadata fails for reasons of reading. -/
theorem allProve_reads (style : AuxdataStyle) (positions : AuxdataPositions) :
    Result.FailsOnly Failure.IsReading (allProve style positions) := by
  induction positions with
  | nil => exact Result.failsOnly_ok true
  | cons place rest inductive_hypothesis =>
    rw [allProve]
    refine Result.FailsOnly.bind ?_ fun proves => ?_
    · unfold provesMetadata
      split
      · exact Result.failsOnly_ok _
      · exact Result.failsOnly_ok _
      · rename_i failure _ decoded
        exact Result.failsOnly_error (Contents.decode_reads _ _ failure decoded)
    · split
      · exact inductive_hypothesis
      · exact Result.failsOnly_ok _

/-- A comparison fails for other reasons than a placeholder. -/
theorem compare_elsewhere (kind : CodeKind) (found : Match) (real : Code)
    (positions : AuxdataPositions) (style : AuxdataStyle) :
    Result.FailsOnly Failure.IsElsewhere (compare kind found real positions style) := by
  have proven : Result.FailsOnly Failure.IsElsewhere (provenStatus style positions) := by
    unfold provenStatus
    split
    · exact Result.failsOnly_ok _
    · refine Result.FailsOnly.bind ?_ fun proves => ?_
      · exact (allProve_reads style positions).mono fun _ => Failure.IsReading.isElsewhere
      · split <;> exact Result.failsOnly_ok _
  unfold compare
  split
  · exact proven.bind fun _ => Result.failsOnly_ok _
  · split
    · exact Result.failsOnly_ok _
    · refine (auxdatas_elsewhere _ _ _).bind fun auxdatas => ?_
      split <;> exact Result.failsOnly_ok _

/-- Taking arguments fails for other reasons than a placeholder. -/
theorem takeArguments_elsewhere (found : Match) (real : Code) (interface : Json) :
    Result.FailsOnly Failure.IsElsewhere (takeArguments found real interface) := by
  unfold takeArguments
  split
  · refine Result.FailsOnly.bind ?_ fun _ => Result.failsOnly_ok _
    exact (Extraction.constructorArguments_reads _ _ _).mono fun _ => Failure.IsReading.isElsewhere
  · exact Result.failsOnly_ok _

/-- What is left of failures when a missing part makes a difference. -/
theorem orDiffers_elsewhere {result : Except Failure Match}
    (fails : Result.FailsOnly Failure.IsElsewhere result) :
    Result.FailsOnly Failure.IsElsewhere (orDiffers template result) := by
  unfold orDiffers
  split
  · exact Result.failsOnly_ok _
  · exact fails

/-- Where the slots of libraries are filled, a match fails for other reasons than a placeholder. -/
theorem ofCode_elsewhere {after : Extraction} (kind : CodeKind) (positions : AuxdataPositions)
    (immutables : Listing ImmutableSlot) (style : AuxdataStyle) (interface : Json)
    (filled : Extraction.fillLibraries real.normalize { code := template } libraries.entries =
      .ok after) :
    Result.FailsOnly Failure.IsElsewhere
      (ofCode kind template real libraries positions immutables style interface) := by
  refine orDiffers_elsewhere (Result.FailsOnly.bind ?_ fun found => ?_)
  · refine Result.FailsOnly.bind ?_ fun addresses => ?_
    · rw [Extraction.libraries, filled]
      exact settle_elsewhere libraries after
    · exact (immutables_elsewhere _ _ _ _).bind fun _ => Result.failsOnly_ok _
  · refine (compare_elsewhere _ _ _ _ _).bind fun found => ?_
    cases kind with
    | creation => exact takeArguments_elsewhere _ _ _
    | runtime => exact Result.failsOnly_ok _

/-- Where the slots of libraries are not filled, this ends the match. -/
theorem ofCode_of_unfilled {failure : Failure} (kind : CodeKind) (positions : AuxdataPositions)
    (immutables : Listing ImmutableSlot) (style : AuxdataStyle) (interface : Json)
    (failed : Extraction.fillLibraries real.normalize { code := template } libraries.entries =
      .error failure) :
    ofCode kind template real libraries positions immutables style interface =
      orDiffers template.normalize (.error failure) := by
  simp only [ofCode, linked, Extraction.libraries, failed]
  rfl

/-- Whether a match ends for want of a placeholder. -/
def RaisesPlaceholder (result : Except Failure Match) : Prop :=
  ∃ error, result = .error (.placeholder error)

/-- Whether a match comes out as a difference. -/
def Differs (result : Except Failure Match) : Prop :=
  ∃ found, result = .ok found ∧ found.status = .differs

instance (result : Except Failure Match) : Decidable (RaisesPlaceholder result) :=
  match result with
  | .ok _ => .isFalse fun ⟨_, raised⟩ => nomatch raised
  | .error failure =>
    decidable_of_iff (¬ failure.IsElsewhere) <| by
      cases failure <;> simp [RaisesPlaceholder, Failure.IsElsewhere]

instance (result : Except Failure Match) : Decidable (Differs result) :=
  match result with
  | .ok found =>
    decidable_of_iff (found.status = .differs) ⟨fun differs => ⟨found, rfl, differs⟩, by
      rintro ⟨other, same, differs⟩
      exact Except.ok.inj same ▸ differs⟩
  | .error _ => .isFalse fun ⟨_, failed, _⟩ => nomatch failed

/-- Adding to a match changes nothing in how it ends. -/
theorem ends_map (result : Except Failure Match) {change : Match → Match}
    (keeps : ∀ found, (change found).status = found.status) :
    (RaisesPlaceholder (result.map change) ↔ RaisesPlaceholder result) ∧
      (Differs result → Differs (result.map change)) := by
  cases result with
  | error failure => exact ⟨Iff.rfl, fun ⟨_, failed, _⟩ => nomatch failed⟩
  | ok found =>
    refine ⟨⟨fun ⟨_, raised⟩ => (nomatch raised), fun ⟨_, raised⟩ => (nomatch raised)⟩, ?_⟩
    rintro ⟨other, same, differs⟩
    obtain rfl := Except.ok.inj same
    exact ⟨change found, rfl, (keeps found).trans differs⟩

/-- A match ends for want of a placeholder exactly if it comes to a malformed slot, and with a
malformed slot to which it does not come it is a difference. -/
theorem ofCode_malformed (kind : CodeKind) (template real : Code) (positions : AuxdataPositions)
    (immutables : Listing ImmutableSlot) (style : AuxdataStyle) (interface : Json)
    (counts : ∀ slot ∈ libraries.entries, slot.extent.Nonneg)
    (apart : libraries.entries.Pairwise fun one other => one.extent.Apart other.extent) :
    (RaisesPlaceholder
        (ofCode kind template real libraries positions immutables style interface) ↔
      ComesToMalformed template real.normalize libraries.entries) ∧
    ((∃ slot ∈ libraries.entries, ¬ slot.Held template) →
      ¬ ComesToMalformed template real.normalize libraries.entries →
      Differs (ofCode kind template real libraries positions immutables style interface)) := by
  have bears := Code.marked_normalize real
  have raised_iff := Extraction.fillLibraries_placeholder_iff template bears counts apart
  refine ⟨⟨?_, ?_⟩, fun broken unnoticed => ?_⟩
  · rintro ⟨error, raised⟩
    cases ran : Extraction.fillLibraries real.normalize { code := template } libraries.entries with
    | ok after =>
      exact (ofCode_elsewhere kind positions immutables style interface ran _ raised).elim
    | error failure =>
      rw [ofCode_of_unfilled kind positions immutables style interface ran] at raised
      have same : failure = .placeholder error := by
        cases failure with
        | region _ => contradiction
        | _ => exact Except.error.inj raised
      obtain ⟨before, slot, stops, broken, -⟩ := (raised_iff error).mp (ran.trans (same ▸ rfl))
      exact ⟨before, slot, stops, broken⟩
  · rintro ⟨before, slot, stops, broken⟩
    have ran := (raised_iff _).mpr ⟨before, slot, stops, broken, rfl⟩
    exact ⟨_, ofCode_of_unfilled kind positions immutables style interface ran⟩
  · rcases Extraction.fillLibraries_of_malformed bears counts apart broken with
      ⟨error, ran⟩ | ⟨error, ran⟩
    · obtain ⟨before, slot, stops, malformed, -⟩ := (raised_iff error).mp ran
      exact absurd ⟨before, slot, stops, malformed⟩ unnoticed
    · exact ⟨_, ofCode_of_unfilled kind positions immutables style interface ran, rfl⟩

/-- Call protection is filled in exactly if the deployed code reaches to the end of its address. -/
theorem callProtection_isOk_iff (template : Code) (bears : real.Marked) :
    (∃ protection, Extraction.callProtection template real = .ok protection) ↔
      ∀ extent ∈ Extraction.protectionExtents template, extent.stop ≤ real.length := by
  have regular := Extraction.protectionExtent_nonneg.regular
  constructor
  · rintro ⟨protection, filled⟩ extent member
    obtain ⟨rfl, begins⟩ := Extraction.mem_protectionExtents member
    rcases Extraction.callProtection_eq_ok.mp filled with ⟨plain, -⟩ | ⟨-, address, taken, -⟩
    · rw [plain] at begins
      contradiction
    · exact (Extraction.stop_le_of_deployed bears regular taken).1
  · intro reaches
    cases begins : Extraction.protectionMark.isPrefixOf template with
    | false => exact ⟨_, Extraction.callProtection_eq_ok.mpr (.inl ⟨begins, rfl⟩)⟩
    | true =>
      have ends := reaches Extraction.protectionExtent
        (by simp [Extraction.protectionExtents, begins])
      have taken := Extraction.deployed_eq_ok bears .callProtection regular ends
      exact ⟨_, Extraction.callProtection_eq_ok.mpr (.inr ⟨begins, _, taken, rfl⟩)⟩

/-- Slots that are apart from call protection hold what they held once it is filled in. -/
theorem held_of_protection {code : Code} {slot : LibrarySlot} (counts : slot.extent.Nonneg)
    (clear : ∀ extent ∈ Extraction.protectionExtents template, slot.extent.Apart extent)
    (filled : code.FilledFrom real (Extraction.protectionExtents template) template) :
    slot.Held code ↔ slot.Held template := by
  have unchanged : code.UnchangedOutside (Extraction.protectionExtents template) template :=
    filled.elsewhere
  have same := unchanged.textIn_eq counts.regular (fun extent member => by
    rw [(Extraction.mem_protectionExtents member).1]
    exact Extraction.protectionExtent_nonneg.regular) clear
  rw [LibrarySlot.Held, LibrarySlot.Held, same]

/-- A match of the code that a contract runs ends for want of a placeholder exactly if call
protection is filled in and the match comes to a malformed slot, and with a malformed slot it is
otherwise a difference. -/
theorem runtime_malformed (real : Code) (positions : AuxdataPositions)
    (immutables : Listing ImmutableSlot) (style : AuxdataStyle)
    (counts : ∀ slot ∈ libraries.entries, slot.extent.Nonneg)
    (apart : libraries.entries.Pairwise fun one other => one.extent.Apart other.extent)
    (clear : ∀ extent ∈ Extraction.protectionExtents template, ∀ slot ∈ libraries.entries,
      slot.extent.Apart extent) :
    (RaisesPlaceholder (runtime template real libraries positions immutables style) ↔
      (∀ extent ∈ Extraction.protectionExtents template, extent.stop ≤ real.normalize.length) ∧
        ComesToMalformed template real.normalize libraries.entries) ∧
    ((∃ slot ∈ libraries.entries, ¬ slot.Held template) →
      ¬ RaisesPlaceholder (runtime template real libraries positions immutables style) →
      Differs (runtime template real libraries positions immutables style)) := by
  have bears := Code.marked_normalize real
  have protected_iff := callProtection_isOk_iff template bears
  rcases Extraction.callProtection_decides template bears with
    ⟨protection, filled, code⟩ | ⟨failure, failed, ⟨error, rfl⟩, -⟩
  · have held_iff : ∀ slot ∈ libraries.entries, slot.Held protection.code ↔ slot.Held template :=
      fun slot member => held_of_protection (counts slot member)
        (fun extent listed => clear extent listed slot member) code
    have comes_iff : ComesToMalformed protection.code real.normalize libraries.entries ↔
        ComesToMalformed template real.normalize libraries.entries :=
      ⟨.of_held_iff held_iff, .of_held_iff fun slot member => (held_iff slot member).symm⟩
    obtain ⟨raised_iff, differs⟩ := ofCode_malformed .runtime protection.code
      real.normalize positions immutables style .null counts apart
    rw [Code.normalize_normalize, comes_iff] at raised_iff differs
    have reaches := protected_iff.mp ⟨protection, filled⟩
    let protect : Match → Match := fun found => { found with
      transformations := protection.transformations ++ found.transformations
      values := protection.values.merge found.values }
    have ran : runtime template real libraries positions immutables style =
        (ofCode .runtime protection.code real.normalize libraries positions immutables style
          .null).map protect := by
      simp only [runtime, filled]
      rfl
    have keeps : ∀ found, (protect found).status = found.status := fun _ => rfl
    obtain ⟨raised_map_iff, differs_map⟩ := ends_map
      (ofCode .runtime protection.code real.normalize libraries positions immutables style .null)
      keeps
    rw [ran, raised_map_iff, raised_iff]
    refine ⟨⟨fun comes => ⟨reaches, comes⟩, And.right⟩, fun broken unnoticed => ?_⟩
    refine differs_map (differs ?_ unnoticed)
    obtain ⟨slot, member, malformed⟩ := broken
    exact ⟨slot, member, fun held => malformed ((held_iff slot member).mp held)⟩
  · have unreached : ¬ ∀ extent ∈ Extraction.protectionExtents template,
        extent.stop ≤ real.normalize.length := by
      rw [← protected_iff]
      rintro ⟨protection, filled⟩
      rw [failed] at filled
      contradiction
    simp only [runtime, failed]
    refine ⟨⟨?_, fun both => absurd both.1 unreached⟩, fun _ _ => ⟨_, rfl, rfl⟩⟩
    rintro ⟨malformed, raised⟩
    contradiction

/-- Whether a match ends for want of a placeholder depends on the template, the slots, and on the
deployed code as far as the slots before the first malformed one go: it does exactly if call
protection can be filled in and all slots before that one can be filled. Where no slot is malformed
it never does, and where one is and it does not, the match is a difference. -/
theorem placeholder_raised_iff (real : Code) (positions : AuxdataPositions)
    (immutables : Listing ImmutableSlot) (style : AuxdataStyle)
    (counts : ∀ slot ∈ libraries.entries, slot.extent.Nonneg)
    (apart : libraries.entries.Pairwise fun one other => one.extent.Apart other.extent)
    (clear : ∀ extent ∈ Extraction.protectionExtents template, ∀ slot ∈ libraries.entries,
      slot.extent.Apart extent) :
    (∀ kind interface,
      (RaisesPlaceholder
          (ofCode kind template real libraries positions immutables style interface) ↔
        ComesToMalformed template real.normalize libraries.entries) ∧
      ((∃ slot ∈ libraries.entries, ¬ slot.Held template) →
        ¬ ComesToMalformed template real.normalize libraries.entries →
        Differs (ofCode kind template real libraries positions immutables style interface))) ∧
    (RaisesPlaceholder (runtime template real libraries positions immutables style) ↔
      (∀ extent ∈ Extraction.protectionExtents template, extent.stop ≤ real.normalize.length) ∧
        ComesToMalformed template real.normalize libraries.entries) ∧
    ((∃ slot ∈ libraries.entries, ¬ slot.Held template) →
      ¬ RaisesPlaceholder (runtime template real libraries positions immutables style) →
      Differs (runtime template real libraries positions immutables style)) :=
  ⟨fun kind interface =>
      ofCode_malformed kind template real positions immutables style interface counts apart,
    runtime_malformed real positions immutables style counts apart clear⟩

/-- A template with two slots of one library that hold zeros and a malformed slot of another. -/
def sampleMalformed : Code :=
  Code.marked (Placeholder.zeros ++ Placeholder.zeros ++ List.replicate 40 'f')

/-- The slots of the two libraries. -/
def sampleMalformedSlots : Listing LibrarySlot :=
  ⟨[⟨"f.sol:L1", 0, 20⟩, ⟨"f.sol:L1", 20, 20⟩, ⟨"f.sol:L2", 40, 20⟩], none⟩

/-- A deployed code with the addresses of two libraries given, and of a third. -/
def sampleLinkedTo (first second : Char) : Code :=
  Code.marked (List.replicate 40 first ++ List.replicate 40 second ++ List.replicate 40 'f')

set_option maxRecDepth 20000 in
/-- The malformed slot of the sample ends the match with a deployed code that has one address for
the other library, and the match with one that has two is a difference. -/
theorem placeholder_raised_iff_sample :
    RaisesPlaceholder (runtime sampleMalformed (sampleLinkedTo '1' '1') sampleMalformedSlots []
        .empty .solidity) ∧
      Differs (runtime sampleMalformed (sampleLinkedTo '1' '2') sampleMalformedSlots [] .empty
        .solidity) := by
  have counts : ∀ slot ∈ sampleMalformedSlots.entries, slot.extent.Nonneg := by decide
  have apart : sampleMalformedSlots.entries.Pairwise fun one other =>
      one.extent.Apart other.extent := by decide
  have clear : ∀ extent ∈ Extraction.protectionExtents sampleMalformed,
      ∀ slot ∈ sampleMalformedSlots.entries, slot.extent.Apart extent := by decide +kernel
  have free : Extraction.protectionExtents sampleMalformed = [] := by decide +kernel
  have held : ∀ slot ∈ ([⟨"f.sol:L1", 0, 20⟩, ⟨"f.sol:L1", 20, 20⟩] : List LibrarySlot),
      slot.Held sampleMalformed := by decide +kernel
  have broken : ¬ LibrarySlot.Held ⟨"f.sol:L2", 40, 20⟩ sampleMalformed := by decide +kernel
  have decides (real : Code) :=
    (placeholder_raised_iff real [] .empty .solidity counts apart clear).2
  constructor
  · refine (decides _).1.mpr ⟨by simp [free], _, _, ⟨⟨[], rfl⟩, held, ?_, ?_⟩, broken⟩
    · decide +kernel
    · decide +kernel
  · refine (decides _).2 ⟨⟨"f.sol:L2", 40, 20⟩, by decide, broken⟩ fun raised => ?_
    obtain ⟨before, slot, stops, malformed⟩ := ((decides _).1.mp raised).2
    have ends : StopsAt sampleMalformed (sampleLinkedTo '1' '2').normalize
        sampleMalformedSlots.entries [⟨"f.sol:L1", 0, 20⟩] ⟨"f.sol:L1", 20, 20⟩ :=
      ⟨⟨_, rfl⟩, by decide +kernel, ⟨by decide +kernel, by decide +kernel⟩⟩
    have unfilled : ¬ (sampleLinkedTo '1' '2').normalize.OneText
        [⟨"f.sol:L1", 0, 20⟩, ⟨"f.sol:L1", 20, 20⟩] := by decide +kernel
    obtain ⟨-, rfl⟩ := stops.unique ends malformed (.inr fun fills => unfilled fills.oneText)
    exact malformed (held _ (by simp))

set_option maxRecDepth 20000 in
/-- A slot that holds no placeholder, apart from all others, goes unnoticed with one deployed code
and not with another: whether a malformed template is reported depends on more than the template. -/
theorem malformed_slot_unnoticed :
    (∃ slot ∈ sampleMalformedSlots.entries, ¬ slot.Held sampleMalformed) ∧
      (sampleMalformedSlots.entries.Pairwise fun one other => one.extent.Apart other.extent) ∧
      Extraction.protectionExtents sampleMalformed = [] ∧
      RaisesPlaceholder (runtime sampleMalformed (sampleLinkedTo '1' '1') sampleMalformedSlots []
        .empty .solidity) ∧
      Differs (runtime sampleMalformed (sampleLinkedTo '1' '2') sampleMalformedSlots [] .empty
        .solidity) := by
  decide +kernel

end Match

end Attest
