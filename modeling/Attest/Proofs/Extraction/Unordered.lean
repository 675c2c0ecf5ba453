import Mathlib.Data.List.Perm.Basic
import Attest.Proofs.Extraction.Filled
import Attest.Proofs.Extraction.Record

/-!
# Parts filled in another order

What filling comes to can be said without an order: the filled template has the deployed characters in
all parts, the table has the deployed text for the id of each part, and a part that cannot be filled
is reported if there is one. So the parts in another order give the same code and the same values, or
neither order is filled (`fillLibraries_unordered`, `fillImmutables_unordered`,
`fillAuxdatas_unordered`). Only which part is reported depends on the order.
-/
namespace Attest

namespace Values

/-- Whether values are the same, the tables of them as maps. -/
structure Same (values other : Values) : Prop where
  /-- The arguments of the constructor are the same. -/
  constructorArguments : values.constructorArguments = other.constructorArguments
  /-- The address of call protection is the same. -/
  callProtection : values.callProtection = other.callProtection
  /-- Each library has the same address. -/
  libraries : values.libraries.SameMap other.libraries
  /-- Each immutable has the same value. -/
  immutables : values.immutables.SameMap other.immutables
  /-- Each auxdata has the same text. -/
  auxdatas : values.auxdatas.SameMap other.auxdatas

/-- Whether no table of values has two rows of one key. -/
structure Distinct (values : Values) : Prop where
  /-- No library has two addresses. -/
  libraries : values.libraries.Distinct
  /-- No immutable has two values. -/
  immutables : values.immutables.Distinct
  /-- No auxdata has two texts. -/
  auxdatas : values.auxdatas.Distinct

/-- Values are the same as themselves. -/
theorem Same.refl (values : Values) : values.Same values :=
  ⟨rfl, rfl, fun _ => rfl, fun _ => rfl, fun _ => rfl⟩

/-- The same values merged into the same values are the same. -/
theorem Same.merge {values other later later_other : Values} (same : values.Same other)
    (same_later : later.Same later_other) (distinct : later.Distinct)
    (distinct_other : later_other.Distinct) :
    (values.merge later).Same (other.merge later_other) where
  constructorArguments := by
    rw [Values.merge, Values.merge, same.constructorArguments, same_later.constructorArguments]
  callProtection := by
    rw [Values.merge, Values.merge, same.callProtection, same_later.callProtection]
  libraries := same.libraries.merge same_later.libraries distinct.libraries distinct_other.libraries
  immutables :=
    same.immutables.merge same_later.immutables distinct.immutables distinct_other.immutables
  auxdatas := same.auxdatas.merge same_later.auxdatas distinct.auxdatas distinct_other.auxdatas

/-- Merging keeps the keys of values distinct. -/
theorem Distinct.merge {values : Values} (distinct : values.Distinct) (later : Values) :
    (values.merge later).Distinct :=
  ⟨distinct.libraries.merge _, distinct.immutables.merge _, distinct.auxdatas.merge _⟩

/-- Nothing recorded has distinct keys. -/
theorem Distinct.of_tables_nil {values : Values} (libraries : values.libraries = [])
    (immutables : values.immutables = []) (auxdatas : values.auxdatas = []) : values.Distinct where
  libraries := libraries ▸ List.nodup_nil
  immutables := immutables ▸ List.nodup_nil
  auxdatas := auxdatas ▸ List.nodup_nil

end Values

namespace Transformation

/-- Whether transformations are others in another order that keeps each reason in its place: they have
the same reasons in the same order, and for each reason the same transformations. -/
structure PermutedWithin (transformations others : List Transformation) : Prop where
  /-- The reasons are in the same order. -/
  reasons : transformations.map reason = others.map reason
  /-- Each reason has the same transformations. -/
  each : ∀ why, (transformations.filter (·.reason = why)).Perm (others.filter (·.reason = why))

/-- Transformations are themselves in their order. -/
theorem PermutedWithin.refl (transformations : List Transformation) :
    PermutedWithin transformations transformations :=
  ⟨rfl, fun _ => .refl _⟩

/-- Transformations for one reason may be in any order. -/
theorem PermutedWithin.of_map {α : Type} {entry : α → Transformation} {items others : List α}
    (why : Reason) (order : items.Perm others) (alone : ∀ item, (entry item).reason = why) :
    PermutedWithin (items.map entry) (others.map entry) where
  reasons := by
    have all (items : List α) : (items.map entry).map reason = List.replicate items.length why := by
      rw [List.map_map, List.map_eq_replicate_iff]
      exact fun item _ => alone item
    rw [all items, all others, order.length_eq]
  each := fun _ => (order.map entry).filter _

/-- Transformations behind others may be in another order if both may. -/
theorem PermutedWithin.append {first second first_others second_others : List Transformation}
    (begun : PermutedWithin first first_others) (ended : PermutedWithin second second_others) :
    PermutedWithin (first ++ second) (first_others ++ second_others) where
  reasons := by rw [List.map_append, List.map_append, begun.reasons, ended.reasons]
  each := by
    intro why
    rw [List.filter_append, List.filter_append]
    exact (begun.each why).append (ended.each why)

end Transformation

namespace Code

variable {code other real template : Code} {extents others : List Extent} {sites order : List Site}

/-- A template is filled in one way, whatever the order of the extents. -/
theorem FilledFrom.unique (filled : code.FilledFrom real extents template)
    (filled_other : other.FilledFrom real others template) (same : extents.Perm others) :
    code = other := by
  refine List.ext_getElem? fun index => ?_
  by_cases covered : ∃ extent ∈ extents, extent.Covers index
  · have covered_other : ∃ extent ∈ others, extent.Covers index := by
      obtain ⟨extent, listed, covers⟩ := covered
      exact ⟨extent, same.mem_iff.mp listed, covers⟩
    rw [filled.within index covered, filled_other.within index covered_other]
  · have free : ∀ extent ∈ extents, ¬ extent.Covers index := by simpa using covered
    rw [filled.elsewhere index free, filled_other.elsewhere index fun extent listed =>
      free extent (same.mem_iff.mpr listed)]

/-- A code fills sites in any order. -/
theorem Fills.of_perm {real : Code} (fills : real.Fills sites) (same : sites.Perm order) :
    real.Fills order where
  reaches := fun site listed => fills.reaches site (same.mem_iff.mpr listed)
  oneText := fun one listed other listed_other =>
    fills.oneText one (same.mem_iff.mpr listed) other (same.mem_iff.mpr listed_other)

end Code

namespace Extraction

variable {real template : Code} {sites order : List Site}

/-- Sites in any order have the same texts recorded. -/
theorem Recorded.sameMap {table other : Table String Code} (recorded : Recorded real table sites)
    (recorded_other : Recorded real other order) (same : sites.Perm order) :
    table.SameMap other := by
  refine fun id => Option.ext fun value => ?_
  rw [recorded id value, recorded_other id value]
  simp only [same.mem_iff]

/-- Whether two fillings are the same but for the order in which they were made. -/
structure Alike (done other : Extraction) : Prop where
  /-- The filled template is the same. -/
  code : done.code = other.code
  /-- The values are the same. -/
  values : done.values.Same other.values
  /-- The transformations of each reason are the same. -/
  transformations : Transformation.PermutedWithin done.transformations other.transformations
  /-- The values of the one have distinct keys. -/
  distinct : done.values.Distinct
  /-- The values of the other have distinct keys. -/
  distinct_other : other.values.Distinct

end Extraction

/-- Whether two results are both of a kind that is the same, or both report a part that cannot be
filled. -/
inductive SameEnd {α : Type} (same : α → α → Prop) : Except Failure α → Except Failure α → Prop
  /-- Both end well. -/
  | filled {result other : α} (alike : same result other) : SameEnd same (.ok result) (.ok other)
  /-- Both report a part, and it may be another one. -/
  | missing (error other : RegionError) :
    SameEnd same (.error (.region error)) (.error (.region other))

namespace SameEnd

variable {α β : Type} {same : α → α → Prop} {same_next : β → β → Prop}

/-- Results that are the same are the same after steps that keep them so. -/
theorem bind {result other : Except Failure α} (begun : SameEnd same result other)
    {next next_other : α → Except Failure β}
    (kept : ∀ value value_other, result = .ok value → other = .ok value_other →
      same value value_other → SameEnd same_next (next value) (next_other value_other)) :
    SameEnd same_next (result >>= next) (other >>= next_other) := by
  cases begun with
  | filled alike => exact kept _ _ rfl rfl alike
  | missing error other => exact .missing error other

/-- Results that are the same are the same after changes that keep them so. -/
theorem map {result other : Except Failure α} (begun : SameEnd same result other)
    {change change_other : α → β}
    (kept : ∀ value value_other, same value value_other →
      same_next (change value) (change_other value_other)) :
    SameEnd same_next (result.map change) (other.map change_other) := by
  cases begun with
  | filled alike => exact .filled (kept _ _ alike)
  | missing error other => exact .missing error other

end SameEnd

namespace Extraction

variable {real template : Code} {sites order : List Site}

/-- A run of which each step records the deployed text of a site that is in no conflict records the
texts of all sites. -/
theorem recorded_of_steps {α : Type} {fill : Extraction → α → Except Failure Extraction}
    {items : List α} (site : α → Site) (table : Values → Table String Code) (empty : table {} = [])
    {after : Extraction}
    (steps : ∀ before item rest done next, items = before ++ item :: rest →
      Recorded real (table done.values) (before.map site) → fill done item = .ok next →
      conflict? (table done.values) (site item).id (Code.marked (real.textIn (site item).extent)) =
          none ∧
        table next.values = (table done.values).put (site item).id
          (Code.marked (real.textIn (site item).extent)))
    (filled : items.foldlM fill { code := template } = .ok after) :
    Recorded real (table after.values) (items.map site) := by
  have start : Recorded real (table {}) [] := by
    rw [empty]
    exact .start real
  refine Result.foldlM_induction
    (motive := fun before done => Recorded real (table done.values) (before.map site)) filled start ?_
  intro before item rest done next parts recorded stepped
  obtain ⟨free, written⟩ := steps before item rest done next parts recorded stepped
  rw [written, List.map_append]
  exact recorded.put (site item) free

/-- Whether an extraction has recorded the deployed texts of sites for a reason, and nothing else. -/
structure RecordedFor (real : Code) (why : Reason) (sites : List Site) (done : Extraction) : Prop where
  /-- The text of each site is recorded. -/
  recorded : Recorded real (done.values.table why) sites
  /-- No other values are recorded. -/
  alone : done.values = done.values.part why
  /-- No id has two values. -/
  distinct : (done.values.table why).Distinct

/-- The values of one reason have distinct keys if those of that reason have. -/
theorem RecordedFor.values_distinct {why : Reason} {done : Extraction}
    (recorded : RecordedFor real why sites done) : done.values.Distinct := by
  have distinct := recorded.distinct
  rw [recorded.alone] at distinct ⊢
  cases why with
  | library => exact ⟨distinct, List.nodup_nil, List.nodup_nil⟩
  | immutable => exact ⟨List.nodup_nil, distinct, List.nodup_nil⟩
  | auxdata => exact ⟨List.nodup_nil, List.nodup_nil, distinct⟩
  | _ => exact ⟨List.nodup_nil, List.nodup_nil, List.nodup_nil⟩

/-- The values recorded for sites in two orders are the same. -/
theorem RecordedFor.same {why : Reason} {done other : Extraction}
    (tabled : why = .library ∨ why = .immutable ∨ why = .auxdata)
    (recorded : RecordedFor real why sites done) (recorded_other : RecordedFor real why order other)
    (same : sites.Perm order) : done.values.Same other.values := by
  have table := recorded.recorded.sameMap recorded_other.recorded same
  rw [recorded.alone, recorded_other.alone] at table ⊢
  rcases tabled with rfl | rfl | rfl
  · exact ⟨rfl, rfl, table, fun _ => rfl, fun _ => rfl⟩
  · exact ⟨rfl, rfl, fun _ => rfl, table, fun _ => rfl⟩
  · exact ⟨rfl, rfl, fun _ => rfl, fun _ => rfl, table⟩

/-- Sites that are filled in two orders come to the same. -/
theorem sameEnd_of_decided {result other : Except Failure Extraction} {why : Reason}
    (tabled : why = .library ∨ why = .immutable ∨ why = .auxdata)
    (decided : Decided real template sites result) (decided_other : Decided real template order other)
    (recorded : ∀ after, result = .ok after → RecordedFor real why sites after)
    (recorded_other : ∀ after, other = .ok after → RecordedFor real why order after)
    (transformations : ∀ after after_other, result = .ok after → other = .ok after_other →
      Transformation.PermutedWithin after.transformations after_other.transformations)
    (same : sites.Perm order) : SameEnd Alike result other := by
  -- Whether all sites can be filled is said without an order, so no order fails alone.
  rcases decided with ⟨after, rfl, code, fills⟩ | ⟨_, rfl, ⟨error, rfl⟩, unfilled⟩
  · rcases decided_other with ⟨after_other, rfl, code_other, -⟩ | ⟨_, rfl, -, unfilled⟩
    · have record := recorded after rfl
      have record_other := recorded_other after_other rfl
      exact .filled {
        code := code.unique code_other (same.map _)
        values := record.same tabled record_other same
        transformations := transformations after after_other rfl rfl
        distinct := record.values_distinct
        distinct_other := record_other.values_distinct }
    · exact absurd (fills.of_perm same) unfilled
  · rcases decided_other with ⟨_, rfl, -, fills⟩ | ⟨_, rfl, ⟨error_other, rfl⟩, -⟩
    · exact absurd (fills.of_perm same.symm) unfilled
    · exact .missing error error_other

/-- Slots of libraries that are filled have their addresses recorded. -/
theorem fillLibraries_recordedFor {slots : List LibrarySlot} {after : Extraction}
    (filled : fillLibraries real { code := template } slots = .ok after) :
    RecordedFor real .library (slots.map LibrarySlot.site) after := by
  obtain ⟨-, alone, distinct⟩ := fillLibraries_explained filled
  rw [fillLibraries_eq_foldlM] at filled
  refine ⟨recorded_of_steps LibrarySlot.site Values.libraries rfl ?_ filled, alone, distinct⟩
  intro before slot rest done next _ _ stepped
  obtain ⟨-, address, taken, free, rfl⟩ := fillLibrary_eq_ok.mp stepped
  obtain ⟨rfl, -⟩ := eq_region_of_deployed taken
  exact ⟨free, rfl⟩

/-- Slots of immutables that are filled have their values recorded. -/
theorem fillImmutables_recordedFor {action : Action} {slots : List ImmutableSlot}
    {after : Extraction}
    (filled : fillImmutables real action { code := template } slots = .ok after) :
    RecordedFor real .immutable (slots.map ImmutableSlot.site) after := by
  obtain ⟨-, alone, distinct⟩ := fillImmutables_explained filled
  rw [fillImmutables_eq_foldlM] at filled
  refine ⟨recorded_of_steps ImmutableSlot.site Values.immutables rfl ?_ filled, alone, distinct⟩
  intro before slot rest done next _ _ stepped
  obtain ⟨value, taken, free, rfl⟩ := fillImmutable_eq_ok.mp stepped
  obtain ⟨rfl, -⟩ := eq_region_of_deployed taken
  exact ⟨free, rfl⟩

/-- Slots of libraries in another order are filled the same. -/
theorem fillLibraries_unordered {slots others : List LibrarySlot} (bears : real.Marked)
    (within : ∀ slot ∈ slots, slot.extent.Within template)
    (placeholders : ∀ slot ∈ slots, template.textIn slot.extent ∈ Placeholder.accepted slot.name)
    (apart : slots.Pairwise fun one other => one.extent.Apart other.extent)
    (same : slots.Perm others) :
    SameEnd Alike (fillLibraries real { code := template } slots)
      (fillLibraries real { code := template } others) := by
  have apart_others : others.Pairwise fun one other => one.extent.Apart other.extent :=
    apart.perm same fun apart => apart.symm
  refine sameEnd_of_decided (.inl rfl) (fillLibraries_decides bears within placeholders apart)
    (fillLibraries_decides bears (fun slot listed => within slot (same.mem_iff.mpr listed))
      (fun slot listed => placeholders slot (same.mem_iff.mpr listed)) apart_others)
    (fun _ filled => fillLibraries_recordedFor filled)
    (fun _ filled => fillLibraries_recordedFor filled) ?_ (same.map _)
  intro after after_other filled filled_other
  rw [fillLibraries_transformations filled, fillLibraries_transformations filled_other]
  exact .of_map .library same fun _ => rfl

/-- Slots of immutables in another order are filled in place the same. -/
theorem fillImmutables_unordered {slots others : List ImmutableSlot} (bears : real.Marked)
    (marked : template.Marked) (inside : ∀ slot ∈ slots, slot.extent.Inside template)
    (same : slots.Perm others) :
    SameEnd Alike (fillImmutables real .replace { code := template } slots)
      (fillImmutables real .replace { code := template } others) := by
  refine sameEnd_of_decided (.inr (.inl rfl)) (fillImmutables_decides bears marked inside)
    (fillImmutables_decides bears marked fun slot listed => inside slot (same.mem_iff.mpr listed))
    (fun _ filled => fillImmutables_recordedFor filled)
    (fun _ filled => fillImmutables_recordedFor filled) ?_ (same.map _)
  intro after after_other filled filled_other
  rw [fillImmutables_transformations filled, fillImmutables_transformations filled_other]
  exact .of_map .immutable same fun _ => rfl

/-- The site of a located auxdata. -/
def auxdataSite (place : String × AuxdataPosition) : Site := ⟨place.1, place.2.extent⟩

/-- Of rows with distinct ids one that follows others has none of their ids. -/
theorem id_ne_of_distinct {places before rest : AuxdataPositions} {place other : String × AuxdataPosition}
    (distinct : places.Distinct) (parts : places = before ++ place :: rest) (earlier : other ∈ before) :
    other.1 ≠ place.1 := by
  rw [Table.Distinct, parts, List.map_append, List.map_cons] at distinct
  exact (List.nodup_append.mp distinct).2.2 _ (List.mem_map_of_mem earlier) _ List.mem_cons_self

/-- Auxdatas with distinct ids that are taken over have their texts recorded. -/
theorem fillAuxdatas_recordedFor {places : AuxdataPositions} {after : Extraction}
    (bears : real.Marked) (distinct : places.Distinct)
    (regular : ∀ place ∈ places, place.2.extent.Regular)
    (filled : fillAuxdatas real { code := template } places = .ok after) :
    RecordedFor real .auxdata (places.map auxdataSite) after := by
  obtain ⟨-, alone, keys⟩ := fillAuxdatas_explained bears distinct regular filled
  have distinct_keys : after.values.auxdatas.Distinct := by
    rw [Table.Distinct, keys]
    exact distinct
  rw [fillAuxdatas_eq_foldlM] at filled
  refine ⟨recorded_of_steps auxdataSite Values.auxdatas rfl ?_ filled, alone, distinct_keys⟩
  intro before place rest done next parts recorded stepped
  obtain ⟨value, taken, rfl⟩ := fillAuxdata_eq_ok.mp stepped
  obtain ⟨rfl, -⟩ := eq_region_of_deployed taken
  refine ⟨conflict?_eq_none_iff.mpr fun value row => ?_, rfl⟩
  obtain ⟨site, listed, named, -⟩ := (recorded _ _).mp row
  obtain ⟨other, earlier, rfl⟩ := List.mem_map.mp listed
  exact absurd named (id_ne_of_distinct distinct parts earlier)

/-- Auxdatas with distinct ids are taken over, or the deployed code cannot fill one. -/
theorem fillAuxdatas_decided {places : AuxdataPositions} (bears : real.Marked)
    (marked : template.Marked) (distinct : places.Distinct)
    (inside : ∀ place ∈ places, place.2.extent.Inside template) :
    Decided real template (places.map auxdataSite)
      (fillAuxdatas real { code := template } places) := by
  rcases fillAuxdatas_reaches bears marked inside with
    ⟨after, filled, code, reaches⟩ | ⟨failure, failed, region, place, listed, past⟩
  · refine .inl ⟨after, filled, ?_, ?_, ?_⟩
    · rw [List.map_map]
      exact code
    · intro site listed
      obtain ⟨place, present, rfl⟩ := List.mem_map.mp listed
      exact reaches place present
    · have record := fillAuxdatas_recordedFor bears distinct
        (fun place listed => (inside place listed).regular) filled
      exact record.recorded.oneText
  · refine .inr ⟨failure, failed, region, fun fills => ?_⟩
    exact Nat.not_le.mpr past (fills.reaches (auxdataSite place) (List.mem_map_of_mem listed))

/-- Auxdatas in another order are taken over the same. -/
theorem fillAuxdatas_unordered {places others : AuxdataPositions} (bears : real.Marked)
    (marked : template.Marked) (distinct : places.Distinct)
    (inside : ∀ place ∈ places, place.2.extent.Inside template) (same : places.Perm others) :
    SameEnd Alike (fillAuxdatas real { code := template } places)
      (fillAuxdatas real { code := template } others) := by
  have distinct_others : others.Distinct := (same.map _).nodup_iff.mp distinct
  have inside_others : ∀ place ∈ others, place.2.extent.Inside template := fun place listed =>
    inside place (same.mem_iff.mpr listed)
  refine sameEnd_of_decided (.inr (.inr rfl)) (fillAuxdatas_decided bears marked distinct inside)
    (fillAuxdatas_decided bears marked distinct_others inside_others)
    (fun _ filled => fillAuxdatas_recordedFor bears distinct
      (fun place listed => (inside place listed).regular) filled)
    (fun _ filled => fillAuxdatas_recordedFor bears distinct_others
      (fun place listed => (inside_others place listed).regular) filled) ?_ (same.map _)
  intro after after_other filled filled_other
  rw [fillAuxdatas_transformations filled, fillAuxdatas_transformations filled_other]
  exact .of_map .auxdata same fun _ => rfl

end Extraction

end Attest
