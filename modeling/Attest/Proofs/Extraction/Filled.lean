import Attest.Proofs.Extraction.Linked
import Attest.Proofs.Extraction.Protection
import Attest.Proofs.Table

/-!
# Filled templates, character by character

A template whose parts lie inside it keeps its length when they are filled: it has the deployed
characters in the parts and its own everywhere else (`Code.FilledFrom`). Each kind of part is
filled exactly if the deployed code reaches to the end of each part and has one text in all parts of
one id, and otherwise a part that cannot be filled is reported (`fillLibraries_decides`,
`fillImmutables_decides`, `fillAuxdatas_decides`).
-/
namespace Attest

/-- A part of a template that has an id: the id, and the extent. -/
structure Site where
  /-- The id of what fills the part. -/
  id : String
  /-- The place of the part. -/
  extent : Extent
  deriving DecidableEq, Repr

/-- The site of a slot of a library. -/
def LibrarySlot.site (slot : LibrarySlot) : Site := ⟨slot.name, slot.extent⟩

/-- The site of a slot of an immutable. -/
def ImmutableSlot.site (slot : ImmutableSlot) : Site := ⟨slot.id, slot.extent⟩

/-- Apart extents are apart the other way round. -/
theorem Extent.Apart.symm {one other : Extent} (apart : one.Apart other) : other.Apart one :=
  Or.symm apart

namespace Code

/-- The text of a code in an extent. -/
def textIn (code : Code) (extent : Extent) : Code := region code extent.start extent.length

/-- Whether all sites of one id hold one text. -/
def OneText (code : Code) (sites : List Site) : Prop :=
  ∀ one ∈ sites, ∀ other ∈ sites, one.id = other.id →
    code.textIn one.extent = code.textIn other.extent

instance (code : Code) (sites : List Site) : Decidable (code.OneText sites) :=
  inferInstanceAs (Decidable (∀ one ∈ sites, ∀ other ∈ sites, _ → _))

/-- Whether a code can fill sites: it reaches to the end of each, and has one text for each id. -/
structure Fills (real : Code) (sites : List Site) : Prop where
  /-- The code reaches to the end of each site. -/
  reaches : ∀ site ∈ sites, site.extent.stop ≤ real.length
  /-- The code has one text for each id. -/
  oneText : real.OneText sites

/-- A code with the characters of a deployed code in extents and those of a template elsewhere. -/
structure FilledFrom (code real : Code) (extents : List Extent) (template : Code) : Prop where
  /-- The filled code is as long as the template. -/
  length : code.length = template.length
  /-- It has the deployed characters in the extents. -/
  within : ∀ index, (∃ extent ∈ extents, extent.Covers index) → code[index]? = real[index]?
  /-- It has the characters of the template elsewhere. -/
  elsewhere : ∀ index, (∀ extent ∈ extents, ¬ extent.Covers index) →
    code[index]? = template[index]?

/-- A template is itself with nothing filled in. -/
theorem FilledFrom.start (template real : Code) : FilledFrom template real [] template where
  length := rfl
  within := by simp
  elsewhere := fun _ _ => rfl

/-- A filled template with one more extent filled in. -/
theorem FilledFrom.splice {code real template : Code} {extents : List Extent} {extent : Extent}
    (filled : code.FilledFrom real extents template) (regular : extent.Regular)
    (inside : extent.stop ≤ template.length) (reaches : extent.stop ≤ real.length) :
    (Code.splice code extent.start (real.textIn extent) extent.length).FilledFrom real
      (extents ++ [extent]) template := by
  have order := extent.first_le_stop
  have same := filled.length
  have begins : extent.first ≤ code.length := by omega
  have fits : (real.textIn extent).length = extent.stop - extent.first :=
    length_region regular reaches
  have characters := getElem?_splice regular fits begins
  refine ⟨?_, fun index covered => ?_, fun index free => ?_⟩
  · rw [length_splice regular fits begins]
    omega
  · rw [characters]
    split
    · rename_i last
      exact getElem?_region real regular last
    · rename_i early
      obtain ⟨other, member, covers⟩ := covered
      rcases List.mem_append.mp member with earlier | last
      · exact filled.within index ⟨other, earlier, covers⟩
      · rw [List.mem_singleton.mp last] at covers
        exact absurd covers early
  · rw [characters, if_neg (free extent (by simp))]
    exact filled.elsewhere index fun other member => free other (by simp [member])

/-- Overwriting with a deployed text is a splice of that text. -/
theorem overwrite_textIn (code : Code) {real : Code} {extent : Extent} (regular : extent.Regular)
    (reaches : extent.stop ≤ real.length) :
    overwrite code extent.start (real.textIn extent) =
      Code.splice code extent.start (real.textIn extent) extent.length := by
  have fits := length_region regular reaches
  have whole := overwrite_eq_splice code regular fits
  exact whole

/-- Filling a filled template fills both. -/
theorem FilledFrom.trans {middle code real template : Code} {first second : List Extent}
    (begun : middle.FilledFrom real first template) (ended : code.FilledFrom real second middle) :
    code.FilledFrom real (first ++ second) template where
  length := ended.length.trans begun.length
  within := by
    intro index covered
    by_cases later : ∃ extent ∈ second, extent.Covers index
    · exact ended.within index later
    · have free : ∀ extent ∈ second, ¬ extent.Covers index := by simpa using later
      rw [ended.elsewhere index free]
      obtain ⟨extent, member, covers⟩ := covered
      rcases List.mem_append.mp member with early | late
      · exact begun.within index ⟨extent, early, covers⟩
      · exact absurd covers (free extent late)
  elsewhere := by
    intro index free
    rw [ended.elsewhere index fun extent member => free extent (by simp [member])]
    exact begun.elsewhere index fun extent member => free extent (by simp [member])

/-- Whether a code has the characters of a template outside extents. -/
def UnchangedOutside (extents : List Extent) (code template : Code) : Prop :=
  ∀ index, (∀ extent ∈ extents, ¬ extent.Covers index) → code[index]? = template[index]?

/-- A splice of a text as long as an extent that the code reaches changes that extent. -/
theorem UnchangedOutside.splice {code template value : Code} {extents : List Extent}
    {extent : Extent} (unchanged : code.UnchangedOutside extents template)
    (regular : extent.Regular) (fits : value.length = extent.stop - extent.first)
    (begins : extent.first ≤ code.length) :
    (Code.splice code extent.start value extent.length).UnchangedOutside (extents ++ [extent])
      template := by
  intro index free
  rw [getElem?_splice regular fits begins, if_neg (free extent (by simp))]
  exact unchanged index fun other member => free other (by simp [member])

/-- A text that no changed extent meets is that of the template. -/
theorem UnchangedOutside.textIn_eq {code template : Code} {extents : List Extent} {extent : Extent}
    (unchanged : code.UnchangedOutside extents template) (regular : extent.Regular)
    (counts : ∀ other ∈ extents, other.Regular) (apart : ∀ other ∈ extents, extent.Apart other) :
    code.textIn extent = template.textIn extent := by
  rw [textIn, textIn, region_eq code regular, region_eq template regular]
  refine List.ext_getElem? fun index => ?_
  rw [List.getElem?_drop, List.getElem?_drop, List.getElem?_take, List.getElem?_take]
  split
  · rename_i before
    refine unchanged _ fun other member => ?_
    exact (apart other member).not_covers regular (counts other member)
      ⟨Nat.le_add_right _ _, before⟩
  · rfl

/-- A slot that no changed slot meets holds what it holds in the template. -/
theorem UnchangedOutside.textIn_slot {code template : Code} {slots : List LibrarySlot}
    {slot : LibrarySlot} (unchanged : code.UnchangedOutside (slots.map LibrarySlot.extent) template)
    (regular : slot.extent.Regular) (counts : ∀ other ∈ slots, other.extent.Regular)
    (apart : ∀ other ∈ slots, slot.extent.Apart other.extent) :
    code.textIn slot.extent = template.textIn slot.extent := by
  refine unchanged.textIn_eq regular ?_ ?_
  · intro extent member
    obtain ⟨other, earlier, rfl⟩ := List.mem_map.mp member
    exact counts other earlier
  · intro extent member
    obtain ⟨other, earlier, rfl⟩ := List.mem_map.mp member
    exact apart other earlier

/-- A text that no filled extent meets is that of the template. -/
theorem FilledFrom.textIn_eq {code real template : Code} {extents : List Extent} {extent : Extent}
    (filled : code.FilledFrom real extents template) (regular : extent.Regular)
    (counts : ∀ other ∈ extents, other.Regular) (apart : ∀ other ∈ extents, extent.Apart other) :
    code.textIn extent = template.textIn extent :=
  UnchangedOutside.textIn_eq filled.elsewhere regular counts apart

end Code

namespace Extraction

/-- A table with the deployed text of each site for the id of the site, and with nothing else. -/
def Recorded (real : Code) (table : Table String Code) (sites : List Site) : Prop :=
  ∀ id value, table.get? id = some value ↔
    ∃ site ∈ sites, site.id = id ∧ value = Code.marked (real.textIn site.extent)

variable {real template : Code} {table : Table String Code} {sites before after : List Site}
  {site : Site}

/-- Nothing is recorded for no sites. -/
theorem Recorded.start (real : Code) : Recorded real [] [] := by
  intro id value
  simp [Table.get?]

/-- A text that is in no conflict is recorded for one more site. -/
theorem Recorded.put (recorded : Recorded real table before) (site : Site)
    (free : conflict? table site.id (Code.marked (real.textIn site.extent)) = none) :
    Recorded real (table.put site.id (Code.marked (real.textIn site.extent)))
      (before ++ [site]) := by
  intro id value
  rw [Table.get?_put]
  by_cases same : site.id = id
  · rw [if_pos same, Option.some.injEq]
    constructor
    · rintro rfl
      exact ⟨site, by simp, same, rfl⟩
    · rintro ⟨other, member, named, rfl⟩
      rcases List.mem_append.mp member with earlier | last
      · have row := (recorded other.id _).mpr ⟨other, earlier, rfl, rfl⟩
        rw [named, ← same] at row
        exact (conflict?_eq_none_iff.mp free _ row).symm
      · rw [List.mem_singleton.mp last]
  · rw [if_neg same, recorded id value]
    constructor
    · rintro ⟨other, member, named, rfl⟩
      exact ⟨other, by simp [member], named, rfl⟩
    · rintro ⟨other, member, named, rfl⟩
      rcases List.mem_append.mp member with earlier | last
      · exact ⟨other, earlier, named, rfl⟩
      · rw [List.mem_singleton.mp last] at named
        exact absurd named same

/-- What is recorded for sites is one text for each id. -/
theorem Recorded.oneText (recorded : Recorded real table sites) : real.OneText sites := by
  intro one member other present named
  have row := (recorded one.id _).mpr ⟨one, member, rfl, rfl⟩
  have row_other := (recorded other.id _).mpr ⟨other, present, rfl, rfl⟩
  rw [named, row_other, Option.some.injEq] at row
  exact (congrArg Code.body row).symm

/-- The text of a further site is in no conflict if the code has one text for each id. -/
theorem Recorded.conflict?_eq_none (recorded : Recorded real table before)
    (one_text : real.OneText (before ++ site :: after)) :
    conflict? table site.id (Code.marked (real.textIn site.extent)) = none := by
  rw [conflict?_eq_none_iff]
  intro value row
  obtain ⟨other, member, named, rfl⟩ := (recorded site.id value).mp row
  rw [one_text other (by simp [member]) site (by simp) named]

/-- A text is taken from a deployed code that reaches to its end. -/
theorem deployed_eq_ok (bears : real.Marked) (part : Part) {extent : Extent}
    (regular : extent.Regular) (reaches : extent.stop ≤ real.length) :
    deployed real part extent.start extent.length = .ok (real.textIn extent) := by
  rw [deployed_eq bears part regular, if_pos reaches]
  rfl

/-- A text that is taken ends in the deployed code. -/
theorem stop_le_of_deployed {part : Part} {value : Code} (bears : real.Marked) {extent : Extent}
    (regular : extent.Regular)
    (taken : deployed real part extent.start extent.length = .ok value) :
    extent.stop ≤ real.length ∧ value = real.textIn extent := by
  obtain ⟨same, reaches⟩ := eq_region_of_deployed taken
  exact ⟨(regular.stop_le_iff bears).mpr reaches, same⟩

/-- What filling one site comes to: the deployed text is spliced in and recorded, or the deployed code
does not reach to the end of the site or is in conflict with what was recorded. -/
def SiteStep (real : Code) (table : Values → Table String Code) (done : Extraction) (site : Site)
    (result : Except Failure Extraction) : Prop :=
  let text := real.textIn site.extent
  let ready := site.extent.stop ≤ real.length ∧
    conflict? (table done.values) site.id (Code.marked text) = none
  (∃ next, result = .ok next ∧ ready ∧
      next.code = Code.splice done.code site.extent.start text site.extent.length ∧
      table next.values = (table done.values).put site.id (Code.marked text)) ∨
    ∃ failure, result = .error failure ∧ (∃ error, failure = .region error) ∧ ¬ ready

/-- What filling sites comes to for a template: it is filled and could be, or the part that cannot be
filled is reported. -/
def Decided (real template : Code) (sites : List Site) (result : Except Failure Extraction) : Prop :=
  (∃ after, result = .ok after ∧
      after.code.FilledFrom real (sites.map Site.extent) template ∧ real.Fills sites) ∨
    ∃ failure, result = .error failure ∧ (∃ error, failure = .region error) ∧ ¬ real.Fills sites

/-- A run that fills one site after another fills all or reports one that cannot be filled. -/
theorem decided_of_steps {α : Type} (fill : Extraction → α → Except Failure Extraction)
    (items : List α) (site : α → Site) (table : Values → Table String Code)
    (empty : table {} = []) (within : ∀ item ∈ items, (site item).extent.Within template)
    (steps : ∀ before item after done, items = before ++ item :: after →
      done.code.FilledFrom real (before.map fun item => (site item).extent) template →
      SiteStep real table done (site item) (fill done item)) :
    Decided real template (items.map site) (items.foldlM fill { code := template }) := by
  have run := Result.foldlM_decides fill items { code := template }
    (fun before done =>
      done.code.FilledFrom real (before.map fun item => (site item).extent) template ∧
      (∀ item ∈ before, (site item).extent.stop ≤ real.length) ∧
      Recorded real (table done.values) (before.map site))
    (fun failure => (∃ error, failure = .region error) ∧ ¬ real.Fills (items.map site))
    ⟨.start template real, by simp, by rw [empty]; exact .start real⟩ ?_
  · rcases run with ⟨final, filled, code, reaches, recorded⟩ | refused
    · refine .inl ⟨final, filled, ?_, ?_, recorded.oneText⟩
      · rw [List.map_map]
        exact code
      · intro other member
        obtain ⟨item, present, rfl⟩ := List.mem_map.mp member
        exact reaches item present
    · exact .inr refused
  intro before item after done parts ⟨code, reaches, recorded⟩
  have present : item ∈ items := by simp [parts]
  have holds := within item present
  rcases steps before item after done parts code with
    ⟨next, stepped, ⟨ends, free⟩, written, row⟩ | ⟨failure, failed, region, unready⟩
  · refine .inl ⟨next, stepped, ?_, ?_, ?_⟩
    · rw [written, List.map_append]
      exact code.splice holds.regular holds.stop ends
    · intro other member
      rcases List.mem_append.mp member with earlier | last
      · exact reaches other earlier
      · rw [List.mem_singleton.mp last]
        exact ends
    · rw [row, List.map_append]
      exact recorded.put (site item) free
  · refine .inr ⟨failure, failed, region, fun fills => unready ⟨?_, ?_⟩⟩
    · exact fills.reaches (site item) (List.mem_map_of_mem present)
    · have one_text := fills.oneText
      rw [parts, List.map_append, List.map_cons] at one_text
      exact recorded.conflict?_eq_none one_text

/-- A slot that holds a placeholder is filled with the deployed address or cannot be. -/
theorem fillLibrary_step {slot : LibrarySlot} {done : Extraction} (bears : real.Marked)
    (regular : slot.extent.Regular)
    (held : done.code.textIn slot.extent ∈ Placeholder.accepted slot.name) :
    SiteStep real Values.libraries done slot.site (fillLibrary real slot done) := by
  cases stepped : fillLibrary real slot done with
  | ok next =>
    obtain ⟨-, address, taken, free, rfl⟩ := fillLibrary_eq_ok.mp stepped
    obtain ⟨ends, rfl⟩ := stop_le_of_deployed bears regular taken
    have spliced := Code.overwrite_textIn done.code regular ends
    exact .inl ⟨_, rfl, ⟨ends, free⟩, spliced, rfl⟩
  | error failure =>
    refine .inr ⟨failure, rfl, fillLibrary_eq_error held stepped, fun ⟨ends, free⟩ => ?_⟩
    have taken := deployed_eq_ok bears (.library slot.name) regular ends
    have well : ∃ next, fillLibrary real slot done = .ok next :=
      ⟨_, fillLibrary_eq_ok.mpr ⟨held, real.textIn slot.extent, taken, free, rfl⟩⟩
    simp [stepped] at well

/-- Filling a slot changes that slot and nothing else. -/
theorem unchangedOutside_of_fillLibrary {slots : List LibrarySlot} {slot : LibrarySlot}
    {done next : Extraction} (bears : real.Marked) (regular : slot.extent.Regular)
    (unchanged : done.code.UnchangedOutside (slots.map LibrarySlot.extent) template)
    (filled : fillLibrary real slot done = .ok next) :
    next.code.UnchangedOutside ((slots ++ [slot]).map LibrarySlot.extent) template := by
  obtain ⟨accepted, address, taken, -, rfl⟩ := fillLibrary_eq_ok.mp filled
  have fits : address.length = slot.extent.stop - slot.extent.first :=
    length_of_deployed bears regular taken
  have begins : slot.extent.first ≤ done.code.length :=
    Code.first_le_length_of_region_ne_nil regular (Placeholder.ne_nil_of_mem_accepted accepted)
  have spliced := unchanged.splice regular fits begins
  rw [← Code.overwrite_eq_splice done.code regular fits] at spliced
  rw [List.map_append]
  exact spliced

/-- A slot of an immutable is filled in place with the deployed value or cannot be. -/
theorem fillImmutable_step {slot : ImmutableSlot} {done : Extraction} (bears : real.Marked)
    (regular : slot.extent.Regular) :
    SiteStep real Values.immutables done slot.site (fillImmutable real .replace slot done) := by
  cases stepped : fillImmutable real .replace slot done with
  | ok next =>
    obtain ⟨value, taken, free, rfl⟩ := fillImmutable_eq_ok.mp stepped
    obtain ⟨ends, rfl⟩ := stop_le_of_deployed bears regular taken
    have spliced := Code.overwrite_textIn done.code regular ends
    exact .inl ⟨_, rfl, ⟨ends, free⟩, spliced, rfl⟩
  | error failure =>
    refine .inr ⟨failure, rfl, fillImmutable_eq_error stepped, fun ⟨ends, free⟩ => ?_⟩
    have taken := deployed_eq_ok bears (.immutable slot.id) regular ends
    have well : ∃ next, fillImmutable real .replace slot done = .ok next :=
      ⟨_, fillImmutable_eq_ok.mpr ⟨real.textIn slot.extent, taken, free, rfl⟩⟩
    simp [stepped] at well

/-- A template whose slots of libraries are filled has the deployed characters in the slots and its own
everywhere else. -/
theorem fillLibraries_filledFrom {slots : List LibrarySlot} {after : Extraction}
    (bears : real.Marked) (within : ∀ slot ∈ slots, slot.extent.Within template)
    (filled : fillLibraries real { code := template } slots = .ok after) :
    after.code.FilledFrom real (slots.map LibrarySlot.extent) template := by
  rw [fillLibraries_eq_foldlM] at filled
  refine Result.foldlM_induction
    (motive := fun before done =>
      done.code.FilledFrom real (before.map LibrarySlot.extent) template) filled
    (.start template real) ?_
  intro before slot rest done next parts code stepped
  have holds := within slot (by simp [parts])
  have regular := holds.regular
  obtain ⟨-, address, taken, -, rfl⟩ := fillLibrary_eq_ok.mp stepped
  obtain ⟨ends, rfl⟩ := stop_le_of_deployed bears regular taken
  have spliced := code.splice regular holds.stop ends
  rw [← Code.overwrite_textIn done.code regular ends] at spliced
  rw [List.map_append]
  exact spliced

/-- Slots of libraries that hold placeholders and are apart are filled, or one is reported that
cannot be. -/
theorem fillLibraries_decides {slots : List LibrarySlot} (bears : real.Marked)
    (within : ∀ slot ∈ slots, slot.extent.Within template)
    (placeholders : ∀ slot ∈ slots, template.textIn slot.extent ∈ Placeholder.accepted slot.name)
    (apart : slots.Pairwise fun one other => one.extent.Apart other.extent) :
    Decided real template (slots.map LibrarySlot.site)
      (fillLibraries real { code := template } slots) := by
  rw [fillLibraries_eq_foldlM]
  refine decided_of_steps _ slots LibrarySlot.site Values.libraries rfl within ?_
  intro before slot after done parts code
  have present : slot ∈ slots := by simp [parts]
  have regular := (within slot present).regular
  -- No slot filled before meets this one, so it still holds its placeholder.
  have free : done.code.textIn slot.extent = template.textIn slot.extent := by
    refine code.textIn_eq regular ?_ ?_
    · intro extent member
      obtain ⟨other, earlier, rfl⟩ := List.mem_map.mp member
      exact (within other (by simp [parts, earlier])).regular
    · intro extent member
      obtain ⟨other, earlier, rfl⟩ := List.mem_map.mp member
      rw [parts] at apart
      exact ((List.pairwise_append.mp apart).2.2 other earlier slot (by simp)).symm
  exact fillLibrary_step bears regular (free ▸ placeholders slot present)

/-- Slots of immutables are filled in place, or one is reported that cannot be. -/
theorem fillImmutables_decides {slots : List ImmutableSlot} (bears : real.Marked)
    (marked : template.Marked) (inside : ∀ slot ∈ slots, slot.extent.Inside template) :
    Decided real template (slots.map ImmutableSlot.site)
      (fillImmutables real .replace { code := template } slots) := by
  rw [fillImmutables_eq_foldlM]
  refine decided_of_steps _ slots ImmutableSlot.site Values.immutables rfl
    (fun slot present => (inside slot present).within marked) ?_
  intro before slot after done parts _
  exact fillImmutable_step bears (inside slot (by simp [parts])).regular

/-- A template whose slots of immutables are filled in place has the deployed characters in the slots
and its own everywhere else. -/
theorem fillImmutables_filledFrom {slots : List ImmutableSlot} {after : Extraction}
    (bears : real.Marked) (marked : template.Marked)
    (inside : ∀ slot ∈ slots, slot.extent.Inside template)
    (filled : fillImmutables real .replace { code := template } slots = .ok after) :
    after.code.FilledFrom real (slots.map ImmutableSlot.extent) template := by
  rcases fillImmutables_decides bears marked inside with ⟨found, same, code, -⟩ | ⟨_, failed, -⟩
  · obtain rfl := Except.ok.inj (filled.symm.trans same)
    rw [List.map_map] at code
    exact code
  · rw [filled] at failed
    contradiction

/-- Auxdatas are taken over and the deployed code reaches to the end of each, or it ends before the
end of one. -/
theorem fillAuxdatas_reaches {places : AuxdataPositions} (bears : real.Marked)
    (marked : template.Marked) (inside : ∀ place ∈ places, place.2.extent.Inside template) :
    (∃ after, fillAuxdatas real { code := template } places = .ok after ∧
      after.code.FilledFrom real (places.map fun place => place.2.extent) template ∧
      ∀ place ∈ places, place.2.extent.stop ≤ real.length) ∨
    ∃ failure, fillAuxdatas real { code := template } places = .error failure ∧
      (∃ error, failure = .region error) ∧
      ∃ place ∈ places, real.length < place.2.extent.stop := by
  rw [fillAuxdatas_eq_foldlM]
  let start : Extraction := { code := template }
  refine Result.foldlM_decides (fun done place => fillAuxdata real place.1 place.2 done) places start
    (fun before done =>
      done.code.FilledFrom real (before.map fun place => place.2.extent) template ∧
      ∀ place ∈ before, place.2.extent.stop ≤ real.length)
    (fun failure => (∃ error, failure = .region error) ∧
      ∃ place ∈ places, real.length < place.2.extent.stop)
    ⟨.start template real, by simp⟩ ?_
  rintro before ⟨id, place⟩ after done parts ⟨code, reaches⟩
  have listed : (id, place) ∈ places := by simp [parts]
  have holds := inside (id, place) listed
  have regular := holds.regular
  cases stepped : fillAuxdata real id place done with
  | ok next =>
    obtain ⟨value, taken, rfl⟩ := fillAuxdata_eq_ok.mp stepped
    obtain ⟨ends, rfl⟩ := stop_le_of_deployed bears regular taken
    have spliced := code.splice regular (holds.stop_le marked) ends
    refine .inl ⟨_, rfl, ?_, fun other present => ?_⟩
    · rw [List.map_append]
      exact spliced
    · rcases List.mem_append.mp present with earlier | last
      · exact reaches other earlier
      · rw [List.mem_singleton.mp last]
        exact ends
  | error failure =>
    refine .inr ⟨failure, rfl, fillAuxdata_eq_error stepped, (id, place), listed, ?_⟩
    refine Nat.not_le.mp fun ends => ?_
    have taken := deployed_eq_ok bears (.auxdata id) regular ends
    have well : ∃ next, fillAuxdata real id place done = .ok next :=
      ⟨_, fillAuxdata_eq_ok.mpr ⟨real.textIn place.extent, taken, rfl⟩⟩
    simp [stepped] at well

/-- Auxdatas are taken over, or the deployed code is shorter than the template. -/
theorem fillAuxdatas_decides {places : AuxdataPositions} (bears : real.Marked)
    (marked : template.Marked) (inside : ∀ place ∈ places, place.2.extent.Inside template) :
    (∃ after, fillAuxdatas real { code := template } places = .ok after ∧
      after.code.FilledFrom real (places.map fun place => place.2.extent) template) ∨
    ∃ failure, fillAuxdatas real { code := template } places = .error failure ∧
      (∃ error, failure = .region error) ∧ real.length < template.length := by
  rcases fillAuxdatas_reaches bears marked inside with
    ⟨after, filled, code, -⟩ | ⟨failure, failed, region, place, listed, past⟩
  · exact .inl ⟨after, filled, code⟩
  · have stop := (inside place listed).stop_le marked
    exact .inr ⟨failure, failed, region, Nat.lt_of_lt_of_le past stop⟩

end Extraction

end Attest
