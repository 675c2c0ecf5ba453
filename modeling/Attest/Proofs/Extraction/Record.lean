import Attest.Proofs.Code.Extent
import Attest.Proofs.Extraction.Step
import Attest.Proofs.Table

/-!
# The record of an extraction

An extraction writes values into a code and records each writing. Replaying the record over the
template writes the same values at the same places in the same order, so it ends in the same code
(`fillLibraries_explained`, `fillImmutables_explained`, `fillAuxdatas_explained`). The record looks
values up by id when it is replayed, after all are recorded: this gives what was written because a
value that is recorded is never replaced by another. A replay may therefore use any values that keep
those recorded, such as the values of several extractions together.
-/
namespace Attest

namespace Values

/-- The values of one reason alone. -/
def part (values : Values) : Reason → Values
  | .constructorArguments => { constructorArguments := values.constructorArguments }
  | .callProtection => { callProtection := values.callProtection }
  | .library => { libraries := values.libraries }
  | .immutable => { immutables := values.immutables }
  | .auxdata => { auxdatas := values.auxdatas }
  | .other _ => {}

/-- Values that give for every transformation what others give for it. -/
def Keeps (values others : Values) : Prop :=
  ∀ transformation value, others.lookup transformation = .ok value →
    values.lookup transformation = .ok value

/-- Values keep themselves. -/
theorem Keeps.refl (values : Values) : values.Keeps values := fun _ _ found => found

/-- Values keep what is kept by values that they keep. -/
theorem Keeps.trans {first second third : Values} (late : third.Keeps second)
    (early : second.Keeps first) : third.Keeps first :=
  fun transformation value found =>
    late transformation value (early transformation value found)

/-- A value is looked up among those of its reason alone. -/
theorem lookup_part (values : Values) (transformation : Transformation) :
    (values.part transformation.reason).lookup transformation = values.lookup transformation := by
  cases asked : transformation.reason <;> simp only [lookup, part, asked]

/-- Nothing is looked up where no value is recorded. -/
theorem lookup_empty (transformation : Transformation) (value : Code) :
    lookup {} transformation ≠ .ok value := by
  cases asked : transformation.reason <;> simp only [lookup, asked, given, ofId] <;>
    cases transformation.id <;> simp [Table.get?]

/-- Values keep others that have for each reason the same values or none. -/
theorem keeps_of_parts {values others : Values}
    (same : ∀ reason, others.part reason = values.part reason ∨ others.part reason = {}) :
    values.Keeps others := by
  intro transformation value found
  rw [← lookup_part] at found ⊢
  rcases same transformation.reason with equal | empty
  · rw [← equal]
    exact found
  · rw [empty] at found
    exact absurd found (lookup_empty transformation value)

/-- Values keep the values of each reason alone. -/
theorem keeps_part (values : Values) (reason : Reason) : values.Keeps (values.part reason) := by
  refine keeps_of_parts fun asked => ?_
  cases reason <;> cases asked <;> simp [part]

/-- The table of the values of a reason. -/
def table (values : Values) : Reason → Table String Code
  | .library => values.libraries
  | .immutable => values.immutables
  | .auxdata => values.auxdatas
  | _ => []

/-- Values with one more value for an id. -/
def put (values : Values) (reason : Reason) (id : String) (value : Code) : Values :=
  match reason with
  | .library => { values with libraries := values.libraries.put id value }
  | .immutable => { values with immutables := values.immutables.put id value }
  | .auxdata => { values with auxdatas := values.auxdatas.put id value }
  | _ => values

/-- The value of an id is not changed by writing a value that is in no conflict. -/
theorem ofId_put {table : Table String Code} {id : String} {value : Code}
    (free : Extraction.conflict? table id value = none) {asked : Option String} {found : Code}
    (held : ofId table asked = .ok found) : ofId (table.put id value) asked = .ok found := by
  cases asked with
  | none => simp [ofId] at held
  | some asked =>
    simp only [ofId, Option.bind_some] at held ⊢
    cases row : table.get? asked with
    | none => simp [row] at held
    | some old =>
      rw [row, Except.ok.injEq] at held
      rw [Table.get?_put]
      by_cases same : id = asked
      · rw [if_pos same]
        have equal := Extraction.conflict?_eq_none_iff.mp free old (same ▸ row)
        rw [← held, equal]
      · rw [if_neg same, row, held]

/-- Writing a value that is in no conflict keeps the values. -/
theorem keeps_put {values : Values} (reason : Reason) {id : String} {value : Code}
    (free : Extraction.conflict? (values.table reason) id value = none) :
    (values.put reason id value).Keeps values := by
  rintro ⟨action, asked, offset, key⟩ found held
  -- Only the table of the reason itself is written; the values of all others are looked up as before.
  cases reason with
  | library =>
    cases asked with
    | library => exact ofId_put free held
    | _ => exact held
  | immutable =>
    cases asked with
    | immutable => exact ofId_put free held
    | _ => exact held
  | auxdata =>
    cases asked with
    | auxdata => exact ofId_put free held
    | _ => exact held
  | _ => exact held

/-- A value that has just been written is looked up by its id. -/
theorem lookup_put {values : Values} (action : Action) {reason : Reason} (offset : Int)
    {id : String} {value : Code}
    (tabled : reason = .library ∨ reason = .immutable ∨ reason = .auxdata) :
    (values.put reason id value).lookup ⟨action, reason, offset, some id⟩ = .ok value := by
  rcases tabled with rfl | rfl | rfl <;> simp [put, lookup, ofId, Table.get?_put]

end Values

namespace Transformation

/-- Transformations that lead from one code to another with any values that keep those given. -/
def Explain (template : Code) (transformations : List Transformation) (values : Values)
    (code : Code) : Prop :=
  ∀ kept : Values, kept.Keeps values → replayOn kept template transformations = .ok code

/-- No transformation leads from a code to itself. -/
theorem explain_nil (template : Code) (values : Values) : Explain template [] values template :=
  fun _ _ => rfl

/-- One more transformation writes its value. -/
theorem Explain.write {template code value : Code} {transformations : List Transformation}
    {values later : Values} (explained : Explain template transformations values code)
    (keeps : later.Keeps values) (transformation : Transformation)
    (recorded : later.lookup transformation = .ok (Code.marked value)) :
    Explain template (transformations ++ [transformation]) later
      (transformation.write code value) := by
  intro kept keep
  rw [replayOn_append, explained kept (keep.trans keeps)]
  simp only [Except.bind, replayOn, keep _ _ recorded]
  rfl

/-- Transformations that lead to a code and others that lead on from it. -/
theorem Explain.append {template middle code : Code} {first second : List Transformation}
    {early late : Values} (begun : Explain template first early middle)
    (ended : Explain middle second late code) {values : Values} (keeps_early : values.Keeps early)
    (keeps_late : values.Keeps late) : Explain template (first ++ second) values code := by
  intro kept keep
  rw [replayOn_append, begun kept (keep.trans keeps_early)]
  exact ended kept (keep.trans keeps_late)

/-- Replaying transformations over a marked code, with the values recorded, leads where they lead. -/
theorem Explain.replay {template code : Code} {transformations : List Transformation}
    {values : Values} (explained : Explain template transformations values code)
    (bears : template.Marked) : replay template transformations values = .ok code := by
  rw [Transformation.replay, bears.marked_body]
  exact explained values (Values.Keeps.refl values)

end Transformation

namespace Extraction

/-- What an extraction has recorded leads from its template to its code. -/
def Explained (template : Code) (done : Extraction) : Prop :=
  Transformation.Explain template done.transformations done.values done.code

/-- A template from which nothing was filled. -/
theorem explained_start (template : Code) : Explained template { code := template } :=
  Transformation.explain_nil template {}

/-- The slots of libraries are filled as recorded, and only values of libraries are recorded. -/
theorem fillLibraries_explained {real template : Code} {slots : List LibrarySlot}
    {after : Extraction} (filled : fillLibraries real { code := template } slots = .ok after) :
    Explained template after ∧ after.values = after.values.part .library ∧
      after.values.libraries.Distinct := by
  rw [fillLibraries_eq_foldlM] at filled
  refine Result.foldlM_induction
    (motive := fun _ done => Explained template done ∧ done.values = done.values.part .library ∧
      done.values.libraries.Distinct) filled
    ⟨explained_start template, rfl, List.nodup_nil⟩ ?_
  rintro before slot rest done next - ⟨explained, alone, distinct⟩ stepped
  obtain ⟨-, address, -, free, rfl⟩ := fillLibrary_eq_ok.mp stepped
  refine ⟨?_, ?_, distinct.put _ _⟩
  · exact explained.write (Values.keeps_put .library free)
      ⟨.replace, .library, slot.start, some slot.name⟩
      (Values.lookup_put .replace slot.start (.inl rfl))
  · rw [alone]
    rfl

/-- The slots of immutables are filled as recorded, and only values of immutables are recorded. -/
theorem fillImmutables_explained {real template : Code} {action : Action}
    {slots : List ImmutableSlot} {after : Extraction}
    (filled : fillImmutables real action { code := template } slots = .ok after) :
    Explained template after ∧ after.values = after.values.part .immutable ∧
      after.values.immutables.Distinct := by
  rw [fillImmutables_eq_foldlM] at filled
  refine Result.foldlM_induction
    (motive := fun _ done => Explained template done ∧ done.values = done.values.part .immutable ∧
      done.values.immutables.Distinct) filled
    ⟨explained_start template, rfl, List.nodup_nil⟩ ?_
  rintro before slot rest done next - ⟨explained, alone, distinct⟩ stepped
  obtain ⟨value, -, free, rfl⟩ := fillImmutable_eq_ok.mp stepped
  refine ⟨?_, ?_, distinct.put _ _⟩
  · exact explained.write (Values.keeps_put .immutable free)
      ⟨action, .immutable, slot.start, some slot.id⟩
      (Values.lookup_put action slot.start (.inr (.inl rfl)))
  · rw [alone]
    rfl

/-- Taking an auxdata over writes it over as many bytes. -/
theorem write_auxdata {real : Code} {id : String} {place : AuxdataPosition} {value : Code}
    (bears : real.Marked) (regular : place.extent.Regular)
    (taken : deployed real (.auxdata id) place.offset place.value.byteLength = .ok value)
    (code : Code) :
    Transformation.write ⟨.replace, .auxdata, place.offset, some id⟩ code value =
      Code.splice code place.offset value place.value.byteLength := by
  obtain ⟨same, reaches⟩ := eq_region_of_deployed taken
  have fits : value.length = place.extent.stop - place.extent.first := by
    rw [same]
    exact Code.length_region regular ((regular.stop_le_iff bears).mpr reaches)
  have whole := Code.overwrite_eq_splice code regular fits
  exact whole

/-- Auxdatas are taken over as recorded, and only values of auxdatas are recorded. -/
theorem fillAuxdatas_explained {real template : Code} {places : AuxdataPositions}
    {after : Extraction} (bears : real.Marked) (distinct : places.Distinct)
    (regular : ∀ place ∈ places, place.2.extent.Regular)
    (filled : fillAuxdatas real { code := template } places = .ok after) :
    Explained template after ∧ after.values = after.values.part .auxdata ∧
      after.values.auxdatas.map Prod.fst = places.map Prod.fst := by
  rw [fillAuxdatas_eq_foldlM] at filled
  refine Result.foldlM_induction
    (motive := fun before done => Explained template done ∧
      done.values = done.values.part .auxdata ∧
      done.values.auxdatas.map Prod.fst = before.map Prod.fst) filled
    ⟨explained_start template, rfl, rfl⟩ ?_
  rintro before ⟨id, place⟩ rest done next parts ⟨explained, alone, keys⟩ stepped
  obtain ⟨value, taken, rfl⟩ := fillAuxdata_eq_ok.mp stepped
  have member : (id, place) ∈ places := by simp [parts]
  have absent : id ∉ done.values.auxdatas.map Prod.fst := by
    have apart : (before.map Prod.fst ++ id :: rest.map Prod.fst).Nodup := by
      simpa [Table.Distinct, parts] using distinct
    rw [keys]
    intro found
    exact (List.nodup_append.mp apart).2.2 _ found _ List.mem_cons_self rfl
  have free : conflict? done.values.auxdatas id (Code.marked value) = none := by
    rw [conflict?, Table.get?_eq_none_iff.mpr absent]
    rfl
  refine ⟨?_, ?_, ?_⟩
  · have written := explained.write (Values.keeps_put .auxdata free)
      ⟨.replace, .auxdata, place.offset, some id⟩
      (Values.lookup_put .replace place.offset (.inr (.inr rfl)))
    rw [write_auxdata bears (regular _ member) taken] at written
    exact written
  · rw [alone]
    rfl
  · rw [Table.put_of_absent absent, List.map_append, keys, List.map_append]
    rfl

/-- A run whose every step records one transformation records one for each item, in order. -/
theorem transformations_of_steps {α : Type} {fill : Extraction → α → Except Failure Extraction}
    {items : List α} {template : Code} {after : Extraction} (entry : α → Transformation)
    (steps : ∀ item done next, fill done item = .ok next →
      next.transformations = done.transformations ++ [entry item])
    (filled : items.foldlM fill { code := template } = .ok after) :
    after.transformations = items.map entry := by
  refine Result.foldlM_induction
    (motive := fun before done => done.transformations = before.map entry) filled rfl ?_
  intro before item rest done next _ recorded stepped
  rw [steps item done next stepped, recorded, List.map_append]
  rfl

/-- Each slot of a library that is filled is recorded. -/
theorem fillLibraries_transformations {real template : Code} {slots : List LibrarySlot}
    {after : Extraction} (filled : fillLibraries real { code := template } slots = .ok after) :
    after.transformations =
      slots.map fun slot => ⟨.replace, .library, slot.start, some slot.name⟩ := by
  rw [fillLibraries_eq_foldlM] at filled
  refine transformations_of_steps _ (fun slot done next stepped => ?_) filled
  obtain ⟨-, address, -, -, rfl⟩ := fillLibrary_eq_ok.mp stepped
  rfl

/-- Each slot of an immutable that is filled is recorded. -/
theorem fillImmutables_transformations {real template : Code} {action : Action}
    {slots : List ImmutableSlot} {after : Extraction}
    (filled : fillImmutables real action { code := template } slots = .ok after) :
    after.transformations =
      slots.map fun slot => ⟨action, .immutable, slot.start, some slot.id⟩ := by
  rw [fillImmutables_eq_foldlM] at filled
  refine transformations_of_steps _ (fun slot done next stepped => ?_) filled
  obtain ⟨value, -, -, rfl⟩ := fillImmutable_eq_ok.mp stepped
  rfl

/-- Each auxdata that is taken over is recorded. -/
theorem fillAuxdatas_transformations {real template : Code} {places : AuxdataPositions}
    {after : Extraction} (filled : fillAuxdatas real { code := template } places = .ok after) :
    after.transformations =
      places.map fun place => ⟨.replace, .auxdata, place.2.offset, some place.1⟩ := by
  rw [fillAuxdatas_eq_foldlM] at filled
  refine transformations_of_steps _ (fun place done next stepped => ?_) filled
  obtain ⟨value, -, rfl⟩ := fillAuxdata_eq_ok.mp stepped
  rfl

end Extraction

end Attest
