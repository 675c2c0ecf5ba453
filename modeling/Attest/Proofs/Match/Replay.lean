import Attest.Proofs.Extraction.Linked
import Attest.Proofs.Extraction.Record
import Attest.Proofs.Match.Stage

/-!
# Replaying a match

The transformations of a code that matches, replayed over the template with the values of the match,
give the deployed code in its normal form, and so does the filled template.
-/
namespace Attest

namespace Values

/-- The values of libraries and of immutables recorded apart are one record. -/
theorem merge_immutables {libraries immutables : Table String Code}
    (distinct : immutables.Distinct) :
    Values.merge { libraries } { immutables } = { libraries, immutables } := by
  simp only [merge, prefer, Table.merge_nil_right, Table.merge_nil_left distinct]

/-- The values of auxdatas recorded apart from those of libraries and immutables are one record with
them. -/
theorem merge_auxdatas {libraries immutables auxdatas : Table String Code}
    (distinct : auxdatas.Distinct) :
    Values.merge { libraries, immutables } { auxdatas } = { libraries, immutables, auxdatas } := by
  simp only [merge, prefer, Table.merge_nil_right, Table.merge_nil_left distinct]

/-- An address of call protection and other values recorded apart are one record. -/
theorem merge_callProtection {address : Option Code} {values : Values}
    (free : values.callProtection = none) (plain : values.constructorArguments = none)
    (distinct_libraries : values.libraries.Distinct)
    (distinct_immutables : values.immutables.Distinct)
    (distinct_auxdatas : values.auxdatas.Distinct) :
    Values.merge { callProtection := address } values =
      { values with callProtection := address } := by
  simp only [merge, prefer, free, plain, Table.merge_nil_left distinct_libraries,
    Table.merge_nil_left distinct_immutables, Table.merge_nil_left distinct_auxdatas]

end Values

namespace Extraction

/-- Taking auxdatas over leaves whole bytes, and no fewer characters. -/
theorem fillAuxdatas_even {real template : Code} {places : AuxdataPositions} {after : Extraction}
    (bears : real.Marked) (regular : ∀ place ∈ places, place.2.extent.Regular)
    (filled : fillAuxdatas real { code := template } places = .ok after)
    (even : template.length % 2 = 0) :
    after.code.length % 2 = 0 ∧ template.length ≤ after.code.length := by
  rw [fillAuxdatas_eq_foldlM] at filled
  refine Result.foldlM_induction
    (motive := fun _ done => done.code.length % 2 = 0 ∧ template.length ≤ done.code.length) filled
    ⟨even, Nat.le_refl _⟩ ?_
  rintro before ⟨id, place⟩ rest done next parts ⟨even_done, longer⟩ stepped
  obtain ⟨value, taken, rfl⟩ := fillAuxdata_eq_ok.mp stepped
  have counts := regular (id, place) (by simp [parts])
  have fits : value.length = place.extent.stop - place.extent.first :=
    length_of_deployed bears counts taken
  have ends := counts.stop_eq
  have start := counts.position_start
  rw [Code.position] at start
  have spliced := Code.splice_eq done.code value counts
  simp only [AuxdataPosition.extent] at spliced
  simp only [spliced, List.length_append, List.length_take, List.length_drop]
  simp only [AuxdataPosition.extent] at fits ends start
  omega

end Extraction

namespace Match

/-- What a compiler promises of the bytecode that a match is made from and of its parts: whole bytes
behind the mark, small letters outside the slots of libraries, slots that count upwards, and auxdatas
that do not begin before the mark and of which no two have one id. -/
structure Recompiled (template : Code) (libraries : Listing LibrarySlot)
    (positions : AuxdataPositions) : Prop where
  /-- The template bears the mark. -/
  marked : template.Marked
  /-- The template has whole bytes. -/
  whole : template.length % 2 = 0
  /-- The template is small outside the slots of libraries. -/
  small : template.SmallOutside (libraries.entries.map LibrarySlot.extent)
  /-- The slots of libraries count upwards. -/
  slots : ∀ slot ∈ libraries.entries, slot.extent.Nonneg
  /-- No two auxdatas have one id. -/
  distinct : positions.Distinct
  /-- The auxdatas do not begin before the mark. -/
  places : ∀ place ∈ positions, place.2.extent.Regular

instance (template : Code) (libraries : Listing LibrarySlot) (positions : AuxdataPositions) :
    Decidable (Recompiled template libraries positions) :=
  decidable_of_iff (template.Marked ∧ template.length % 2 = 0 ∧
      template.SmallOutside (libraries.entries.map LibrarySlot.extent) ∧
      (∀ slot ∈ libraries.entries, slot.extent.Nonneg) ∧ (positions.map Prod.fst).Nodup ∧
      ∀ place ∈ positions, place.2.extent.Regular)
    ⟨fun ⟨marked, whole, small, slots, distinct, places⟩ =>
        ⟨marked, whole, small, slots, distinct, places⟩,
      fun recompiled => ⟨recompiled.marked, recompiled.whole, recompiled.small, recompiled.slots,
        recompiled.distinct, recompiled.places⟩⟩

variable {template real : Code} {libraries : Listing LibrarySlot}
  {positions : AuxdataPositions} {immutables : Listing ImmutableSlot} {style : AuxdataStyle}

/-- A compared code that matches has been filled from nothing or from auxdatas, and agrees with the
deployed code. -/
theorem compare_explained {kind : CodeKind} {linked compared : Match}
    (recompiled : Recompiled template libraries positions) (bears : real.Marked)
    (unmatched : linked.status = .differs)
    (compare : Match.compare kind linked real positions style = .ok compared)
    (matched : compared.status ≠ .differs) :
    ∃ third : Extraction, Extraction.Explained linked.code third ∧
      third.values = third.values.part .auxdata ∧ third.values.auxdatas.Distinct ∧
      agrees kind third.code real = true ∧
      compared = { linked.extend third with status := compared.status } ∧
      (linked.code.length % 2 = 0 →
        third.code.length % 2 = 0 ∧ linked.code.length ≤ third.code.length) := by
  rcases compare_eq_ok unmatched compare matched with
    ⟨same, written⟩ | ⟨third, taken, same, written⟩
  · let none_taken : Extraction := { code := linked.code }
    refine ⟨none_taken, Extraction.explained_start linked.code, rfl, List.nodup_nil, same, ?_,
      fun even => ⟨even, Nat.le_refl _⟩⟩
    rw [written]
    simp [extend, none_taken, Values.merge, Values.prefer]
  · obtain ⟨explained, alone, keys⟩ := Extraction.fillAuxdatas_explained
      bears recompiled.distinct recompiled.places taken
    refine ⟨third, explained, alone, ?_, same, ?_, Extraction.fillAuxdatas_even
      bears recompiled.places taken⟩
    · rw [Table.Distinct, keys]
      exact recompiled.distinct
    · rw [written]

/-- A linked code has been filled from libraries and then from immutables. -/
theorem linked_explained {linked : Match}
    (recompiled : Recompiled template libraries positions) (bears : real.Marked)
    (small : Text.Small real)
    (link : Match.linked template real libraries immutables style = .ok linked) :
    Transformation.Explain template linked.transformations linked.values linked.code ∧
      linked.values =
        { libraries := linked.values.libraries, immutables := linked.values.immutables } ∧
      linked.values.libraries.Distinct ∧ linked.values.immutables.Distinct ∧
      (immutables.entries = [] →
        linked.code.length % 2 = 0 ∧ 2 ≤ linked.code.length) := by
  obtain ⟨first, second, first_filled, second_filled, rfl⟩ := linked_eq_ok.mp link
  obtain ⟨-, first_filled⟩ := Extraction.libraries_eq_ok.mp first_filled
  obtain ⟨-, second_filled⟩ := Extraction.immutables_eq_ok.mp second_filled
  obtain ⟨marked, lowered, even⟩ := Extraction.fillLibraries_small bears small
    recompiled.marked recompiled.small recompiled.slots first_filled
  rw [Code.normalize_of_small marked lowered] at second_filled
  obtain ⟨explained, alone, distinct⟩ := Extraction.fillLibraries_explained first_filled
  obtain ⟨explained_second, alone_second, distinct_second⟩ :=
    Extraction.fillImmutables_explained second_filled
  have merged : first.values.merge second.values =
      { libraries := first.values.libraries, immutables := second.values.immutables } := by
    rw [alone, alone_second]
    exact Values.merge_immutables distinct_second
  simp only [merged]
  refine ⟨?_, trivial, distinct, distinct_second, ?_⟩
  · let whole : Values :=
      { libraries := first.values.libraries, immutables := second.values.immutables }
    refine explained.append explained_second ?_ ?_
    · rw [alone]
      exact whole.keeps_part .library
    · rw [alone_second]
      exact whole.keeps_part .immutable
  · intro none_listed
    rw [none_listed] at second_filled
    have same : second = { code := first.code } := (Except.ok.inj second_filled).symm
    rw [same]
    have length := marked.length_eq
    exact ⟨even recompiled.whole, by simp only; omega⟩

/-- A compared code that matches agrees with the deployed code, and its transformations lead to it
from the template. -/
theorem compared_explained {kind : CodeKind} {linked compared : Match}
    (recompiled : Recompiled template libraries positions) (bears : real.Marked)
    (small : Text.Small real)
    (link : Match.linked template real libraries immutables style = .ok linked)
    (compare : Match.compare kind linked real positions style = .ok compared)
    (matched : compared.status ≠ .differs) :
    agrees kind compared.code real = true ∧
      Transformation.Explain template compared.transformations compared.values compared.code ∧
      (∃ addresses values auxdatas : Table String Code, addresses.Distinct ∧ values.Distinct ∧
        auxdatas.Distinct ∧
        compared.values = { libraries := addresses, immutables := values, auxdatas }) ∧
      (immutables.entries = [] →
        compared.code.length % 2 = 0 ∧ 2 ≤ compared.code.length) := by
  obtain ⟨explained, parts, distinct, distinct_second, even⟩ :=
    linked_explained recompiled bears small link
  have unmatched : linked.status = .differs := by
    obtain ⟨_, _, -, -, rfl⟩ := linked_eq_ok.mp link
    rfl
  obtain ⟨third, explained_third, alone, distinct_third, same, written, even_third⟩ :=
    compare_explained recompiled bears unmatched compare matched
  have merged : linked.values.merge third.values = {
      libraries := linked.values.libraries
      immutables := linked.values.immutables
      auxdatas := third.values.auxdatas } := by
    rw [parts, alone]
    exact Values.merge_auxdatas distinct_third
  rw [written]
  simp only [extend, merged]
  refine ⟨same, ?_, ⟨_, _, _, distinct, distinct_second, distinct_third, rfl⟩, ?_⟩
  · let whole : Values := {
      libraries := linked.values.libraries
      immutables := linked.values.immutables
      auxdatas := third.values.auxdatas }
    refine explained.append explained_third ?_ ?_
    · rw [parts]
      refine whole.keeps_of_parts fun reason => ?_
      cases reason <;> simp [Values.part, whole]
    · rw [alone]
      exact whole.keeps_part .auxdata
  · intro none_listed
    have linked_even := even none_listed
    have third_even := even_third linked_even.1
    omega

end Match

end Attest
