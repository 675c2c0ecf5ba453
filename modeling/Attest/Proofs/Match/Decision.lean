import Attest.Proofs.Match.Agreement
import Attest.Proofs.Match.Stage

/-!
# Matching decides correspondence

Where the parts of a template lie inside it and slots of libraries hold placeholders, a match never
fails for want of a part, and it comes out as one exactly if the deployed code corresponds to the
template (`compared_decides`). The auxdatas may be taken over or not: a code that agrees already is
not changed by them.
-/
namespace Attest

namespace Extraction

/-- A complete listing of slots of libraries is filled slot by slot. -/
theorem libraries_of_complete {template real : Code} {slots : Listing LibrarySlot}
    (complete : slots.fault = none) :
    libraries template real slots = fillLibraries real { code := template } slots.entries := by
  rw [libraries]
  cases fillLibraries real { code := template } slots.entries with
  | error failure => rfl
  | ok after => simp [bind, Except.bind, Listing.settle, complete]

/-- A complete listing of slots of immutables is filled slot by slot. -/
theorem immutables_of_complete {template real : Code} {slots : Listing ImmutableSlot}
    {style : AuxdataStyle} (complete : slots.fault = none) :
    immutables template real slots style =
      fillImmutables real style.immutableAction { code := template } slots.entries := by
  rw [immutables]
  cases fillImmutables real style.immutableAction { code := template } slots.entries with
  | error failure => rfl
  | ok after => simp [bind, Except.bind, Listing.settle, complete]

end Extraction

namespace Match

variable {template real : Code} {libraries : Listing LibrarySlot} {positions : AuxdataPositions}
  {immutables : Listing ImmutableSlot} {style : AuxdataStyle} {kind : CodeKind}

/-- The parts of a template are where references and positions place them: listings without a fault,
parts inside the template, and slots of libraries that hold placeholders and are apart. -/
structure Laid (template : Code) (libraries : Listing LibrarySlot) (positions : AuxdataPositions)
    (immutables : Listing ImmutableSlot) : Prop where
  /-- The template bears the mark. -/
  marked : template.Marked
  /-- The template has no capital dotted I outside the slots of libraries. -/
  plain : template.PlainOutside (libraries.entries.map LibrarySlot.extent)
  /-- All slots of libraries are listed. -/
  libraries_listed : libraries.fault = none
  /-- All slots of immutables are listed. -/
  immutables_listed : immutables.fault = none
  /-- The slots of libraries lie inside the template. -/
  slots : ∀ slot ∈ libraries.entries, slot.extent.Inside template
  /-- The slots of libraries hold placeholders. -/
  placeholders : ∀ slot ∈ libraries.entries,
    template.textIn slot.extent ∈ Placeholder.accepted slot.name
  /-- No two slots of libraries overlap. -/
  apart : libraries.entries.Pairwise fun one other => one.extent.Apart other.extent
  /-- The slots of immutables lie inside the template. -/
  immutables : ∀ slot ∈ immutables.entries, slot.extent.Inside template
  /-- The auxdatas lie inside the template. -/
  places : ∀ place ∈ positions, place.2.extent.Inside template

instance (template : Code) (libraries : Listing LibrarySlot) (positions : AuxdataPositions)
    (immutables : Listing ImmutableSlot) :
    Decidable (Laid template libraries positions immutables) :=
  decidable_of_iff (template.Marked ∧
      template.PlainOutside (libraries.entries.map LibrarySlot.extent) ∧
      libraries.fault = none ∧ immutables.fault = none ∧
      (∀ slot ∈ libraries.entries, slot.extent.Inside template) ∧
      (∀ slot ∈ libraries.entries,
        template.textIn slot.extent ∈ Placeholder.accepted slot.name) ∧
      (libraries.entries.Pairwise fun one other => one.extent.Apart other.extent) ∧
      (∀ slot ∈ immutables.entries, slot.extent.Inside template) ∧
      ∀ place ∈ positions, place.2.extent.Inside template)
    ⟨fun ⟨marked, plain, listed, listed_values, slots, placeholders, apart, values, places⟩ =>
        ⟨marked, plain, listed, listed_values, slots, placeholders, apart, values, places⟩,
      fun laid => ⟨laid.marked, laid.plain, laid.libraries_listed, laid.immutables_listed,
        laid.slots, laid.placeholders, laid.apart, laid.immutables, laid.places⟩⟩

/-- The parts of a template are where references and positions place them, whatever the template has
outside them and whether it bears the mark or not. -/
structure Placed (template : Code) (libraries : Listing LibrarySlot) (positions : AuxdataPositions)
    (immutables : Listing ImmutableSlot) : Prop where
  /-- All slots of libraries are listed. -/
  libraries_listed : libraries.fault = none
  /-- All slots of immutables are listed. -/
  immutables_listed : immutables.fault = none
  /-- The slots of libraries lie inside the template with all their characters. -/
  slots : ∀ slot ∈ libraries.entries, slot.extent.Within template
  /-- The slots of libraries hold placeholders. -/
  placeholders : ∀ slot ∈ libraries.entries,
    template.textIn slot.extent ∈ Placeholder.accepted slot.name
  /-- No two slots of libraries overlap. -/
  apart : libraries.entries.Pairwise fun one other => one.extent.Apart other.extent
  /-- The slots of immutables lie inside the template. -/
  immutables : ∀ slot ∈ immutables.entries, slot.extent.Inside template
  /-- The auxdatas lie inside the template. -/
  places : ∀ place ∈ positions, place.2.extent.Inside template

/-- Parts that are laid are placed. -/
theorem Laid.placed (laid : Laid template libraries positions immutables) :
    Placed template libraries positions immutables :=
  ⟨laid.libraries_listed, laid.immutables_listed,
    fun slot member => (laid.slots slot member).within laid.marked, laid.placeholders, laid.apart,
    laid.immutables, laid.places⟩

/-- Auxdatas that can be read, or of which it is known why they cannot. -/
def Readable (style : AuxdataStyle) (positions : AuxdataPositions) : Prop :=
  ∀ place ∈ positions, ∀ failure, Contents.decode place.2.value style = .error failure →
    ∃ error, failure = .auxdata error

/-- Whether a reading ended well or for a reason that lies in the auxdata. -/
def explains (result : Except Failure Contents) : Bool :=
  match result with
  | .ok _ => true
  | .error (.auxdata _) => true
  | .error _ => false

instance (style : AuxdataStyle) (positions : AuxdataPositions) :
    Decidable (Readable style positions) :=
  decidable_of_iff (∀ place ∈ positions, explains (Contents.decode place.2.value style) = true) <| by
    refine forall_congr' fun place => forall_congr' fun _ => ?_
    cases Contents.decode place.2.value style with
    | ok contents => simp [explains]
    | error failure => cases failure <;> simp [explains]

/-- All auxdatas prove the metadata exactly if each does. -/
theorem allProve_eq_true_iff : allProve style positions = .ok true ↔
    ∀ place ∈ positions, provesMetadata style place.2.value = .ok true := by
  induction positions with
  | nil => simp [allProve]
  | cons place rest inductive_hypothesis =>
    rw [List.forall_mem_cons, ← inductive_hypothesis, allProve]
    cases provesMetadata style place.2.value with
    | error failure => simp [bind, Except.bind]
    | ok proves => cases proves <;> simp [bind, Except.bind, pure, Except.pure]

/-- The reading of readable auxdatas says whether all prove the metadata. -/
theorem allProve_eq_ok (readable : Readable style positions) :
    ∃ proves, allProve style positions = .ok proves := by
  induction positions with
  | nil => exact ⟨true, rfl⟩
  | cons place rest inductive_hypothesis =>
    obtain ⟨later, proved⟩ :=
      inductive_hypothesis fun other member => readable other (List.mem_cons_of_mem _ member)
    have first : ∃ proves, provesMetadata style place.2.value = .ok proves := by
      rw [provesMetadata]
      cases decoded : Contents.decode place.2.value style with
      | ok contents => exact ⟨_, rfl⟩
      | error failure =>
        obtain ⟨error, rfl⟩ := readable place List.mem_cons_self failure decoded
        exact ⟨false, rfl⟩
    obtain ⟨proves, decided⟩ := first
    simp only [allProve, decided, bind, Except.bind]
    cases proves with
    | true => exact ⟨later, proved⟩
    | false => exact ⟨false, rfl⟩

/-- Code that agrees with its auxdatas unchanged matches, perfectly or partly. -/
theorem provenStatus_eq_ok (readable : Readable style positions) :
    ∃ status, provenStatus style positions = .ok status ∧ status ≠ .differs := by
  obtain ⟨proves, proved⟩ := allProve_eq_ok readable
  rw [provenStatus, proved]
  cases positions.isEmpty with
  | true => exact ⟨.partly, rfl, by decide⟩
  | false =>
    cases proves with
    | true => exact ⟨.perfect, rfl, by decide⟩
    | false => exact ⟨.partly, rfl, by decide⟩

/-- A linked template beside the template: it is not compared yet, is as long, and is the deployed code
where the template agrees with it outside the extents that were filled in. -/
structure LinkedFrom (found : Match) (template real : Code) (extents : List Extent) : Prop where
  /-- Nothing is compared yet. -/
  unmatched : found.status = .differs
  /-- The linked template bears the mark. -/
  marked : found.code.Marked
  /-- The linked template is as long as the template. -/
  length : found.code.length = template.length
  /-- It is the deployed code where the template agrees with it. -/
  same_iff : ∀ more, Code.SameOutside more found.code real ↔
    Code.AgreesOutside (extents ++ more) template real

/-- A template whose slots of libraries are filled is linked by filling those of immutables. -/
theorem linked_of_filled {first : Extraction} (style : AuxdataStyle)
    (libraries_listed : libraries.fault = none) (immutables_listed : immutables.fault = none)
    (filled : Extraction.fillLibraries real { code := template } libraries.entries = .ok first) :
    linked template real libraries immutables style =
      (Extraction.fillImmutables real style.immutableAction { code := first.code.normalize }
        immutables.entries).map fun second => {
          status := .differs
          transformations := first.transformations ++ second.transformations
          values := first.values.merge second.values
          code := second.code
          libraryMap := first.libraryMap } := by
  rw [linked, Extraction.libraries_of_complete libraries_listed, filled]
  simp only [bind, Except.bind, Extraction.immutables_of_complete immutables_listed]
  cases Extraction.fillImmutables real style.immutableAction { code := first.code.normalize }
      immutables.entries <;> rfl

/-- Linking fills the slots of libraries and then, in the normal form, those of immutables, or a slot
is reported that cannot be filled. -/
theorem linked_decides (laid : Laid template libraries positions immutables) (bears : real.Marked)
    (small : Text.Small real)
    (in_place : style.immutableAction = .replace ∨ immutables.entries = []) :
    (∃ found, linked template real libraries immutables style = .ok found ∧
      LinkedFrom found template real (libraries.entries.map LibrarySlot.extent ++
        immutables.entries.map ImmutableSlot.extent) ∧
      real.OneText (libraries.entries.map LibrarySlot.site) ∧
      real.OneText (immutables.entries.map ImmutableSlot.site)) ∨
    ∃ failure, linked template real libraries immutables style = .error failure ∧
      (∃ error, failure = .region error) ∧
      ¬ (real.Fills (libraries.entries.map LibrarySlot.site) ∧
        real.Fills (immutables.entries.map ImmutableSlot.site)) := by
  rcases Extraction.fillLibraries_decides bears laid.placed.slots laid.placeholders
    laid.apart with ⟨first, first_filled, code, fills⟩ | ⟨failure, failed, region, unfilled⟩
  · rw [List.map_map] at code
    have marked : first.code.Marked := by
      refine code.marked laid.marked fun extent member => ?_
      obtain ⟨slot, present, rfl⟩ := List.mem_map.mp member
      exact (laid.slots slot present).toNonneg
    have plain : first.code.PlainOutside [] := by
      refine code.plain small ?_
      rw [List.append_nil]
      exact laid.plain
    have normal := Code.marked_normalize first.code
    have length : first.code.normalize.length = template.length :=
      (Code.length_normalize marked plain).trans code.length
    have inside : ∀ slot ∈ immutables.entries, slot.extent.Inside first.code.normalize :=
      fun slot present => (laid.immutables slot present).of_length laid.marked normal length
    have action : Extraction.fillImmutables real style.immutableAction
        { code := first.code.normalize } immutables.entries =
        Extraction.fillImmutables real .replace { code := first.code.normalize }
          immutables.entries := by
      rcases in_place with replaced | none_listed
      · rw [replaced]
      · rw [none_listed]
        rfl
    have linked_eq := linked_of_filled style laid.libraries_listed laid.immutables_listed
      first_filled
    rw [action] at linked_eq
    rcases Extraction.fillImmutables_decides bears normal inside with
      ⟨second, second_filled, code_second, fills_second⟩ | ⟨failure, failed, region, unfilled⟩
    · rw [List.map_map] at code_second
      rw [linked_eq, second_filled]
      refine .inl ⟨_, rfl, ⟨rfl, ?_, ?_, fun more => ?_⟩, fills.oneText, fills_second.oneText⟩
      · refine code_second.marked normal fun extent member => ?_
        obtain ⟨slot, present, rfl⟩ := List.mem_map.mp member
        exact (laid.immutables slot present).toNonneg
      · exact code_second.length.trans length
      · rw [List.append_assoc]
        exact code_second.sameOutside_iff.trans
          ((Code.sameOutside_normalize_iff marked plain).trans (code.agreesOutside_iff _ small))
    · rw [linked_eq, failed]
      exact .inr ⟨failure, rfl, region, fun both => unfilled both.2⟩
  · refine .inr ⟨failure, ?_, region, fun both => unfilled both.1⟩
    rw [linked, Extraction.libraries_of_complete laid.libraries_listed, failed]
    rfl

/-- Code that does not agree is compared once more with the auxdatas taken over. -/
theorem compare_of_not_agrees {found : Match} (style : AuxdataStyle) (place : String × AuxdataPosition)
    (rest : AuxdataPositions) (apart : ¬ agrees kind found.code real = true) :
    compare kind found real (place :: rest) style =
      (Extraction.fillAuxdatas real { code := found.code } (place :: rest)).map fun auxdatas =>
        if agrees kind auxdatas.code real then { found.extend auxdatas with status := .partly }
        else found := by
  rw [compare, if_neg apart]
  simp only [List.isEmpty_cons, Bool.false_eq_true, ↓reduceIte, Extraction.auxdatas, bind,
    Except.bind]
  cases Extraction.fillAuxdatas real { code := found.code } (place :: rest) with
  | error failure => rfl
  | ok auxdatas =>
    simp only [Except.map, pure, Except.pure]
    split <;> rfl

/-- Comparing a linked template with the deployed code finds a match exactly if the sizes fit and the
linked template is the deployed code outside the auxdatas. -/
theorem compare_decides (kind : CodeKind) {found : Match} (unmatched : found.status = .differs)
    (marked : found.code.Marked) (bears : real.Marked)
    (inside : ∀ place ∈ positions, place.2.extent.Inside found.code)
    (readable : Readable style positions) :
    (∃ result, compare kind found real positions style = .ok result ∧
      (result.status ≠ .differs ↔ kind.Fits found.code.length real.length ∧
        Code.SameOutside (positions.map fun place => place.2.extent) found.code real) ∧
      (result.status ≠ .differs →
        agrees kind result.code real = true ∧ result.code.length = found.code.length)) ∨
    ∃ failure, compare kind found real positions style = .error failure ∧
      (∃ error, failure = .region error) ∧ ¬ kind.Fits found.code.length real.length := by
  by_cases same : agrees kind found.code real = true
  · obtain ⟨status, proved, matched⟩ := provenStatus_eq_ok readable
    obtain ⟨fits, everywhere⟩ := agrees_iff.mp same
    refine .inl ⟨{ found with status }, ?_, ⟨fun _ => ⟨fits, ?_⟩, fun _ => matched⟩,
      fun _ => ⟨same, rfl⟩⟩
    · rw [compare, if_pos same, proved]
      rfl
    · intro index within _
      exact everywhere index within (by simp)
  cases positions with
  | nil =>
    refine .inl ⟨found, ?_, ⟨fun matched => absurd unmatched matched, fun both => ?_⟩,
      fun matched => absurd unmatched matched⟩
    · rw [compare, if_neg same]
      rfl
    · exact absurd (agrees_iff.mpr both) same
  | cons place rest =>
    have taken_over := compare_of_not_agrees style place rest same
    rcases Extraction.fillAuxdatas_decides bears marked inside with
      ⟨auxdatas, filled, code⟩ | ⟨failure, failed, region, short⟩
    · have decided : agrees kind auxdatas.code real = true ↔
          kind.Fits found.code.length real.length ∧
            Code.SameOutside ((place :: rest).map fun place => place.2.extent) found.code real := by
        rw [agrees_iff, code.length, code.sameOutside_iff, List.append_nil]
      by_cases agreed : agrees kind auxdatas.code real = true
      · refine .inl ⟨{ found.extend auxdatas with status := .partly }, ?_,
          ⟨fun _ => decided.mp agreed, fun _ => by simp⟩, fun _ => ⟨agreed, code.length⟩⟩
        rw [taken_over, filled, Except.map, if_pos agreed]
      · refine .inl ⟨found, ?_, ⟨fun matched => absurd unmatched matched,
          fun both => absurd (decided.mpr both) agreed⟩, fun matched => absurd unmatched matched⟩
        rw [taken_over, filled, Except.map, if_neg agreed]
    · rw [taken_over, failed]
      exact .inr ⟨failure, rfl, region, fun fits => Nat.not_le.mpr short fits.le⟩

/-- A deployed code that corresponds to a template can fill its parts. -/
theorem Corresponds.fills {given : List Extent}
    (laid : Laid template libraries positions immutables)
    (corresponds : Corresponds kind given template real libraries positions immutables) :
    real.Fills (libraries.entries.map LibrarySlot.site) ∧
      real.Fills (immutables.entries.map ImmutableSlot.site) := by
  have long := corresponds.fits.le
  refine ⟨⟨?_, corresponds.libraries⟩, ⟨?_, corresponds.immutables⟩⟩
  · intro site member
    obtain ⟨slot, present, rfl⟩ := List.mem_map.mp member
    exact Nat.le_trans ((laid.slots slot present).stop_le laid.marked) long
  · intro site member
    obtain ⟨slot, present, rfl⟩ := List.mem_map.mp member
    exact Nat.le_trans ((laid.immutables slot present).stop_le laid.marked) long

/-- Linking a template and comparing it finds a match exactly if the deployed code corresponds to the
template; a part is missing only where it does not. -/
theorem compared_decides (kind : CodeKind) (laid : Laid template libraries positions immutables)
    (bears : real.Marked) (small : Text.Small real) (readable : Readable style positions)
    (in_place : style.immutableAction = .replace ∨ immutables.entries = []) :
    (∃ result, (linked template real libraries immutables style >>= fun found =>
        compare kind found real positions style) = .ok result ∧
      (result.status ≠ .differs ↔
        Corresponds kind [] template real libraries positions immutables) ∧
      (result.status ≠ .differs →
        agrees kind result.code real = true ∧ result.code.length = template.length)) ∨
    ∃ failure, (linked template real libraries immutables style >>= fun found =>
        compare kind found real positions style) = .error failure ∧
      (∃ error, failure = .region error) ∧
      ¬ Corresponds kind [] template real libraries positions immutables := by
  rcases linked_decides laid bears small in_place with
    ⟨found, link, from_template, one_address, one_value⟩ | ⟨failure, failed, region, unfilled⟩
  · have inside : ∀ place ∈ positions, place.2.extent.Inside found.code := fun place member =>
      (laid.places place member).of_length laid.marked from_template.marked from_template.length
    have corresponds_iff : (kind.Fits found.code.length real.length ∧
        Code.SameOutside (positions.map fun place => place.2.extent) found.code real) ↔
        Corresponds kind [] template real libraries positions immutables := by
      rw [from_template.length, from_template.same_iff]
      constructor
      · rintro ⟨fits, same⟩
        exact ⟨fits, same, one_address, one_value⟩
      · intro corresponds
        exact ⟨corresponds.fits, corresponds.agrees⟩
    rw [link]
    rcases compare_decides _ from_template.unmatched from_template.marked bears inside readable with
      ⟨result, compared, decided, whole⟩ | ⟨failure, failed, region, unfit⟩
    · refine .inl ⟨result, compared, decided.trans corresponds_iff, fun matched => ?_⟩
      obtain ⟨same, length⟩ := whole matched
      exact ⟨same, length.trans from_template.length⟩
    · refine .inr ⟨failure, failed, region, fun corresponds => unfit ?_⟩
      rw [from_template.length]
      exact corresponds.fits
  · rw [failed]
    exact .inr ⟨failure, rfl, region, fun corresponds => unfilled (corresponds.fills laid)⟩

end Match

end Attest
