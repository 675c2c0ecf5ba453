import Attest.Proofs.Compilation.Run
import Attest.Proofs.Match.Runtime

/-!
# Immutables behind the code

Newer Vyper compilers leave no slots for immutables: the deployed code is the template with the
values of all of them behind it. The size of the values is told by the auxdata of the code that
creates the contract, their place by the length of the template. A deployed code matches exactly if
it has that many bytes behind the template's characters (`appended_matches_iff`), no byte more and
none less: the deployed text behind the template is inserted, the auxdatas are taken over before it,
and the comparison that follows is of whole codes.
-/
namespace Attest

namespace Transformation

/-- Codes that differ in capital letters alone are written over alike. -/
theorem write_map_lower {code other : Code}
    (alike : code.map Text.lowerChar = other.map Text.lowerChar) (transformation : Transformation)
    (value : Code) : (transformation.write code value).map Text.lowerChar =
      (transformation.write other value).map Text.lowerChar := by
  have length : code.length = other.length := by
    simpa using congrArg List.length alike
  have spliced (start length : Int) : (Code.splice code start value length).map Text.lowerChar =
      (Code.splice other start value length).map Text.lowerChar := by
    simp only [Code.splice, Slice.upTo, Slice.since, List.map_append, List.map_take, List.map_drop,
      alike, ‹code.length = other.length›]
  rw [write, write]
  cases transformation.action with
  | insert => exact spliced _ _
  | replace => exact spliced _ _

/-- Transformations lead from codes that differ in capital letters alone to such codes. -/
theorem replayOn_map_lower {values : Values} {transformations : List Transformation}
    {code other ended : Code} (alike : code.map Text.lowerChar = other.map Text.lowerChar)
    (replayed : replayOn values code transformations = .ok ended) :
    ∃ last, replayOn values other transformations = .ok last ∧
      last.map Text.lowerChar = ended.map Text.lowerChar := by
  induction transformations generalizing code other with
  | nil =>
    obtain rfl := Except.ok.inj replayed
    exact ⟨other, rfl, alike.symm⟩
  | cons transformation rest inductive_hypothesis =>
    obtain ⟨value, found, replayed⟩ := Result.bind_eq_ok.mp replayed
    obtain ⟨last, ran, same⟩ :=
      inductive_hypothesis (write_map_lower alike transformation value.body) replayed
    refine ⟨last, ?_, same⟩
    rw [replayOn, found]
    exact ran

end Transformation

/-- A deployed code that is a template outside extents, capital letters aside, with values of a size
behind it. -/
structure Code.Appended (extents : List Extent) (template : Code) (size : Nat)
    (real front values : Code) : Prop where
  /-- The deployed code has a part in front and the values behind it. -/
  joined : real = front ++ values
  /-- The part in front is as long as the template. -/
  long : front.length = template.length
  /-- The values have as many bytes as the size says. -/
  sized : values.length = 2 * size
  /-- The part in front has the template's characters outside the extents. -/
  agrees : Code.AgreesOutside extents template front

/-- A template in the normal form with the deployed text of a size behind it is the deployed code
outside extents exactly if the deployed code is the template with values of that size behind it. -/
theorem Code.appended_iff (extents : List Extent) {template real : Code} {size : Nat}
    (bears : template.Marked) (plain : template.PlainOutside [])
    (reaches : template.length + 2 * size ≤ real.length) :
    let values := (real.drop template.length).take (2 * size)
    (real.length = (template.normalize ++ values).length ∧
        SameOutside extents (template.normalize ++ values) real) ↔
      ∃ front values, Appended extents template size real front values := by
  intro values
  have length := length_normalize bears plain
  have sized : values.length = 2 * size := by
    rw [List.length_take, List.length_drop]
    omega
  rw [List.length_append, length, sized]
  constructor
  · rintro ⟨exact, same⟩
    have short : (real.drop template.length).length ≤ 2 * size := by
      rw [List.length_drop]
      omega
    refine ⟨real.take template.length, real.drop template.length,
      (List.take_append_drop _ _).symm, List.length_take_of_le (by omega), ?_, ?_⟩
    · rw [List.length_drop]
      omega
    · refine (sameOutside_normalize_iff bears plain).mp fun index before free => ?_
      have there := same index (by rw [List.length_append]; omega) free
      rw [List.getElem?_append_left before] at there
      rw [there, List.getElem?_take_of_lt (by omega)]
  · rintro ⟨front, behind, rfl, long, sized_behind, agrees⟩
    have equal : values = behind := by
      simp only [values]
      rw [List.drop_left' long, List.take_of_length_le (by omega)]
    refine ⟨by rw [List.length_append]; omega, fun index _ free => ?_⟩
    rw [equal]
    have same := (sameOutside_normalize_iff bears plain).mpr agrees
    rcases Nat.lt_or_ge index front.length with before | after
    · rw [List.getElem?_append_left (by omega), List.getElem?_append_left before]
      exact same index (by omega) free
    · rw [List.getElem?_append_right (by omega), List.getElem?_append_right after, length, long]

/-- The values behind a template are the deployed text there. -/
theorem Code.Appended.values_eq {extents : List Extent} {template real front values : Code}
    {size : Nat} (appended : Appended extents template size real front values) :
    values = (real.drop template.length).take (2 * size) := by
  rw [appended.joined, List.drop_left' appended.long,
    List.take_of_length_le (Nat.le_of_eq appended.sized)]

/-- A deployed code with values behind a template is that much longer. -/
theorem Code.Appended.length_eq {extents : List Extent} {template real front values : Code}
    {size : Nat} (appended : Appended extents template size real front values) :
    real.length = template.length + 2 * size := by
  rw [appended.joined, List.length_append, appended.long, appended.sized]

/-- A Vyper compilation whose output has a code that a contract runs, and whose auxdata in the code
that creates the contract tells the size of the immutables. -/
structure Compilation.Appends (compilation : Compilation) (template : Code) (size : Nat) :
    Prop where
  /-- The language is Vyper. -/
  language : compilation.language = .vyper
  /-- The compiler is one of those that append immutables. -/
  style : compilation.style = .vyper
  /-- The code that the contract runs. -/
  runtime : compilation.code .runtime = .ok template
  /-- The size that the auxdata of the code that creates the contract tells. -/
  sized : ∃ creation contents item, compilation.code .creation = .ok creation ∧
    Contents.decode creation .vyper = .ok contents ∧
    Cbor.entry? contents "immutableSize" = some item ∧ Immutables.whole item = .ok (size : Int)
  /-- There is at least one byte. -/
  positive : 1 ≤ size

/-- The slot of appended immutables: behind the template. -/
def ImmutableSlot.behind (template : Code) (size : Nat) : ImmutableSlot :=
  ⟨"0", template.byteLength, size⟩

/-- The transformation that appends immutables. -/
def Transformation.appending (template : Code) : Transformation :=
  ⟨.insert, .immutable, template.byteLength, some "0"⟩

/-- A size of at least one byte says something. -/
theorem Immutables.holds_of_whole {item : Cbor} {size : Nat}
    (counted : whole item = .ok (size : Int)) (positive : 1 ≤ size) : item.holds = true := by
  cases item with
  | int value =>
    have same : value = size := Except.ok.inj counted
    have present : value ≠ 0 := by omega
    simpa [Cbor.holds] using present
  | bool value =>
    cases value with
    | true => rfl
    | false =>
      have none : (0 : Int) = size := Except.ok.inj counted
      omega
  | _ => contradiction

/-- The references of such a compilation name no library and one slot of immutables. -/
theorem Compilation.Appends.references {compilation : Compilation} {template : Code} {size : Nat}
    (appends : compilation.Appends template size) :
    ∃ contract links immutables, compilation.contract = .ok contract ∧
      Contract.links compilation.language contract .runtime = .ok links ∧
      Contract.immutables compilation.language contract compilation.style = .ok immutables ∧
      LibrarySlot.listing links = .empty ∧
      immutables.slots = ⟨[.behind template size], none⟩ := by
  obtain ⟨contract, found, runtime⟩ := Result.bind_eq_ok.mp appends.runtime
  obtain ⟨creation, contents, item, read, decoded, entry, counted⟩ := appends.sized
  obtain ⟨same, found_same, creation_read⟩ := Result.bind_eq_ok.mp read
  obtain rfl := Except.ok.inj (found.symm.trans found_same)
  have told := Immutables.holds_of_whole counted appends.positive
  refine ⟨contract, .record [], .appended template.byteLength item, found, ?_, ?_, rfl, ?_⟩
  · rw [appends.language]
    rfl
  · rw [appends.language, appends.style]
    simp only [Contract.immutables, Contract.appendedImmutables, ne_eq, not_true_eq_false,
      ↓reduceIte, Result.bind_eq_ok]
    refine ⟨creation, creation_read, ?_⟩
    simp only [decoded, entry, told, ↓reduceIte, Result.bind_eq_ok]
    exact ⟨template, runtime, rfl⟩
  · rw [Immutables.slots, counted]
    rfl

namespace Match

variable {template real : Code} {positions : AuxdataPositions} {size : Nat}

/-- The slot of appended immutables begins where the template ends. -/
theorem behind_extent (bears : template.Marked) (even : template.length % 2 = 0) (size : Nat) :
    (ImmutableSlot.behind template size).extent.Regular ∧
      (ImmutableSlot.behind template size).extent.first = template.length ∧
      (ImmutableSlot.behind template size).extent.stop = template.length + 2 * size := by
  have length := bears.length_eq
  have regular : (ImmutableSlot.behind template size).extent.Regular := by
    refine Extent.Nonneg.regular ⟨?_, ?_⟩ <;> exact Int.natCast_nonneg _
  have start := regular.position_start
  have stop := regular.position_stop
  simp only [ImmutableSlot.behind, ImmutableSlot.extent, Code.position, Code.byteLength]
    at start stop
  refine ⟨regular, ?_, ?_⟩
  · simp only [ImmutableSlot.behind, ImmutableSlot.extent, Code.byteLength]
    omega
  · simp only [ImmutableSlot.behind, ImmutableSlot.extent, Code.byteLength]
    omega

/-- The deployed text in the slot of appended immutables is what follows the template. -/
theorem textIn_behind (bears : template.Marked) (even : template.length % 2 = 0) (size : Nat)
    (real : Code) : real.textIn (ImmutableSlot.behind template size).extent =
      (real.drop template.length).take (2 * size) := by
  obtain ⟨regular, first, stop⟩ := behind_extent bears even size
  rw [Code.textIn, Code.region_eq real regular, first, stop, List.take_drop, Nat.add_comm]

/-- A template without libraries is linked by putting the deployed text behind it, which the
deployed code has to have. -/
theorem linked_appended (marked : template.Marked) (even : template.length % 2 = 0)
    (plain : template.PlainOutside []) (bears : real.Marked) (size : Nat) :
    let values := (real.drop template.length).take (2 * size)
    (template.length + 2 * size ≤ real.length ∧
      linked template real .empty ⟨[.behind template size], none⟩ .vyper = .ok {
        status := .differs
        transformations := [.appending template]
        values := { immutables := [("0", Code.marked values)] }
        code := template.normalize ++ values }) ∨
    (real.length < template.length + 2 * size ∧
      ∃ error, linked template real .empty ⟨[.behind template size], none⟩ .vyper =
        .error (.region error)) := by
  intro values
  have normal := Code.marked_normalize template
  have length := Code.length_normalize marked plain
  obtain ⟨regular, -, stop⟩ := behind_extent marked even size
  have text := textIn_behind marked even size real
  have written : Code.insert template.normalize template.byteLength values =
      template.normalize ++ values := by
    have bodies : template.normalize.byteLength = template.byteLength := by
      rw [Code.byteLength, Code.byteLength]
      have bodies := normal.length_eq
      have body := marked.length_eq
      omega
    rw [← bodies]
    exact Code.insert_end normal (length ▸ even) values
  have filled : Extraction.fillLibraries real { code := template }
      (Listing.empty : Listing LibrarySlot).entries = .ok { code := template } := rfl
  rw [linked_of_filled .vyper rfl rfl filled]
  rw [show Extraction.fillImmutables real AuxdataStyle.vyper.immutableAction
      { code := template.normalize } [.behind template size] =
      Extraction.fillImmutable real .insert (.behind template size)
        { code := template.normalize } >>= Except.ok from rfl]
  by_cases reaches : (ImmutableSlot.behind template size).extent.stop ≤ real.length
  · refine .inl ⟨stop ▸ reaches, ?_⟩
    have taken := Extraction.deployed_eq_ok bears (.immutable "0") regular reaches
    rw [text] at taken
    have filled : Extraction.fillImmutable real .insert (.behind template size)
        { code := template.normalize } = .ok {
          code := template.normalize ++ values
          transformations := [.appending template]
          values := { immutables := [("0", Code.marked values)] } } := by
      refine Extraction.fillImmutable_eq_ok.mpr ⟨values, taken, rfl, ?_⟩
      rw [← written]
      rfl
    rw [filled]
    rfl
  · refine .inr ⟨by omega, ?_⟩
    cases filled : Extraction.fillImmutable real .insert (.behind template size)
        { code := template.normalize } with
    | ok next =>
      obtain ⟨_, taken, -⟩ := Extraction.fillImmutable_eq_ok.mp filled
      exact absurd (Extraction.stop_le_of_deployed bears regular taken).1 reaches
    | error failure =>
      obtain ⟨error, rfl⟩ := Extraction.fillImmutable_eq_error filled
      exact ⟨error, rfl⟩

/-- Without libraries, a template is linked as its normal form is. -/
theorem linked_normalize (template real : Code) (immutables : Listing ImmutableSlot)
    (style : AuxdataStyle) : linked template.normalize real .empty immutables style =
      linked template real .empty immutables style := by
  have nothing (code : Code) : Extraction.libraries code real .empty = .ok { code } := rfl
  simp only [linked, nothing, bind, Except.bind, Code.normalize_normalize]

/-- A comparison that finds a match adds transformations and values of auxdatas alone. -/
theorem compare_adds {kind : CodeKind} {style : AuxdataStyle} {found result : Match}
    (bears : real.Marked) (distinct : positions.Distinct)
    (regular : ∀ place ∈ positions, place.2.extent.Regular) (unmatched : found.status = .differs)
    (compared : compare kind found real positions style = .ok result)
    (matched : result.status ≠ .differs) :
    (∃ more, result.transformations = found.transformations ++ more ∧
      ∀ transformation ∈ more, transformation.reason = .auxdata) ∧
    result.values.immutables = found.values.immutables := by
  rcases compare_eq_ok unmatched compared matched with ⟨-, written⟩ | ⟨auxdatas, taken, -, written⟩
  · rw [written]
    exact ⟨⟨[], by simp, by simp⟩, rfl⟩
  · obtain ⟨-, alone, -⟩ := Extraction.fillAuxdatas_explained bears distinct regular taken
    rw [written]
    refine ⟨⟨auxdatas.transformations, rfl, ?_⟩, ?_⟩
    · rw [Extraction.fillAuxdatas_transformations taken]
      intro transformation member
      obtain ⟨place, -, rfl⟩ := List.mem_map.mp member
      rfl
    · rw [extend, alone]
      rfl

/-- The match of a template that does not begin with call protection. -/
theorem runtime_of_unprotected {libraries : Listing LibrarySlot}
    {immutables : Listing ImmutableSlot} {style : AuxdataStyle}
    (unprotected : Extraction.protectionMark.isPrefixOf template = false) :
    runtime template real libraries positions immutables style =
      (orDiffers template.normalize
        (linked template real.normalize libraries immutables style >>= fun found =>
          compare .runtime found real.normalize positions style)).map fun found =>
        { found with values := Values.merge {} found.values } := by
  have plain : Extraction.callProtection template real.normalize = .ok { code := template } :=
    Extraction.callProtection_eq_ok.mpr (.inl ⟨unprotected, rfl⟩)
  simp only [runtime, plain, ofCode_runtime, Code.normalize_normalize]
  rfl

/-- What a match of a template with appended immutables says: one transformation of immutables,
which inserts the values behind the template, and transformations that lead from the template to the
deployed code, capital letters of the template aside. -/
structure SaysAppended (template real : Code) (found : Match) (values : Code) : Prop where
  /-- Immutables are inserted once, behind the template. -/
  once : found.transformations.filter (·.reason = .immutable) = [.appending template]
  /-- What is inserted are the values. -/
  inserted : found.values.lookup (.appending template) = .ok (Code.marked values)
  /-- The transformations lead to the deployed code in small letters. -/
  replayed : ∃ code, Transformation.replay template found.transformations found.values = .ok code ∧
    Text.lower code = real.normalize
  /-- From a template in small letters they lead to the deployed code as it is. -/
  replayed_small : Text.Small template →
    Transformation.replay template found.transformations found.values = .ok real.normalize

/-- A linked template with values behind it that matches says so. -/
theorem says_appended {linked result : Match} {values : Code} (marked : template.Marked)
    (even : template.length % 2 = 0) (plain : template.PlainOutside [])
    (distinct : positions.Distinct) (inside : ∀ place ∈ positions, place.2.extent.Inside template)
    (link : Match.linked template real.normalize .empty ⟨[.behind template size], none⟩ .vyper =
      .ok linked)
    (transformations : linked.transformations = [.appending template])
    (inserted : linked.values = { immutables := [("0", Code.marked values)] })
    (unmatched : linked.status = .differs)
    (compared : compare .runtime linked real.normalize positions .vyper = .ok result)
    (matched : result.status ≠ .differs) :
    SaysAppended template real { result with values := Values.merge {} result.values } values := by
  have bears := Code.marked_normalize real
  have regular : ∀ place ∈ positions, place.2.extent.Regular :=
    fun place member => (inside place member).regular
  have recompiled : Recompiled template.normalize .empty positions := {
    marked := Code.marked_normalize template
    whole := Code.length_normalize marked plain ▸ even
    small := fun index c found _ => Code.small_normalize template c (List.mem_of_getElem? found)
    slots := by simp [Listing.empty]
    distinct := distinct
    places := regular }
  obtain ⟨same, explained, ⟨addresses, immutables, auxdatas, distinct_addresses,
    distinct_immutables, distinct_auxdatas, parts⟩, -⟩ :=
    compared_explained recompiled bears (Code.small_normalize real)
      ((linked_normalize _ _ _ _).trans link) compared matched
  obtain ⟨⟨more, joined, auxdata⟩, kept⟩ :=
    compare_adds bears distinct regular unmatched compared matched
  have merged : Values.merge {} result.values = result.values := by
    rw [parts]
    exact Values.merge_callProtection rfl rfl distinct_addresses distinct_immutables
      distinct_auxdatas
  have whole : result.code = real.normalize := eq_of_beq same
  rw [whole] at explained
  have replayed := explained.replay (Code.marked_normalize template)
  rw [merged]
  refine ⟨?_, ?_, ?_, fun small => ?_⟩
  · have none : more.filter (·.reason = .immutable) = [] := by
      rw [List.filter_eq_nil_iff]
      intro transformation member
      simp [auxdata transformation member]
    rw [joined, transformations, List.filter_append, none]
    rfl
  · rw [Values.lookup, Transformation.appending, Values.ofId, kept, inserted]
    rfl
  · have alike : template.normalize.map Text.lowerChar = template.map Text.lowerChar := by
      rw [← Code.map_normalize marked plain]
      exact List.map_congr_left (Code.small_normalize template)
    rw [Transformation.replay, (Code.marked_normalize template).marked_body] at replayed
    obtain ⟨last, ran, ended⟩ := Transformation.replayOn_map_lower alike replayed
    refine ⟨last, ?_, ?_⟩
    · rw [Transformation.replay, marked.marked_body]
      exact ran
    · rw [Text.lower, List.flatMap, ended]
      exact Text.lower_of_small (Code.small_normalize real)
  · rw [← Code.normalize_of_small marked small]
    exact replayed

/-- A match of a template that has one slot, behind it, always comes to an end, and comes out as a
match exactly if the deployed code is the template with values behind it. -/
theorem runtime_appended (real : Code) (marked : template.Marked) (even : template.length % 2 = 0)
    (plain : template.PlainOutside [])
    (unprotected : Extraction.protectionMark.isPrefixOf template = false)
    (distinct : positions.Distinct) (inside : ∀ place ∈ positions, place.2.extent.Inside template)
    (readable : Readable .vyper positions) (size : Nat) :
    ∃ found, runtime template real .empty positions ⟨[.behind template size], none⟩ .vyper =
        .ok found ∧
      (found.status ≠ .differs ↔ ∃ front values, Code.Appended
        (positions.map fun place => place.2.extent) template size real.normalize front values) ∧
      ∀ front values, Code.Appended (positions.map fun place => place.2.extent) template size
        real.normalize front values → SaysAppended template real found values := by
  have bears := Code.marked_normalize real
  rw [runtime_of_unprotected unprotected]
  rcases linked_appended marked even plain bears size with ⟨reaches, link⟩ | ⟨short, error, failed⟩
  · let values := (real.normalize.drop template.length).take (2 * size)
    let linked : Match := {
      status := .differs
      transformations := [.appending template]
      values := { immutables := [("0", Code.marked values)] }
      code := template.normalize ++ values }
    have appended_iff := Code.appended_iff (positions.map fun place => place.2.extent)
      marked plain reaches
    have normal := Code.marked_normalize template
    have begins := normal.length_eq
    have bears_linked : linked.code.Marked :=
      normal.of_take (List.take_append_of_le_length (by omega))
    have inside_linked : ∀ place ∈ positions, place.2.extent.Inside linked.code :=
      fun place member => (inside place member).of_le marked bears_linked <| by
        rw [List.length_append, Code.length_normalize marked plain]
        exact Nat.le_add_right _ _
    rw [link]
    have unmatched : linked.status = .differs := rfl
    rcases compare_decides .runtime unmatched bears_linked bears inside_linked readable with
      ⟨result, compared, decided, -⟩ | ⟨failure, failed, ⟨error, rfl⟩, unfit⟩
    · refine ⟨_, congrArg (Except.map _ ∘ orDiffers _) compared, decided.trans appended_iff, ?_⟩
      intro front behind appended
      rw [appended.values_eq]
      exact says_appended marked even plain distinct inside link rfl rfl rfl compared
        ((decided.trans appended_iff).mpr ⟨front, behind, appended⟩)
    · have absent : ¬ ∃ front behind, Code.Appended (positions.map fun place => place.2.extent)
          template size real.normalize front behind :=
        fun appended => unfit (appended_iff.mpr appended).1
      refine ⟨_, congrArg (Except.map _ ∘ orDiffers _) failed,
        ⟨fun matched => absurd rfl matched, fun appended => absurd appended absent⟩, ?_⟩
      intro front behind appended
      exact absurd ⟨front, behind, appended⟩ absent
  · rw [failed]
    refine ⟨_, rfl, ⟨fun matched => absurd rfl matched, ?_⟩, ?_⟩
    · rintro ⟨front, behind, appended⟩
      exact absurd appended.length_eq (Nat.ne_of_lt short)
    · intro front behind appended
      exact absurd appended.length_eq (Nat.ne_of_lt short)

/-- The match of a Vyper runtime code whose immutables are appended always comes to an end, and
comes out as a match exactly if the deployed code is the template, auxdatas and capital letters
aside, with as many bytes behind it as the creation code tells; the match then says so. -/
theorem appended_matches_iff {compilation : Compilation}
    (appends : compilation.Appends template size) (even : template.length % 2 = 0)
    (plain : template.PlainOutside [])
    (unprotected : Extraction.protectionMark.isPrefixOf template = false)
    (distinct : positions.Distinct)
    (inside : ∀ place ∈ positions, place.2.extent.Inside template)
    (readable : Readable .vyper positions) :
    ∃ contract links immutables, compilation.contract = .ok contract ∧
      Contract.links compilation.language contract .runtime = .ok links ∧
      Contract.immutables compilation.language contract compilation.style = .ok immutables ∧
      ∀ real, ∃ found, runtime template real (LibrarySlot.listing links) positions immutables.slots
          compilation.style = .ok found ∧
        (found.status ≠ .differs ↔ ∃ front values, Code.Appended
          (positions.map fun place => place.2.extent) template size real.normalize front values) ∧
        ∀ front values, Code.Appended (positions.map fun place => place.2.extent) template size
          real.normalize front values → SaysAppended template real found values := by
  have marked := Compilation.code_marked appends.runtime
  obtain ⟨contract, links, immutables, there, linked, placed, none_linked, slots⟩ :=
    appends.references
  refine ⟨contract, links, immutables, there, linked, placed, fun real => ?_⟩
  rw [none_linked, slots, appends.style]
  exact runtime_appended real marked even plain unprotected distinct inside readable size

/-- The code that a sample contract runs: one letter is a capital, and an auxdata follows. -/
def sampleBeforeValues : Code := "0x60Aaa164".toList

/-- The auxdata of the sample. -/
def sampleAuxdata : AuxdataPositions := [("1", ⟨2, "0xa164".toList⟩)]

/-- A compilation of the sample, whose creation code tells of two bytes of immutables. -/
def sampleAppending : Compilation where
  compiler := .known []
  version := "0.3.10"
  input := .record []
  target := ⟨"C.vy", "C"⟩
  language := .vyper
  style := .vyper
  output := .record [("contracts", .record [("C.vy", .record [("C", .record [("evm", .record [
    ("bytecode", .record [("object", .text "600184068002a16576797065728300030a0011")]),
    ("deployedBytecode", .record [("object", .text (String.ofList sampleBeforeValues))])])])])])]

set_option maxRecDepth 20000 in
/-- The sample matches a deployed code with another auxdata and two bytes behind it, the values, and
no code with one byte or three. -/
theorem appended_matches_iff_sample :
    sampleAppending.Appends sampleBeforeValues 2 ∧
      ∃ contract links immutables, sampleAppending.contract = .ok contract ∧
        Contract.links .vyper contract .runtime = .ok links ∧
        Contract.immutables .vyper contract .vyper = .ok immutables ∧
        (∃ found, runtime sampleBeforeValues "0x60AAFFEE0708".toList (LibrarySlot.listing links)
            sampleAuxdata immutables.slots .vyper = .ok found ∧ found.status ≠ .differs ∧
          SaysAppended sampleBeforeValues "0x60AAFFEE0708".toList found "0708".toList) ∧
        ∀ real ∈ ["0x60AAFFEE07".toList, "0x60AAFFEE070809".toList],
          ∃ found, runtime sampleBeforeValues real (LibrarySlot.listing links) sampleAuxdata
            immutables.slots .vyper = .ok found ∧ found.status = .differs := by
  have appends : sampleAppending.Appends sampleBeforeValues 2 := by
    have creation : sampleAppending.code .creation =
        .ok "0x600184068002a16576797065728300030a0011".toList :=
      Result.eq_ok_of_toOption (by decide +kernel)
    have told : ((Contents.decode "0x600184068002a16576797065728300030a0011".toList
        .vyper).toOption.any fun contents => (Cbor.entry? contents "immutableSize").any fun item =>
          (Immutables.whole item).toOption == some 2) = true := by decide +kernel
    obtain ⟨contents, decoded, told⟩ := (Option.any_eq_true ..).mp told
    obtain ⟨item, entry, counted⟩ := (Option.any_eq_true ..).mp told
    exact ⟨rfl, rfl, Result.eq_ok_of_toOption (by decide +kernel), ⟨_, contents, item, creation,
      Result.eq_ok_of_toOption decoded, entry, Result.eq_ok_of_toOption (eq_of_beq counted)⟩,
      by decide⟩
  have distinct : sampleAuxdata.Distinct := by simp [Table.Distinct, sampleAuxdata]
  obtain ⟨contract, links, immutables, there, linked, placed, decides⟩ :=
    appended_matches_iff appends (by decide +kernel) (by decide +kernel) (by decide +kernel)
      distinct (by decide +kernel) (by decide +kernel)
  refine ⟨appends, contract, links, immutables, there, linked, placed, ?_, fun real member => ?_⟩
  · obtain ⟨found, ran, decided, tells⟩ := decides "0x60AAFFEE0708".toList
    have appended : Code.Appended (sampleAuxdata.map fun place => place.2.extent)
        sampleBeforeValues 2 (Code.normalize "0x60AAFFEE0708".toList) "0x60aaffee".toList
        "0708".toList :=
      ⟨by decide +kernel, by decide +kernel, by decide +kernel, by decide +kernel⟩
    exact ⟨found, ran, decided.mpr ⟨_, _, appended⟩, tells _ _ appended⟩
  · obtain ⟨found, ran, decided, -⟩ := decides real
    refine ⟨found, ran, Decidable.not_not.mp fun matched => ?_⟩
    obtain ⟨front, behind, appended⟩ := decided.mp matched
    have unequal : ∀ real ∈ ["0x60AAFFEE07".toList, "0x60AAFFEE070809".toList],
        (Code.normalize real).length ≠ sampleBeforeValues.length + 2 * 2 := by decide +kernel
    exact unequal real member appended.length_eq

end Match

end Attest
