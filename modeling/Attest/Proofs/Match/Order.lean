import Attest.Proofs.Extraction.Reordered
import Attest.Proofs.Extraction.Unordered
import Attest.Proofs.Match.Creation
import Attest.Proofs.Match.Runtime

/-!
# The order of references is immaterial

A match goes through references and auxdatas in the order in which they are listed, and it stops at
the first part that cannot be filled. The verdict does not depend on that order: the status, the
filled template and the values are the same, only transformations of one reason come in another order,
and the code that creates a contract fails in the same way if it fails
(`order_immaterial`).
-/
namespace Attest.Match

variable {template real : Code} {libraries others : Listing LibrarySlot}
  {positions places : AuxdataPositions} {immutables slots : Listing ImmutableSlot}
  {style : AuxdataStyle} {kind : CodeKind}

/-- Whether two matches are the same but for the order of transformations of one reason. -/
structure Same (found other : Match) : Prop where
  /-- The status is the same. -/
  status : found.status = other.status
  /-- The filled template is the same. -/
  code : found.code = other.code
  /-- The values are the same. -/
  values : found.values.Same other.values
  /-- Each reason has the same transformations. -/
  transformations : Transformation.PermutedWithin found.transformations other.transformations

/-- Whether two matchings end in the same match, or in the same failure. -/
inductive SameResult : Except Failure Match → Except Failure Match → Prop
  /-- Both end in a match. -/
  | found {found other : Match} (same : found.Same other) : SameResult (.ok found) (.ok other)
  /-- Both fail. -/
  | failed (failure : Failure) : SameResult (.error failure) (.error failure)

/-- Whether two matches are the same and have no key twice. -/
structure Alike (found other : Match) : Prop extends Same found other where
  /-- The values of the one have distinct keys. -/
  distinct : found.values.Distinct
  /-- The values of the other have distinct keys. -/
  distinct_other : other.values.Distinct

/-- Where nothing is filled there is nothing to order. -/
theorem Alike.unfilled (status : MatchStatus) (code : Code) :
    Alike { status, code } { status, code } where
  status := rfl
  code := rfl
  values := .refl {}
  transformations := .refl []
  distinct := .of_tables_nil rfl rfl rfl
  distinct_other := .of_tables_nil rfl rfl rfl

/-- Matches that are the same are the same with the same filling added to them. -/
theorem Alike.extend {found other : Match} (alike : found.Alike other) {filling more : Extraction}
    (filled : filling.Alike more) : (found.extend filling).Alike (other.extend more) where
  status := alike.status
  code := filled.code
  values := alike.values.merge filled.values filled.distinct filled.distinct_other
  transformations := alike.transformations.append filled.transformations
  distinct := alike.distinct.merge _
  distinct_other := alike.distinct_other.merge _

/-- Matches that are the same are the same with one status. -/
theorem Alike.withStatus {found other : Match} (alike : found.Alike other) (status : MatchStatus) :
    Alike { found with status } { other with status } where
  status := rfl
  code := alike.code
  values := alike.values
  transformations := alike.transformations
  distinct := alike.distinct
  distinct_other := alike.distinct_other

/-- Parts are placed without the immutables, too. -/
theorem Placed.without_immutables (placed : Placed template libraries positions immutables) :
    Placed template libraries positions .empty :=
  { placed with
    immutables_listed := rfl
    immutables := fun _ listed => absurd listed List.not_mem_nil }

/-- Filling the slots of libraries and normalizing takes no byte away. -/
theorem Placed.byteLength_le {first : Extraction}
    (placed : Placed template libraries positions immutables) (bears : real.Marked)
    (filled : Extraction.fillLibraries real { code := template } libraries.entries = .ok first) :
    template.byteLength ≤ first.code.normalize.byteLength := by
  have code := Extraction.fillLibraries_filledFrom bears placed.slots filled
  have nonneg : ∀ extent ∈ libraries.entries.map LibrarySlot.extent, extent.Nonneg :=
    List.forall_mem_map.mpr fun slot present => (placed.slots slot present).toNonneg
  rw [← code.byteLength nonneg]
  exact Code.byteLength_le_normalize first.code

/-- A linked template bears the mark and has no fewer bytes than the template. -/
theorem Placed.linked {found : Match} (placed : Placed template libraries positions immutables)
    (bears : real.Marked) (in_place : style.immutableAction = .replace)
    (link : linked template real libraries immutables style = .ok found) :
    found.code.Marked ∧ template.byteLength ≤ found.code.byteLength := by
  obtain ⟨first, second, addresses, values, rfl⟩ := linked_eq_ok.mp link
  obtain ⟨-, filled⟩ := Extraction.libraries_eq_ok.mp addresses
  obtain ⟨-, filled_values⟩ := Extraction.immutables_eq_ok.mp values
  have longer := placed.byteLength_le bears filled
  have normal := Code.marked_normalize first.code
  rw [in_place] at filled_values
  have code := Extraction.fillImmutables_filledFrom bears normal
    (fun slot member => (placed.immutables slot member).of_byteLength_le longer) filled_values
  have nonneg := Extent.nonneg_of_inside placed.immutables
  exact ⟨code.marked normal nonneg, (code.byteLength nonneg).symm ▸ longer⟩

/-- A template is linked to the same whatever the order of its slots. -/
theorem linked_unordered (placed : Placed template libraries positions immutables)
    (bears : real.Marked) (in_place : style.immutableAction = .replace)
    (order : libraries.Reordered others) (order_values : immutables.Reordered slots) :
    SameEnd Alike (linked template real libraries immutables style)
      (linked template real others slots style) := by
  obtain ⟨listed, same⟩ := order placed.libraries_listed
  obtain ⟨values_listed, same_values⟩ := order_values placed.immutables_listed
  rw [linked, linked, Extraction.libraries_of_complete placed.libraries_listed,
    Extraction.libraries_of_complete listed]
  have begun := Extraction.fillLibraries_unordered bears placed.slots placed.placeholders
    placed.apart same
  refine begun.bind fun first first_other filled _ alike => ?_
  have longer := placed.byteLength_le bears filled
  have normal := Code.marked_normalize first.code
  -- Both orders leave one filled template, so immutables are filled into one normal form.
  dsimp only
  rw [← alike.code, Extraction.immutables_of_complete placed.immutables_listed,
    Extraction.immutables_of_complete values_listed, in_place]
  have ended := Extraction.fillImmutables_unordered bears normal
    (fun slot member => (placed.immutables slot member).of_byteLength_le longer) same_values
  refine ended.bind fun second second_other _ _ alike_second => .filled ?_
  have start : Alike
      { status := .differs, transformations := first.transformations, values := first.values,
        code := first.code.normalize, libraryMap := first.libraryMap }
      { status := .differs, transformations := first_other.transformations,
        values := first_other.values, code := first.code.normalize,
        libraryMap := first_other.libraryMap } :=
    ⟨⟨rfl, rfl, alike.values, alike.transformations⟩, alike.distinct, alike.distinct_other⟩
  exact start.extend alike_second

/-- Readable auxdatas give the same status in any order. -/
theorem provenStatus_unordered (readable : Readable style positions)
    (order : positions.Perm places) :
    provenStatus style positions = provenStatus style places := by
  obtain ⟨proves, proved⟩ := allProve_eq_ok readable
  obtain ⟨proves_other, proved_other⟩ := allProve_eq_ok fun place member =>
    readable place (order.mem_iff.mpr member)
  have each : proves = true ↔ ∀ place ∈ positions, provesMetadata style place.2.value = .ok true := by
    rw [← allProve_eq_true_iff, proved, Except.ok.injEq]
  have each_other : proves_other = true ↔
      ∀ place ∈ places, provesMetadata style place.2.value = .ok true := by
    rw [← allProve_eq_true_iff, proved_other, Except.ok.injEq]
  have same : proves = proves_other := by
    rw [Bool.eq_iff_iff, each, each_other]
    simp only [order.mem_iff]
  rw [provenStatus, provenStatus, proved, proved_other, order.isEmpty_eq, same]

/-- A linked template compares the same whatever the order of the auxdatas. -/
theorem compare_unordered (kind : CodeKind) {found other : Match} (alike : found.Alike other)
    (marked : found.code.Marked) (bears : real.Marked) (distinct : positions.Distinct)
    (inside : ∀ place ∈ positions, place.2.extent.Inside found.code)
    (readable : Readable style positions) (order : positions.Perm places) :
    SameEnd Alike (compare kind found real positions style)
      (compare kind other real places style) := by
  by_cases agreed : agrees kind found.code real = true
  · have agreed_other : agrees kind other.code real = true := alike.code ▸ agreed
    obtain ⟨status, proved, -⟩ := provenStatus_eq_ok readable
    rw [compare, compare, if_pos agreed, if_pos agreed_other,
      ← provenStatus_unordered readable order, proved]
    exact .filled (alike.withStatus status)
  · have agreed_other : ¬ agrees kind other.code real = true := alike.code ▸ agreed
    cases positions with
    | nil =>
      obtain rfl := order.nil_eq
      rw [compare, compare, if_neg agreed, if_neg agreed_other]
      exact .filled alike
    | cons place rest =>
      cases places with
      | nil => exact absurd order.eq_nil (List.cons_ne_nil _ _)
      | cons place_other rest_other =>
        rw [compare_of_not_agrees style place rest agreed,
          compare_of_not_agrees style place_other rest_other agreed_other, ← alike.code]
        have taken := Extraction.fillAuxdatas_unordered bears marked distinct inside order
        refine taken.map fun auxdatas auxdatas_other alike_auxdatas => ?_
        rw [← alike_auxdatas.code]
        split
        · exact (alike.extend alike_auxdatas).withStatus .partly
        · exact alike

/-- A template is linked and compared the same whatever the order of its parts. -/
theorem compared_unordered (kind : CodeKind)
    (placed : Placed template libraries positions immutables) (bears : real.Marked)
    (distinct : positions.Distinct) (readable : Readable style positions)
    (in_place : style.immutableAction = .replace) (order : libraries.Reordered others)
    (order_values : immutables.Reordered slots) (order_places : positions.Perm places) :
    SameEnd Alike
      (linked template real libraries immutables style >>= fun found =>
        compare kind found real positions style)
      (linked template real others slots style >>= fun found =>
        compare kind found real places style) := by
  have begun := linked_unordered placed bears in_place order order_values
  refine begun.bind fun found other link _ alike => ?_
  obtain ⟨marked, longer⟩ := placed.linked bears in_place link
  exact compare_unordered kind alike marked bears distinct
    (fun place member => (placed.places place member).of_byteLength_le longer) readable
    order_places

/-- Where a part that is missing makes a difference, matchings that end alike give the same match. -/
theorem orDiffers_unordered {result other : Except Failure Match} (ended : SameEnd Alike result other)
    (template : Code) :
    ∃ found found_other, orDiffers template result = .ok found ∧
      orDiffers template other = .ok found_other ∧ found.Alike found_other := by
  cases ended with
  | filled alike => exact ⟨_, _, rfl, rfl, alike⟩
  | missing error other => exact ⟨_, _, rfl, rfl, .unfilled .differs template⟩

/-- The code that a contract runs matches the same whatever the order of the parts. -/
theorem runtime_unordered (real : Code) (placed : Placed template libraries positions immutables)
    (clear : ∀ extent ∈ Extraction.protectionExtents template, ∀ slot ∈ libraries.entries,
      slot.extent.Apart extent)
    (distinct : positions.Distinct) (readable : Readable style positions)
    (in_place : style.immutableAction = .replace) (order : libraries.Reordered others)
    (order_values : immutables.Reordered slots) (order_places : positions.Perm places) :
    ∃ found other, runtime template real libraries positions immutables style = .ok found ∧
      runtime template real others places slots style = .ok other ∧ found.Same other := by
  have bears := Code.marked_normalize real
  rcases Extraction.callProtection_decides template bears with
    ⟨protection, filled, code⟩ | ⟨failure, failed, ⟨error, rfl⟩, -⟩
  · have compared := compared_unordered .runtime (placed.callProtection clear code) bears distinct
      readable in_place order order_values order_places
    obtain ⟨found, other, ran, ran_other, alike⟩ :=
      orDiffers_unordered compared protection.code.normalize
    simp only [runtime, filled, ofCode_runtime, Code.normalize_normalize, ran, ran_other]
    exact ⟨_, _, rfl, rfl, {
      status := alike.status
      code := alike.code
      values := (Values.Same.refl _).merge alike.values alike.distinct alike.distinct_other
      transformations :=
        (Transformation.PermutedWithin.refl _).append alike.transformations }⟩
  · simp only [runtime, failed]
    exact ⟨_, _, rfl, rfl, (Alike.unfilled .differs template).toSame⟩

/-- The record of arguments has no tables. -/
theorem arguments_distinct {interface : Json} {after : Extraction}
    (taken : Extraction.constructorArguments real template interface = .ok after) :
    after.values.Distinct := by
  rcases Nat.lt_or_ge template.length real.length with long | short
  · rw [Extraction.constructorArguments_eq_ok long taken]
    exact .of_tables_nil rfl rfl rfl
  · rw [Extraction.constructorArguments_of_le short, Except.ok.injEq] at taken
    rw [← taken]
    exact .of_tables_nil rfl rfl rfl

/-- Taking arguments behind matches that are the same ends in the same way. -/
theorem takeArguments_unordered (real : Code) {found other : Match} (alike : found.Alike other)
    (interface : Json) :
    SameResult (takeArguments found real interface) (takeArguments other real interface) := by
  by_cases unmatched : found.status = .differs
  · rw [takeArguments_of_differs unmatched,
      takeArguments_of_differs (alike.status.symm.trans unmatched)]
    exact .found alike.toSame
  · have matched_other : other.status ≠ .differs := alike.status ▸ unmatched
    rw [takeArguments_of_matched unmatched, takeArguments_of_matched matched_other, ← alike.code]
    cases taken : Extraction.constructorArguments real found.code interface with
    | error failure => exact .failed failure
    | ok arguments =>
      have distinct := arguments_distinct taken
      have same : arguments.Alike arguments :=
        ⟨rfl, .refl _, .refl _, distinct, distinct⟩
      exact .found (alike.extend same).toSame

/-- Matchings that end in the same way do so where a part that is missing makes a difference. -/
theorem SameResult.orDiffers {result other : Except Failure Match} (ended : SameResult result other)
    (template : Code) : SameResult (orDiffers template result) (orDiffers template other) := by
  cases ended with
  | found same => exact .found same
  | failed failure =>
    cases failure with
    | region error => exact .found (Alike.unfilled .differs template).toSame
    | _ => exact .failed _

/-- The code that creates a contract matches or fails the same whatever the order of the parts. -/
theorem creation_unordered (real : Code) (interface : Json)
    (placed : Placed template libraries positions .empty) (distinct : positions.Distinct)
    (readable : Readable style positions) (in_place : style.immutableAction = .replace)
    (order : libraries.Reordered others) (order_places : positions.Perm places) :
    SameResult (creation template real libraries positions interface style)
      (creation template real others places interface style) := by
  have compared := compared_unordered .creation placed (Code.marked_normalize real) distinct
    readable in_place order (.refl .empty) order_places
  rw [creation, creation, ofCode_creation, ofCode_creation]
  generalize (linked template real.normalize libraries .empty style >>= fun found =>
    compare .creation found real.normalize positions style) = result at compared ⊢
  generalize (linked template real.normalize others .empty style >>= fun found =>
    compare .creation found real.normalize places style) = other at compared ⊢
  cases compared with
  | missing error other => exact .found (Alike.unfilled .differs template.normalize).toSame
  | filled alike =>
    change SameResult (orDiffers _ (takeArguments _ _ _)) (orDiffers _ (takeArguments _ _ _))
    exact (takeArguments_unordered real.normalize alike interface).orDiffers template.normalize

/-- The verdict does not depend on the order in which references and auxdatas are listed. Where the
parts lie inside the template, slots of libraries hold placeholders and are apart from one another and
from call protection, and auxdatas can be read or not for a known reason, other orders of the files,
libraries, ids, references and auxdatas give the same match of the code that a contract runs, and the
same match or failure of the code that creates it. -/
theorem order_immaterial (template real : Code) (interface : Json)
    {links links_other references references_other : Json}
    (placed : Placed template (LibrarySlot.listing links) positions (ImmutableSlot.listing references))
    (clear : ∀ extent ∈ Extraction.protectionExtents template,
      ∀ slot ∈ (LibrarySlot.listing links).entries, slot.extent.Apart extent)
    (distinct : positions.Distinct) (readable : Readable style positions)
    (in_place : style.immutableAction = .replace) (order : links.LinksReordered links_other)
    (order_values : references.ImmutablesReordered references_other)
    (order_places : positions.Perm places) :
    (∃ found other,
      runtime template real (LibrarySlot.listing links) positions (ImmutableSlot.listing references)
        style = .ok found ∧
      runtime template real (LibrarySlot.listing links_other) places
        (ImmutableSlot.listing references_other) style = .ok other ∧
      found.Same other) ∧
    SameResult
      (creation template real (LibrarySlot.listing links) positions interface style)
      (creation template real (LibrarySlot.listing links_other) places interface style) := by
  have slots := LibrarySlot.listing_reordered order
  have values := ImmutableSlot.listing_reordered order_values
  exact ⟨runtime_unordered real placed clear distinct readable in_place slots values order_places,
    creation_unordered real interface placed.without_immutables distinct readable in_place slots
      order_places⟩

/-- The bytecode of a library with call protection, slots of two other libraries, three bytes for an
immutable, and two auxdatas. -/
def sampleListedCode : Code :=
  Code.marked ('7' :: '3' :: Placeholder.zeros ++ Placeholder.named "A.sol:A" ++
    Placeholder.zeros ++ "000000a164a165".toList)

/-- The deployed library. -/
def sampleListedDeployed : Code := sampleDeployed ['7', '3'] ++ "00FF".toList

/-- A reference to a slot. -/
def sampleReference (start length : Int) : Json :=
  .record [("start", .int start), ("length", .int length)]

/-- The files of two libraries with one slot each. -/
def sampleFiles : List (String × Json) :=
  [("A.sol", .record [("A", .list [sampleReference 21 20])]),
    ("B.sol", .record [("B", .list [sampleReference 41 20])])]

/-- Two slots of one immutable that share a byte. -/
def sampleSpans : List Json := [sampleReference 61 2, sampleReference 62 2]

/-- The places of the two auxdatas. -/
def sampleListedPlaces : AuxdataPositions :=
  [("1", ⟨64, "0xa164".toList⟩), ("2", ⟨66, "0xa165".toList⟩)]

/-- The match of the deployed library with files, auxdatas and slots of the immutable in an order. -/
def sampleRun (files : List (String × Json)) (places : AuxdataPositions) (spans : List Json) :
    Except Failure Match :=
  runtime sampleListedCode sampleListedDeployed (LibrarySlot.listing (.record files)) places
    (ImmutableSlot.listing (.record [("5", .list spans)])) .solidity

/-- The code of the deployed library matched as code that creates a contract. -/
def sampleMade (files : List (String × Json)) (places : AuxdataPositions) : Except Failure Match :=
  creation sampleListedCode sampleListedDeployed (LibrarySlot.listing (.record files)) places .null
    .solidity

set_option maxRecDepth 20000 in
/-- The sample matches partly, and so it does with everything listed the other way round. Its
transformations are then in another order. -/
theorem order_immaterial_sample :
    (∃ found other, sampleRun sampleFiles sampleListedPlaces sampleSpans = .ok found ∧
      sampleRun sampleFiles.reverse sampleListedPlaces.reverse sampleSpans.reverse = .ok other ∧
      found.Same other ∧ found.status = .partly ∧
      found.transformations ≠ other.transformations) ∧
    SameResult (sampleMade sampleFiles sampleListedPlaces)
      (sampleMade sampleFiles.reverse sampleListedPlaces.reverse) := by
  have laid : Laid sampleListedCode (LibrarySlot.listing (.record sampleFiles)) sampleListedPlaces
      (ImmutableSlot.listing (.record [("5", .list sampleSpans)])) := by decide +kernel
  have clear : ∀ extent ∈ Extraction.protectionExtents sampleListedCode,
      ∀ slot ∈ (LibrarySlot.listing (.record sampleFiles)).entries, slot.extent.Apart extent := by
    decide +kernel
  have distinct : sampleListedPlaces.Distinct := List.nodup_iff_pairwise_ne.mpr (by decide +kernel)
  have readable : Readable .solidity sampleListedPlaces := by decide +kernel
  have order : (Json.record sampleFiles).LinksReordered (.record sampleFiles.reverse) :=
    .members (List.reverse_perm _).symm (List.forall₂_same.mpr fun _ _ => ⟨rfl, .same _⟩)
  have order_values : (Json.record [("5", .list sampleSpans)]).ImmutablesReordered
      (.record [("5", .list sampleSpans.reverse)]) :=
    .members (.refl _) (.cons ⟨rfl, .items (List.reverse_perm _).symm⟩ .nil)
  obtain ⟨⟨found, other, ran, ran_other, same⟩, made⟩ :=
    order_immaterial sampleListedCode sampleListedDeployed .null laid.placed clear distinct readable
      rfl order order_values (List.reverse_perm sampleListedPlaces).symm
  obtain ⟨answered, ran_again, status⟩ := exists_of_status (show
    (sampleRun sampleFiles sampleListedPlaces sampleSpans).toOption.map Match.status = some .partly by
      decide +kernel)
  obtain rfl := Except.ok.inj (ran.symm.trans ran_again)
  have apart : (sampleRun sampleFiles sampleListedPlaces sampleSpans).toOption.map
        Match.transformations ≠
      (sampleRun sampleFiles.reverse sampleListedPlaces.reverse sampleSpans.reverse).toOption.map
        Match.transformations := by decide +kernel
  refine ⟨⟨found, other, ran, ran_other, same, status, fun alike => apart ?_⟩, made⟩
  rw [sampleRun, sampleRun, ran, ran_other]
  exact congrArg some alike

end Attest.Match
