import Attest.Match
import Attest.Proofs.Extraction.Filled

/-!
# When a deployed code corresponds to a template

What a match is to decide, said without filling anything in: the deployed code has the length that
its kind asks for, has the template's characters in small letters outside the parts that are filled
in (`Code.AgreesOutside`), and has one text in all slots of one library and of one immutable
(`Match.Corresponds`).
-/
namespace Attest

/-- The sizes that deployed code may have beside a template: that of the template, or for code that
creates a contract a larger one. -/
def CodeKind.Fits : CodeKind → Nat → Nat → Prop
  | .runtime, size, deployed => deployed = size
  | .creation, size, deployed => size ≤ deployed

instance (kind : CodeKind) (size deployed : Nat) : Decidable (kind.Fits size deployed) :=
  match kind with
  | .runtime => inferInstanceAs (Decidable (deployed = size))
  | .creation => inferInstanceAs (Decidable (size ≤ deployed))

/-- Deployed code that fits is not shorter than the template. -/
theorem CodeKind.Fits.le {kind : CodeKind} {size deployed : Nat} (fits : kind.Fits size deployed) :
    size ≤ deployed := by
  cases kind with
  | runtime => exact Nat.le_of_eq (Eq.symm fits)
  | creation => exact fits

namespace Code

/-- Whether the character of a template at an index becomes the deployed one in small letters. -/
def SameAt (template real : Code) (index : Nat) : Prop :=
  template[index]?.map Text.lowerChar = real[index]?.map fun c => [c]

instance (template real : Code) (index : Nat) : Decidable (template.SameAt real index) :=
  inferInstanceAs (Decidable (_ = _))

/-- Whether a template is the deployed code outside extents, capital letters aside. -/
def AgreesOutside (extents : List Extent) (template real : Code) : Prop :=
  ∀ index < template.length, (∀ extent ∈ extents, ¬ extent.Covers index) →
    template.SameAt real index

instance (extents : List Extent) (template real : Code) :
    Decidable (AgreesOutside extents template real) :=
  decidable_of_iff (∀ index ∈ List.range template.length,
      (∀ extent ∈ extents, ¬ extent.Covers index) → template.SameAt real index) <| by
    simp only [List.mem_range, AgreesOutside]

/-- Whether a code is the deployed one outside extents. -/
def SameOutside (extents : List Extent) (code real : Code) : Prop :=
  ∀ index < code.length, (∀ extent ∈ extents, ¬ extent.Covers index) →
    code[index]? = real[index]?

/-- A code without a capital dotted I outside extents: only of this letter the small form has two
characters. -/
def PlainOutside (code : Code) (extents : List Extent) : Prop :=
  ∀ (index : Nat) (c : Char), code[index]? = some c →
    (∀ extent ∈ extents, ¬ extent.Covers index) → c.toNat ≠ 0x130

instance (code : Code) (extents : List Extent) : Decidable (code.PlainOutside extents) :=
  decidable_of_iff (∀ pair ∈ code.zipIdx,
      (∀ extent ∈ extents, ¬ extent.Covers pair.2) → pair.1.toNat ≠ 0x130) <| by
    constructor
    · intro plain index c found
      exact plain (c, index) (List.mk_mem_zipIdx_iff_getElem?.mpr found)
    · intro plain pair member
      exact plain pair.2 pair.1 (List.mem_zipIdx_iff_getElem?.mp member)

variable {template code real : Code} {extents : List Extent}

/-- Normalizing a code without a capital dotted I lowers it character for character. -/
theorem map_normalize (bears : code.Marked) (plain : code.PlainOutside []) :
    code.normalize.map (fun c => [c]) = code.map Text.lowerChar := by
  rw [normalize_eq_lower bears]
  refine Text.map_lower fun c member => ?_
  obtain ⟨index, found⟩ := List.mem_iff_getElem?.mp member
  exact plain index c found (by simp)

/-- Normalizing a code without a capital dotted I keeps its length. -/
theorem length_normalize (bears : code.Marked) (plain : code.PlainOutside []) :
    code.normalize.length = code.length := by
  have lengths := congrArg List.length (map_normalize bears plain)
  simpa using lengths

/-- The text of an extent of a normalized code is the small form of the text there. -/
theorem textIn_normalize (bears : code.Marked) (plain : code.PlainOutside []) {extent : Extent}
    (regular : extent.Regular) :
    code.normalize.textIn extent = Text.lower (code.textIn extent) := by
  have alone : ∀ c ∈ code.textIn extent, c.toNat ≠ 0x130 := by
    intro c member
    obtain ⟨index, found⟩ := List.mem_iff_getElem?.mp (mem_of_mem_region member)
    exact plain index c found (by simp)
  have lowered := Text.map_lower alone
  apply (List.map_inj_right fun _ _ => List.singleton_inj.mp).mp
  rw [lowered]
  simp only [textIn, region_eq _ regular]
  rw [List.map_drop, List.map_take, List.map_drop, List.map_take, map_normalize bears plain]

/-- A normalized code has a deployed character exactly where the code becomes it. -/
theorem getElem?_normalize_eq_iff (bears : code.Marked) (plain : code.PlainOutside [])
    (index : Nat) : code.normalize[index]? = real[index]? ↔ code.SameAt real index := by
  have lowered : code.normalize[index]?.map (fun c => [c]) = code[index]?.map Text.lowerChar := by
    rw [← List.getElem?_map, ← List.getElem?_map, map_normalize bears plain]
  rw [SameAt, ← lowered]
  constructor
  · intro same
    rw [same]
  · intro same
    refine Option.map_injective (fun c d listed => ?_) same
    exact List.singleton_inj.mp listed

/-- A normalized code is the deployed one outside extents exactly if the code agrees with it there. -/
theorem sameOutside_normalize_iff (bears : code.Marked) (plain : code.PlainOutside []) :
    SameOutside extents code.normalize real ↔ AgreesOutside extents code real := by
  rw [SameOutside, AgreesOutside, length_normalize bears plain]
  refine forall_congr' fun index => forall_congr' fun _ => forall_congr' fun _ => ?_
  exact getElem?_normalize_eq_iff bears plain index

/-- A small deployed code agrees with itself. -/
theorem sameAt_of_eq {index : Nat} (small : Text.Small real) (same : code[index]? = real[index]?) :
    code.SameAt real index := by
  rw [SameAt, same]
  cases found : real[index]? with
  | none => rfl
  | some c => exact congrArg some (small c (List.mem_of_getElem? found))

/-- A filled code agrees outside further extents exactly if its template does outside all. -/
theorem FilledFrom.agreesOutside_iff (filled : code.FilledFrom real extents template)
    (more : List Extent) (small : Text.Small real) :
    AgreesOutside more code real ↔ AgreesOutside (extents ++ more) template real := by
  constructor
  · intro agrees index inside free
    have same := agrees index (filled.length ▸ inside) fun extent member => free extent (by
      simp [member])
    have old := filled.elsewhere index fun extent member => free extent (by simp [member])
    rwa [SameAt, old] at same
  · intro agrees index inside free
    by_cases covered : ∃ extent ∈ extents, extent.Covers index
    · exact sameAt_of_eq small (filled.within index covered)
    · have apart : ∀ extent ∈ extents, ¬ extent.Covers index := by simpa using covered
      rw [SameAt, filled.elsewhere index apart]
      refine agrees index (filled.length ▸ inside) fun extent member => ?_
      rcases List.mem_append.mp member with early | late
      · exact apart extent early
      · exact free extent late

/-- A filled code is the deployed one outside further extents exactly if its template is outside
all. -/
theorem FilledFrom.sameOutside_iff {more : List Extent}
    (filled : code.FilledFrom real extents template) :
    SameOutside more code real ↔ SameOutside (extents ++ more) template real := by
  constructor
  · intro same index inside free
    have old := filled.elsewhere index fun extent member => free extent (by simp [member])
    rw [← old]
    exact same index (filled.length ▸ inside) fun extent member => free extent (by simp [member])
  · intro same index inside free
    by_cases covered : ∃ extent ∈ extents, extent.Covers index
    · exact filled.within index covered
    · have apart : ∀ extent ∈ extents, ¬ extent.Covers index := by simpa using covered
      rw [filled.elsewhere index apart]
      refine same index (filled.length ▸ inside) fun extent member => ?_
      rcases List.mem_append.mp member with early | late
      · exact apart extent early
      · exact free extent late

/-- A filled code has no capital dotted I outside further extents if its template has none outside
all. -/
theorem FilledFrom.plain {more : List Extent} (small : Text.Small real)
    (filled : code.FilledFrom real extents template)
    (plain : template.PlainOutside (extents ++ more)) : code.PlainOutside more := by
  intro index c found free
  by_cases covered : ∃ extent ∈ extents, extent.Covers index
  · rw [filled.within index covered] at found
    exact Text.toNat_ne_of_small (small c (List.mem_of_getElem? found))
  · have apart : ∀ extent ∈ extents, ¬ extent.Covers index := by simpa using covered
    rw [filled.elsewhere index apart] at found
    refine plain index c found fun extent member => ?_
    rcases List.mem_append.mp member with early | late
    · exact apart extent early
    · exact free extent late

/-- A filled code begins with the two characters of its template if all extents count upwards. -/
theorem FilledFrom.take_two (filled : code.FilledFrom real extents template)
    (nonneg : ∀ extent ∈ extents, extent.Nonneg) : code.take 2 = template.take 2 := by
  refine List.ext_getElem? fun index => ?_
  rw [List.getElem?_take, List.getElem?_take]
  split
  · rename_i before
    refine filled.elsewhere index fun extent member covers => ?_
    have behind := (nonneg extent member).two_le_first
    have from_first := covers.1
    omega
  · rfl

/-- A filled code bears the mark if its template does and all extents count upwards. -/
theorem FilledFrom.marked (filled : code.FilledFrom real extents template)
    (bears : template.Marked) (nonneg : ∀ extent ∈ extents, extent.Nonneg) : code.Marked :=
  bears.of_take (filled.take_two nonneg)

/-- A filled code has as many bytes as its template if all extents count upwards. -/
theorem FilledFrom.byteLength (filled : code.FilledFrom real extents template)
    (nonneg : ∀ extent ∈ extents, extent.Nonneg) : code.byteLength = template.byteLength :=
  byteLength_of_take (filled.take_two nonneg) filled.length

end Code

/-- Extents inside a code count upwards. -/
theorem Extent.nonneg_of_inside {α : Type} {items : List α} {extent : α → Extent} {code : Code}
    (inside : ∀ item ∈ items, (extent item).Inside code) :
    ∀ part ∈ items.map extent, part.Nonneg :=
  List.forall_mem_map.mpr fun item member => (inside item member).toNonneg

/-- What lies inside a code lies inside every code that is no shorter. -/
theorem Extent.Inside.of_le {extent : Extent} {code other : Code} (inside : extent.Inside code)
    (bears : code.Marked) (bears_other : other.Marked) (longer : code.length ≤ other.length) :
    extent.Inside other := by
  refine inside.of_byteLength_le (Nat.div_le_div_right ?_)
  have length := bears.length_eq
  have length_other := bears_other.length_eq
  omega

/-- What lies inside a code lies inside every code of the same length. -/
theorem Extent.Inside.of_length {extent : Extent} {code other : Code} (inside : extent.Inside code)
    (bears : code.Marked) (bears_other : other.Marked) (same : other.length = code.length) :
    extent.Inside other :=
  inside.of_le bears bears_other (Nat.le_of_eq same.symm)

namespace Match

/-- A filled template agrees with the deployed code exactly if the sizes fit and the characters of
the template are the deployed ones. -/
theorem agrees_iff {kind : CodeKind} {code real : Code} :
    agrees kind code real = true ↔
      kind.Fits code.length real.length ∧ Code.SameOutside [] code real := by
  have everywhere : Code.SameOutside [] code real ↔
      ∀ index < code.length, code[index]? = real[index]? := by
    simp [Code.SameOutside]
  rw [everywhere]
  cases kind with
  | runtime =>
    rw [agrees, beq_iff_eq, CodeKind.Fits]
    constructor
    · rintro rfl
      exact ⟨rfl, fun _ _ => rfl⟩
    · rintro ⟨same, characters⟩
      refine List.ext_getElem? fun index => ?_
      rcases Nat.lt_or_ge index code.length with inside | behind
      · exact characters index inside
      · rw [List.getElem?_eq_none behind, List.getElem?_eq_none (same ▸ behind)]
  | creation =>
    rw [agrees, List.isPrefixOf_iff_prefix, CodeKind.Fits]
    constructor
    · rintro ⟨rest, rfl⟩
      refine ⟨by simp, fun index inside => ?_⟩
      rw [List.getElem?_append_left inside]
    · rintro ⟨long, characters⟩
      rw [List.prefix_iff_eq_take]
      refine List.ext_getElem? fun index => ?_
      rw [List.getElem?_take]
      split
      · rename_i inside
        exact characters index inside
      · rename_i behind
        exact List.getElem?_eq_none (Nat.not_lt.mp behind)

/-- What a match decides: whether a deployed code is the template but for the parts that are filled
in, the extents given and those of libraries, immutables and auxdatas. -/
structure Corresponds (kind : CodeKind) (given : List Extent) (template real : Code)
    (libraries : Listing LibrarySlot) (positions : AuxdataPositions)
    (immutables : Listing ImmutableSlot) : Prop where
  /-- The deployed code has the length of the template, or for code that creates a contract at least
  that length. -/
  fits : kind.Fits template.length real.length
  /-- It has the characters of the template outside all parts. -/
  agrees : Code.AgreesOutside (given ++ libraries.entries.map LibrarySlot.extent ++
    immutables.entries.map ImmutableSlot.extent ++ positions.map fun place => place.2.extent)
    template real
  /-- It has one text in all slots of one library. -/
  libraries : real.OneText (libraries.entries.map LibrarySlot.site)
  /-- It has one text in all slots of one immutable. -/
  immutables : real.OneText (immutables.entries.map ImmutableSlot.site)

instance (kind : CodeKind) (given : List Extent) (template real : Code)
    (libraries : Listing LibrarySlot) (positions : AuxdataPositions)
    (immutables : Listing ImmutableSlot) :
    Decidable (Corresponds kind given template real libraries positions immutables) :=
  decidable_of_iff (kind.Fits template.length real.length ∧
      Code.AgreesOutside (given ++ libraries.entries.map LibrarySlot.extent ++
        immutables.entries.map ImmutableSlot.extent ++ positions.map fun place => place.2.extent)
        template real ∧
      real.OneText (libraries.entries.map LibrarySlot.site) ∧
      real.OneText (immutables.entries.map ImmutableSlot.site))
    ⟨fun ⟨fits, agrees, addresses, values⟩ => ⟨fits, agrees, addresses, values⟩,
      fun corresponds => ⟨corresponds.fits, corresponds.agrees, corresponds.libraries,
        corresponds.immutables⟩⟩

end Match

end Attest
