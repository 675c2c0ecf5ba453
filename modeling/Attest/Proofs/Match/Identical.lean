import Attest.Proofs.Auxdata.Decoded
import Attest.Proofs.Auxdata.Tail
import Attest.Proofs.Match.Creation

/-!
# Matching code that is the deployed one

Where a template, once its slots are filled, is the deployed code in all bytes, only its auxdatas are
left to ask, one after another until one proves no metadata. What is asked of them is whether they
can be read, so the match holds, perfectly or partly, exactly if all that are asked have kinds that
answer; otherwise a fault of the auxdata ends it (`legible_auxdatas_decide`).
-/
namespace Attest.Match

variable {template real : Code} {libraries : Listing LibrarySlot} {positions : AuxdataPositions}
  {immutables : Listing ImmutableSlot} {style : AuxdataStyle} {kind : CodeKind}

/-- A template that, with its slots filled, is the deployed code. -/
def Reproduces (template real : Code) (libraries : Listing LibrarySlot)
    (immutables : Listing ImmutableSlot) (style : AuxdataStyle) : Prop :=
  ∃ found, linked template real.normalize libraries immutables style = .ok found ∧
    found.code = real.normalize

/-- A template without slots is linked as it stands. -/
theorem linked_empty (template real : Code) (style : AuxdataStyle) :
    linked template real .empty .empty style =
      .ok { status := .differs, code := template.normalize } := rfl

/-- A template with the bytes of the deployed code and no slots is the deployed code. -/
theorem reproduces_of_same (same : template.normalize = real.normalize) (style : AuxdataStyle) :
    Reproduces template real .empty .empty style :=
  ⟨_, linked_empty template real.normalize style, same⟩

/-- A template with slots is the deployed code, these filled, exactly if the deployed code corresponds
to it and no auxdata is left out. -/
theorem reproduces_iff (laid : Laid template libraries [] immutables)
    (in_place : style.immutableAction = .replace ∨ immutables.entries = []) :
    Reproduces template real libraries immutables style ↔
      Corresponds .runtime [] template real.normalize libraries [] immutables := by
  have bears := Code.marked_normalize real
  have small := Code.small_normalize real
  rcases linked_decides laid bears small in_place with
    ⟨found, link, from_template, one_address, one_value⟩ | ⟨failure, failed, -, unfilled⟩
  · have whole : found.code = real.normalize ↔ agrees .runtime found.code real.normalize = true :=
      beq_iff_eq.symm
    have linked_iff : Reproduces template real libraries immutables style ↔
        found.code = real.normalize := by
      constructor
      · rintro ⟨other, ran, same⟩
        rwa [Except.ok.inj (link.symm.trans ran)]
      · exact fun same => ⟨found, link, same⟩
    rw [linked_iff, whole, agrees_iff, from_template.length, from_template.same_iff]
    constructor
    · rintro ⟨fits, agrees⟩
      exact ⟨fits, agrees, one_address, one_value⟩
    · intro corresponds
      exact ⟨corresponds.fits, corresponds.agrees⟩
  · constructor
    · rintro ⟨found, link, -⟩
      rw [failed] at link
      contradiction
    · intro corresponds
      exact absurd (corresponds.fills laid) unfilled

/-- An auxdata that is asked whether it proves the metadata: all before it do. -/
def Asked (style : AuxdataStyle) (positions : AuxdataPositions)
    (place : String × AuxdataPosition) : Prop :=
  ∃ before after, positions = before ++ place :: after ∧
    ∀ earlier ∈ before, provesMetadata style earlier.2.value = .ok true

/-- The first auxdata is asked, and the later ones if it proves the metadata. -/
theorem asked_cons_iff {first place : String × AuxdataPosition} {rest : AuxdataPositions} :
    Asked style (first :: rest) place ↔
      place = first ∨
        (provesMetadata style first.2.value = .ok true ∧ Asked style rest place) := by
  constructor
  · rintro ⟨before, after, parts, proves⟩
    cases before with
    | nil => exact .inl (List.cons.inj parts).1.symm
    | cons earlier before =>
      obtain ⟨rfl, rfl⟩ := List.cons.inj parts
      obtain ⟨proved, later⟩ := List.forall_mem_cons.mp proves
      exact .inr ⟨proved, before, after, rfl, later⟩
  · rintro (rfl | ⟨proved, before, after, rfl, later⟩)
    · exact ⟨[], rest, rfl, by simp⟩
    · exact ⟨first :: before, after, rfl, List.forall_mem_cons.mpr ⟨proved, later⟩⟩

/-- Of no auxdatas none is asked. -/
theorem not_asked_nil (place : String × AuxdataPosition) : ¬ Asked style [] place := by
  rintro ⟨before, after, parts, -⟩
  simp at parts

/-- Positions whose values each are split before an auxdata. -/
def Trailing (style : AuxdataStyle) (positions : AuxdataPositions) : Prop :=
  ∀ place ∈ positions, ∃ execution trailer,
    split place.2.value style = .ok ⟨execution, some trailer⟩

/-- The item of a position has kinds that answer all that is asked of it. -/
def LegibleAt (style : AuxdataStyle) (position : AuxdataPosition) : Prop :=
  ∀ execution trailer, split position.value style = .ok ⟨execution, some trailer⟩ →
    Contents.legibleIn style trailer.item = true

/-- All auxdatas that are asked are legible. -/
def Answered (style : AuxdataStyle) (positions : AuxdataPositions) : Prop :=
  ∀ place, Asked style positions place → LegibleAt style place.2

/-- A position is legible exactly if the item that is cut off its value is. -/
theorem legibleAt_iff {position : AuxdataPosition} {execution : Code} {trailer : Trailer}
    (parts : split position.value style = .ok ⟨execution, some trailer⟩) :
    LegibleAt style position ↔ Contents.legibleIn style trailer.item = true := by
  constructor
  · exact fun legible => legible execution trailer parts
  · intro legible _ other also
    rw [parts] at also
    cases also
    exact legible

/-- A single auxdata is asked. -/
theorem answered_singleton_iff {place : String × AuxdataPosition} :
    Answered style [place] ↔ LegibleAt style place.2 := by
  simp only [Answered, asked_cons_iff, not_asked_nil, and_false, or_false, forall_eq]

/-- An auxdata says whether it proves the metadata exactly if it is legible, and otherwise asking it
is a fault. -/
theorem provesMetadata_decides {position : AuxdataPosition} {execution : Code} {trailer : Trailer}
    (parts : split position.value style = .ok ⟨execution, some trailer⟩) :
    (LegibleAt style position ∧ ∃ proves, provesMetadata style position.value = .ok proves) ∨
      (¬ LegibleAt style position ∧
        ∃ fault, provesMetadata style position.value = .error (.fault fault)) := by
  rw [legibleAt_iff parts, provesMetadata, Contents.decode_of_split parts]
  rcases Contents.ofItem_decides style trailer.item with
    ⟨legible, ⟨contents, read⟩ | ⟨error, told⟩⟩ | ⟨other, fault, failed⟩
  · rw [read]
    exact .inl ⟨legible, _, rfl⟩
  · rw [told]
    exact .inl ⟨legible, _, rfl⟩
  · rw [failed]
    exact .inr ⟨Bool.not_eq_true _ ▸ other, _, rfl⟩

/-- Auxdatas say whether all prove the metadata exactly if those that are asked are legible, and
otherwise asking them is a fault. -/
theorem allProve_decides (trailing : Trailing style positions) :
    (Answered style positions ∧ ∃ proves, allProve style positions = .ok proves) ∨
      (¬ Answered style positions ∧
        ∃ fault, allProve style positions = .error (.fault fault)) := by
  induction positions with
  | nil =>
    exact .inl ⟨fun place asked => absurd asked (not_asked_nil place), true, rfl⟩
  | cons first rest inductive_hypothesis =>
    obtain ⟨⟨execution, trailer, parts⟩, later⟩ := List.forall_mem_cons.mp trailing
    simp only [Answered, asked_cons_iff, forall_eq_or_imp, allProve, bind, Except.bind]
    rcases provesMetadata_decides parts with ⟨legible, proves, told⟩ | ⟨illegible, fault, failed⟩
    · rw [told]
      cases proves with
      | true =>
        simp only [true_and, ↓reduceIte]
        rcases inductive_hypothesis later with ⟨answered, result⟩ | ⟨unanswered, result⟩
        · exact .inl ⟨⟨legible, answered⟩, result⟩
        · exact .inr ⟨fun both => unanswered both.2, result⟩
      | false =>
        -- It ends the asking: what stands behind it may be of any kind.
        refine .inl ⟨⟨legible, ?_⟩, false, rfl⟩
        simp
    · rw [failed]
      exact .inr ⟨fun both => illegible both.1, fault, rfl⟩

/-- Code that agrees as it is comes to a match exactly if the auxdatas that are asked are legible, and
otherwise asking them is a fault. -/
theorem provenStatus_decides (trailing : Trailing style positions) :
    (Answered style positions ∧ ∃ status, provenStatus style positions = .ok status ∧
        (status = .perfect ∨ status = .partly)) ∨
      (¬ Answered style positions ∧
        ∃ fault, provenStatus style positions = .error (.fault fault)) := by
  cases positions with
  | nil =>
    rcases allProve_decides trailing with ⟨answered, -⟩ | ⟨-, fault, failed⟩
    · exact .inl ⟨answered, .partly, rfl, .inr rfl⟩
    · contradiction
  | cons first rest =>
    rw [provenStatus]
    simp only [List.isEmpty_cons, Bool.false_eq_true, ↓reduceIte]
    rcases allProve_decides trailing with ⟨answered, proves, told⟩ | ⟨unanswered, fault, failed⟩
    · rw [told]
      cases proves with
      | true => exact .inl ⟨answered, .perfect, rfl, .inl rfl⟩
      | false => exact .inl ⟨answered, .partly, rfl, .inr rfl⟩
    · rw [failed]
      exact .inr ⟨unanswered, fault, rfl⟩

/-- A linked template that is the deployed code has only its status left to find out, and nothing
follows it. -/
theorem ofCode_of_whole {found : Match} (kind : CodeKind) (positions : AuxdataPositions)
    (interface : Json)
    (link : linked template real.normalize libraries immutables style = .ok found)
    (whole : found.code = real.normalize) :
    (∀ status, provenStatus style positions = .ok status → status ≠ .differs →
      ∃ result, ofCode kind template real libraries positions immutables style interface =
        .ok result ∧ result.status = status) ∧
    ∀ fault, provenStatus style positions = .error (.fault fault) →
      ofCode kind template real libraries positions immutables style interface =
        .error (.fault fault) := by
  have same : agrees kind found.code real.normalize = true := by
    rw [whole]
    cases kind <;> simp [agrees]
  have short : real.normalize.length ≤ found.code.length := Nat.le_of_eq (by rw [whole])
  constructor
  · intro status proved matched
    have compared : compare kind found real.normalize positions style =
        .ok { found with status } := by
      rw [compare, if_pos same, proved]
      rfl
    cases kind with
    | runtime =>
      refine ⟨{ found with status }, ?_, rfl⟩
      simp only [ofCode, link, bind, Except.bind, compared]
      rfl
    | creation =>
      have nothing := Extraction.constructorArguments_of_le short interface
      refine ⟨Match.extend { found with status } { code := found.code }, ?_, rfl⟩
      simp only [ofCode, link, bind, Except.bind, compared]
      rw [takeArguments_of_matched (by exact matched)]
      dsimp only
      rw [nothing]
      rfl
  · intro fault failed
    have compared : compare kind found real.normalize positions style = .error (.fault fault) := by
      rw [compare, if_pos same, failed]
      rfl
    simp only [ofCode, link, bind, Except.bind, compared]
    rfl

/-- A template that is the deployed code matches exactly if the auxdatas that are asked are legible,
and otherwise the matching ends in a fault. -/
theorem reproduced_decides (kind : CodeKind) (interface : Json)
    (reproduced : Reproduces template real libraries immutables style)
    (trailing : Trailing style positions) :
    (Answered style positions ∧
      ∃ found, ofCode kind template real libraries positions immutables style interface =
        .ok found ∧ (found.status = .perfect ∨ found.status = .partly)) ∨
    (¬ Answered style positions ∧
      ∃ fault, ofCode kind template real libraries positions immutables style interface =
        .error (.fault fault)) := by
  obtain ⟨found, link, whole⟩ := reproduced
  obtain ⟨holds, fails⟩ := ofCode_of_whole kind positions interface link whole
  rcases provenStatus_decides trailing with
    ⟨answered, status, proved, matched⟩ | ⟨unanswered, fault, failed⟩
  · have agreed : status ≠ .differs := by rcases matched with rfl | rfl <;> decide
    obtain ⟨result, ran, rfl⟩ := holds status proved agreed
    exact .inl ⟨answered, result, ran, matched⟩
  · exact .inr ⟨unanswered, fault, fails fault failed⟩

/-- **What an auxdata that was cut off comes to.** Its contents are read, or it is told why it has
none, exactly if its item is legible in its style; and a template that is the deployed code matches,
perfectly or partly, exactly if the auxdatas that are asked are legible. Otherwise the reading, or
the matching, ends in a fault. Two codes with the same bytes are such a template and its deployed
code, and so are a template with slots and a deployed code that corresponds to it, auxdatas and
all. -/
theorem legible_auxdatas_decide (style : AuxdataStyle) :
    (∀ (bytecode execution : Code) (trailer : Trailer),
      split bytecode style = .ok ⟨execution, some trailer⟩ →
        (Contents.legibleIn style trailer.item = true ∧
          ((∃ contents, Contents.decode bytecode style = .ok contents) ∨
            ∃ error, Contents.decode bytecode style = .error (.auxdata error))) ∨
        (Contents.legibleIn style trailer.item = false ∧
          ∃ fault, Contents.decode bytecode style = .error (.fault fault))) ∧
    (∀ (kind : CodeKind) (template real : Code) (libraries : Listing LibrarySlot)
      (positions : AuxdataPositions) (immutables : Listing ImmutableSlot) (interface : Json),
      Reproduces template real libraries immutables style → Trailing style positions →
        (Answered style positions ∧
          ∃ found, ofCode kind template real libraries positions immutables style interface =
            .ok found ∧ (found.status = .perfect ∨ found.status = .partly)) ∨
        (¬ Answered style positions ∧
          ∃ fault, ofCode kind template real libraries positions immutables style interface =
            .error (.fault fault))) ∧
    (∀ template real : Code, template.normalize = real.normalize →
      Reproduces template real .empty .empty style) ∧
    ∀ (template real : Code) (libraries : Listing LibrarySlot) (immutables : Listing ImmutableSlot),
      Laid template libraries [] immutables →
        style.immutableAction = .replace ∨ immutables.entries = [] →
          (Reproduces template real libraries immutables style ↔
            Corresponds .runtime [] template real.normalize libraries [] immutables) := by
  refine ⟨fun bytecode execution trailer parts => ?_, ?_, ?_, ?_⟩
  · rw [Contents.decode_of_split parts]
    exact Contents.ofItem_decides style trailer.item
  · exact fun kind template real libraries positions immutables interface reproduced trailing =>
      reproduced_decides kind interface reproduced trailing
  · exact fun template real same => reproduces_of_same same style
  · exact fun template real libraries immutables laid in_place => reproduces_iff laid in_place

/-- A Vyper auxdata whose list of five begins with a number in the place of the integrity hash. -/
def sampleUnhashed : Code := "0x8500008000a1657679706572830004010012".toList

/-- The sample that ends in a map with a content hash is read, and matches itself; the list is not
read, and does not. -/
theorem legible_auxdatas_decide_sample :
    (∃ contents, Contents.decode AuxdataPosition.sampleBytecode .solidity = .ok contents) ∧
      (∃ found, ofCode .runtime AuxdataPosition.sampleBytecode AuxdataPosition.sampleBytecode
        .empty [("1", ⟨2, AuxdataPosition.sampleBytecode⟩)] .empty .solidity .null = .ok found ∧
        (found.status = .perfect ∨ found.status = .partly)) ∧
      (∃ fault, Contents.decode sampleUnhashed .vyper = .error (.fault fault)) ∧
      ∃ fault, ofCode .creation sampleUnhashed sampleUnhashed .empty [("1", ⟨0, sampleUnhashed⟩)]
        .empty .vyper .null = .error (.fault fault) := by
  have parts : split AuxdataPosition.sampleBytecode .solidity =
      .ok ⟨"0x6001".toList, some ⟨_, _, .map [(.text "ipfs".toList, .bytes [1])]⟩⟩ := rfl
  have parts_vyper : split sampleUnhashed .vyper = .ok ⟨"0x".toList, some ⟨_, _, .list [.int 0,
      .int 0, .list [], .int 0, .map [(.text "vyper".toList, .list [.int 0, .int 4, .int 1])]]⟩⟩ :=
    rfl
  obtain ⟨reads, decides, reproduces, -⟩ := legible_auxdatas_decide .solidity
  obtain ⟨reads_vyper, decides_vyper, reproduces_vyper, -⟩ := legible_auxdatas_decide .vyper
  refine ⟨?_, ?_, ?_, ?_⟩
  · rcases reads _ _ _ parts with ⟨-, read | ⟨error, told⟩⟩ | ⟨other, -⟩
    · exact read
    · cases told
    · exact absurd other (by decide)
  · rcases decides .runtime _ _ .empty [("1", ⟨2, AuxdataPosition.sampleBytecode⟩)] .empty .null
      (reproduces _ _ rfl) (by simpa [Trailing] using ⟨_, _, parts⟩) with ⟨-, result⟩ | ⟨other, -⟩
    · exact result
    · exact absurd (answered_singleton_iff.mpr ((legibleAt_iff parts).mpr rfl)) other
  · rcases reads_vyper _ _ _ parts_vyper with ⟨legible, -⟩ | ⟨-, result⟩
    · exact absurd legible (by decide)
    · exact result
  · rcases decides_vyper .creation _ _ .empty [("1", ⟨0, sampleUnhashed⟩)] .empty .null
      (reproduces_vyper _ _ rfl) (by simpa [Trailing] using ⟨_, _, parts_vyper⟩) with
      ⟨answered, -⟩ | ⟨-, result⟩
    · have legible := (legibleAt_iff parts_vyper).mp (answered_singleton_iff.mp answered)
      exact absurd legible (by decide)
    · exact result

/-- The list is cut off as an auxdata and begins with an item, and neither is it read nor told why not,
nor does it match itself. -/
theorem unhashed_list_escapes :
    (∃ trailer, split sampleUnhashed .vyper = .ok ⟨"0x".toList, some trailer⟩) ∧
      Contents.decode sampleUnhashed .vyper = .error (.fault .wrongKind) ∧
      ofCode .runtime sampleUnhashed sampleUnhashed .empty [("1", ⟨0, sampleUnhashed⟩)] .empty
        .vyper .null = .error (.fault .wrongKind) := by
  refine ⟨⟨_, rfl⟩, rfl, rfl⟩

end Attest.Match
