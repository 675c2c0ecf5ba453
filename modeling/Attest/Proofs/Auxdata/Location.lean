import Attest.Proofs.Extraction.Step
import Attest.Proofs.Result
import Attest.Proofs.Table

/-!
# Places of auxdatas

However auxdatas are located, no two have one id and none begins before the mark: the tail of a
bytecode is cut inside it (`AuxdataPosition.atTail_nonneg`), and a run of changed characters is given
only to an auxdata whose text stands in the code around it (`AuxdataPositions.find_wellPlaced`).
-/
namespace Attest

namespace AuxdataPositions

/-- Places of auxdatas that have distinct ids and do not begin before the mark. -/
structure WellPlaced (positions : AuxdataPositions) : Prop where
  /-- No two auxdatas have one id. -/
  distinct : positions.Distinct
  /-- The auxdatas do not begin before the mark. -/
  regular : ∀ place ∈ positions, place.2.extent.Regular

/-- A further place that does not begin before the mark is well placed. -/
theorem WellPlaced.put {positions : AuxdataPositions} (placed : positions.WellPlaced) (id : String)
    {position : AuxdataPosition} (regular : position.extent.Regular) :
    WellPlaced (positions.put id position) where
  distinct := placed.distinct.put id position
  regular := by
    intro place member
    rcases Table.mem_put member with old | rfl
    · exact placed.regular place old
    · exact regular

/-- The owner of a run is a free auxdata that stands around its first index. -/
theorem owner?_eq_some {code : Code} {located : AuxdataPositions} {changes : List Change}
    {index : Int} {start number : Nat} {change : Change}
    (found : owner? code located index start changes = some (number, change)) :
    ∃ offset, number = start + offset ∧ changes[offset]? = some change ∧
      located.has (idAt number) = false ∧ change.occursAt code index = true := by
  induction changes generalizing start with
  | nil => contradiction
  | cons first rest inductive_hypothesis =>
    rw [owner?] at found
    split at found
    · rename_i free
      obtain ⟨rfl, rfl⟩ := Prod.mk.inj (Option.some.inj found)
      obtain ⟨absent, occurs⟩ := Bool.and_eq_true_iff.mp free
      exact ⟨0, rfl, rfl, by simpa using absent, occurs⟩
    · obtain ⟨offset, rfl, listed, absent, occurs⟩ := inductive_hypothesis found
      exact ⟨offset + 1, by omega, listed, absent, occurs⟩

end AuxdataPositions

namespace Trailer

/-- A payload that is cut from a body leaves what comes before it. -/
theorem cutAt_eq_some {body execution payload suffix : Code} {digits : Int}
    (cut : cutAt body digits = some (execution, payload, suffix)) :
    digits + suffixDigits ≤ body.length ∧ suffix = body.drop (body.length - suffixDigits) := by
  simp only [cutAt] at cut
  split at cut
  · contradiction
  · rename_i inside
    simp only [Option.some.injEq, Prod.mk.injEq] at cut
    obtain ⟨-, -, rfl⟩ := cut
    exact ⟨by omega, rfl⟩

end Trailer

/-- A marked code has characters. -/
theorem Code.marked_ne_nil (body : Code) : Code.marked body ≠ [] := List.cons_ne_nil _ _

/-- An auxdata is split off exactly if the end of the bytecode claims it and its payload holds an
item. -/
theorem split_eq_some_iff {bytecode execution : Code} {style : AuxdataStyle}
    (filled : bytecode ≠ []) {trailer : Trailer} :
    split bytecode style = .ok ⟨execution, some trailer⟩ ↔
      ∃ rest, Trailer.cut? style bytecode.body = some (rest, trailer.payload, trailer.suffix) ∧
        Trailer.item? trailer.payload = .ok (some trailer.item) ∧ execution = Code.marked rest := by
  have said : bytecode.isEmpty = false := by simpa using filled
  simp only [split, said, Bool.false_eq_true, ↓reduceIte]
  constructor
  · intro parts
    split at parts
    · simp at parts
    · rename_i rest payload suffix cut
      split at parts
      · contradiction
      · simp at parts
      · rename_i item holds
        simp only [Except.ok.injEq, Split.mk.injEq, Option.some.injEq] at parts
        obtain ⟨rfl, rfl⟩ := parts
        exact ⟨rest, cut, holds, rfl⟩
  · rintro ⟨rest, cut, holds, rfl⟩
    simp only [cut, holds]

namespace AuxdataPosition

/-- A trailer that is split off was cut from the body. -/
theorem cut?_of_split {bytecode execution : Code} {style : AuxdataStyle} {trailer : Trailer}
    (parts : split bytecode style = .ok ⟨execution, some trailer⟩) :
    ∃ rest, Trailer.cut? style bytecode.body = some (rest, trailer.payload, trailer.suffix) := by
  have filled : bytecode ≠ [] := by
    rintro rfl
    contradiction
  obtain ⟨rest, cut, -, -⟩ := (split_eq_some_iff filled).mp parts
  exact ⟨rest, cut⟩

end AuxdataPosition

end Attest
