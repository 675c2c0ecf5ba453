import Attest.Match
import Attest.Proofs.Extraction.Step

/-!
# The stages of a match

A match links the template, compares it with the deployed code with or without the auxdatas taken
over, and takes what follows for arguments. Each lemma says what a stage that ends well has done, and
`takeArguments` and `orDiffers` what becomes of a failure: only a part that cannot be filled makes a
difference, and the reading of arguments never fails in that way (`constructorArguments_ne_region`).
-/
namespace Attest

/-- A failure of reading: one that is neither a part which the deployed code lacks nor a slot without
a placeholder. -/
def Failure.IsReading : Failure → Prop
  | .region _ => False
  | .placeholder _ => False
  | _ => True

/-- A fault is a failure of reading. -/
theorem Failure.lift_reads {α : Type} (result : Except Fault α) :
    Result.FailsOnly Failure.IsReading (liftM result : Except Failure α) :=
  Result.FailsOnly.of_mapError (fun _ => trivial) result

namespace Listing

/-- A listing is gone through to its end exactly if it has no fault. -/
theorem settle_eq_ok {α β : Type} {listing : Listing α} {result final : β} :
    listing.settle result = .ok final ↔ listing.fault = none ∧ result = final := by
  rw [settle]
  cases listing.fault with
  | none => simp
  | some fault => simp

end Listing

namespace Extraction

/-- All slots of libraries are filled exactly if each is and the listing has no fault. -/
theorem libraries_eq_ok {template real : Code} {slots : Listing LibrarySlot} {after : Extraction} :
    libraries template real slots = .ok after ↔
      slots.fault = none ∧
        fillLibraries real { code := template } slots.entries = .ok after := by
  simp only [libraries, Result.bind_eq_ok, Listing.settle_eq_ok]
  constructor
  · rintro ⟨_, filled, complete, rfl⟩
    exact ⟨complete, filled⟩
  · rintro ⟨complete, filled⟩
    exact ⟨after, filled, complete, rfl⟩

/-- All slots of immutables are filled exactly if each is and the listing has no fault. -/
theorem immutables_eq_ok {template real : Code} {slots : Listing ImmutableSlot}
    {style : AuxdataStyle} {after : Extraction} :
    immutables template real slots style = .ok after ↔
      slots.fault = none ∧ fillImmutables real style.immutableAction { code := template }
        slots.entries = .ok after := by
  simp only [immutables, Result.bind_eq_ok, Listing.settle_eq_ok]
  constructor
  · rintro ⟨_, filled, complete, rfl⟩
    exact ⟨complete, filled⟩
  · rintro ⟨complete, filled⟩
    exact ⟨after, filled, complete, rfl⟩

/-- The deployed text behind the template. -/
def surplus (real template : Code) : Code := Text.lower (real.drop template.length)

/-- The record of arguments that are the whole text behind the template. -/
def withArguments (real template : Code) : Extraction where
  code := real
  transformations := [argumentsTransformation template.byteLength]
  values := { constructorArguments := some (Code.marked (surplus real template)) }

/-- Nothing is taken for arguments where nothing follows the template. -/
theorem constructorArguments_of_le {real template : Code} (short : real.length ≤ template.length)
    (interface : Json) :
    constructorArguments real template interface = .ok { code := template } := by
  rw [constructorArguments, if_pos short]
  rfl

/-- What follows the template is taken for arguments as a whole or not at all. -/
theorem constructorArguments_eq_ok {real template : Code} {interface : Json} {after : Extraction}
    (long : template.length < real.length)
    (taken : constructorArguments real template interface = .ok after) :
    after = withArguments real template := by
  simp only [constructorArguments, if_neg (Nat.not_le.mpr long), Result.bind_eq_ok] at taken
  obtain ⟨inputs, -, taken⟩ := taken
  split at taken
  · obtain ⟨_, raised, -⟩ := Result.bind_eq_ok.mp taken
    exact absurd raised Result.throw_ne_ok
  · simp only [Result.bind_eq_ok] at taken
    obtain ⟨_, -, _, -, again, -, taken⟩ := taken
    split at taken
    · obtain ⟨_, raised, -⟩ := Result.bind_eq_ok.mp taken
      exact absurd raised Result.throw_ne_ok
    · exact (Result.pure_eq_ok.mp taken).symm

/-- The reading of arguments fails for reasons of reading. -/
theorem constructorArguments_reads (real template : Code) (interface : Json) :
    Result.FailsOnly Failure.IsReading (constructorArguments real template interface) := by
  by_cases short : real.length ≤ template.length
  · rw [constructorArguments_of_le short]
    exact Result.failsOnly_ok _
  simp only [constructorArguments, if_neg short]
  refine (Failure.lift_reads _).bind fun inputs => ?_
  split
  · exact Result.failsOnly_error trivial
  refine (Failure.lift_reads _).bind fun listed => (Failure.lift_reads _).bind fun names => ?_
  refine (Result.FailsOnly.of_mapError (fun error => ?_) _).bind fun again => ?_
  · cases error <;> exact trivial
  split
  · exact Result.failsOnly_error trivial
  · exact Result.failsOnly_ok _

/-- The reading of arguments fails for other reasons than a missing region. -/
theorem constructorArguments_ne_region {real template : Code} {interface : Json}
    {error : RegionError} :
    constructorArguments real template interface ≠ .error (.region error) :=
  fun failed => constructorArguments_reads real template interface _ failed

end Extraction

namespace Match

/-- A result with a status is a match. -/
theorem exists_of_status {result : Except Failure Match} {status : MatchStatus}
    (answered : result.toOption.map Match.status = some status) :
    ∃ found, result = .ok found ∧ found.status = status := by
  cases result with
  | error failure => simp [Except.toOption] at answered
  | ok found => exact ⟨found, rfl, by simpa [Except.toOption] using answered⟩

/-- A template is linked exactly if all slots of libraries and then, in the normal form, all slots of
immutables are filled. -/
theorem linked_eq_ok {template real : Code} {libraries : Listing LibrarySlot}
    {immutables : Listing ImmutableSlot} {style : AuxdataStyle} {found : Match} :
    linked template real libraries immutables style = .ok found ↔
      ∃ addresses values, Extraction.libraries template real libraries = .ok addresses ∧
        Extraction.immutables addresses.code.normalize real immutables style = .ok values ∧
        found = {
          status := .differs
          transformations := addresses.transformations ++ values.transformations
          values := addresses.values.merge values.values
          code := values.code
          libraryMap := addresses.libraryMap } := by
  simp only [linked, Result.bind_eq_ok, Result.pure_eq_ok]
  refine exists_congr fun addresses => ?_
  constructor
  · rintro ⟨linked, values, filled, rfl⟩
    exact ⟨values, linked, filled, rfl⟩
  · rintro ⟨values, linked, filled, rfl⟩
    exact ⟨linked, values, filled, rfl⟩

/-- A compared code that matches agrees with the deployed one as it is, or with the auxdatas taken
over; otherwise nothing is changed. -/
theorem compare_eq_ok {kind : CodeKind} {found result : Match} {real : Code}
    {positions : AuxdataPositions} {style : AuxdataStyle} (unmatched : found.status = .differs)
    (compared : compare kind found real positions style = .ok result)
    (matched : result.status ≠ .differs) :
    (agrees kind found.code real = true ∧ result = { found with status := result.status }) ∨
      ∃ auxdatas, Extraction.auxdatas found.code real positions = .ok auxdatas ∧
        agrees kind auxdatas.code real = true ∧
        result = { found.extend auxdatas with status := .partly } := by
  unfold compare at compared
  split at compared
  · rename_i same
    obtain ⟨status, -, written⟩ := Result.bind_eq_ok.mp compared
    rw [Result.pure_eq_ok] at written
    exact .inl ⟨same, by rw [← written]⟩
  · split at compared
    · rw [Result.pure_eq_ok] at compared
      exact absurd (compared ▸ unmatched) matched
    · obtain ⟨auxdatas, taken, compared⟩ := Result.bind_eq_ok.mp compared
      split at compared
      · rename_i same
        rw [Result.pure_eq_ok] at compared
        exact .inr ⟨auxdatas, taken, same, compared.symm⟩
      · rw [Result.pure_eq_ok] at compared
        exact absurd (compared ▸ unmatched) matched

/-- A match that matches passed on where a missing region would make a difference. -/
theorem orDiffers_eq_ok {template : Code} {result : Except Failure Match} {found : Match}
    (matched : found.status ≠ .differs) (passed : orDiffers template result = .ok found) :
    result = .ok found := by
  unfold orDiffers at passed
  split at passed
  · rw [Except.ok.injEq] at passed
    subst passed
    exact absurd rfl matched
  · exact passed

end Match

end Attest
