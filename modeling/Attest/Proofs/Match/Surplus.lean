import Attest.Proofs.Extraction.Refused
import Attest.Proofs.Match.Creation

/-!
# What follows matched code

A match of the code that creates a contract fails because linking or comparing the template does, or
because what follows the matched code is refused (`creation_eq_error`). What follows comes from whoever
deployed the contract: for an interface whose names are within the grammar it is refused as no
arguments, or ends the match for a count past every length that can be stored (`creation_stopped`).
-/
namespace Attest.Match

section

variable {template real : Code} {libraries : Listing LibrarySlot} {positions : AuxdataPositions}
  {style : AuxdataStyle} {interface : Json} {failure : Failure}

/-- The template of the code that creates a contract as it is linked and compared with the deployed
code, before what follows is looked at. -/
def begun (template real : Code) (libraries : Listing LibrarySlot) (positions : AuxdataPositions)
    (style : AuxdataStyle) : Except Failure Match := do
  let found ← linked template real.normalize libraries .empty style
  compare .creation found real.normalize positions style

/-- A failure is passed on exactly if it is not that of a part which cannot be filled. -/
theorem orDiffers_eq_error {result : Except Failure Match} :
    orDiffers template result = .error failure ↔
      result = .error failure ∧ ∀ error, failure ≠ .region error := by
  unfold orDiffers
  split
  · refine ⟨nofun, ?_⟩
    rintro ⟨same, other⟩
    exact absurd (Except.error.inj same).symm (other _)
  · rename_i other
    refine ⟨?_, And.left⟩
    rintro rfl
    refine ⟨rfl, ?_⟩
    rintro error rfl
    exact other error rfl

/-- A match of the code that creates a contract fails as linking or comparing the template does, or as
reading what follows the matched code. -/
theorem creation_eq_error :
    creation template real libraries positions interface style = .error failure ↔
      (begun template real libraries positions style = .error failure ∧
          ∀ error, failure ≠ .region error) ∨
        ∃ compared, begun template real libraries positions style = .ok compared ∧
          compared.status ≠ .differs ∧
          Extraction.constructorArguments real.normalize compared.code interface =
            .error failure := by
  rw [creation, ofCode_creation, orDiffers_eq_error, ← begun, Result.bind_eq_error]
  constructor
  · rintro ⟨failed | ⟨compared, ran, failed⟩, other⟩
    · exact .inl ⟨failed, other⟩
    · by_cases matched : compared.status ≠ .differs
      · rw [takeArguments_of_matched matched] at failed
        exact .inr ⟨compared, ran, matched, Result.map_eq_error.mp failed⟩
      · rw [takeArguments_of_differs (Decidable.not_not.mp matched)] at failed
        contradiction
  · rintro (⟨failed, other⟩ | ⟨compared, ran, matched, failed⟩)
    · exact ⟨.inl failed, other⟩
    · refine ⟨.inr ⟨compared, ran, ?_⟩, ?_⟩
      · rw [takeArguments_of_matched matched]
        exact Result.map_eq_error.mpr failed
      · rintro error rfl
        exact Extraction.constructorArguments_ne_region failed

/-- Why a match of the code that creates a contract fails, if the names of the types in the interface
are within the grammar. -/
inductive Stopped (template real : Code) (libraries : Listing LibrarySlot)
    (positions : AuxdataPositions) (style : AuxdataStyle) (interface : Json) : Failure → Prop
  /-- Linking or comparing the template fails, before what follows is looked at. -/
  | comparing {failure : Failure}
    (failed : begun template real libraries positions style = .error failure) :
    Stopped template real libraries positions style interface failure
  /-- What follows is refused as no arguments. -/
  | arguments {error : ArgumentsError} :
    Stopped template real libraries positions style interface (.arguments error)
  /-- Reading what follows comes to a count past every length that can be stored. -/
  | overlong {compared : Match}
    (ran : begun template real libraries positions style = .ok compared)
    (matched : compared.status ≠ .differs) (long : compared.code.length < real.normalize.length)
    (there : Interface.Overlong interface (Extraction.surplus real.normalize compared.code)) :
    Stopped template real libraries positions style interface (.fault .oversized)

/-- A match of the code that creates a contract fails as linking or comparing the template does, is
refused for its arguments, or comes to a count past every length in what follows the matched code. -/
theorem creation_stopped (regular : Interface.Regular interface)
    (failed : creation template real libraries positions interface style = .error failure) :
    Stopped template real libraries positions style interface failure := by
  rcases creation_eq_error.mp failed with ⟨stopped, -⟩ | ⟨compared, ran, matched, refused⟩
  · exact .comparing stopped
  rcases Extraction.constructorArguments_refuses regular _ _ failure refused with ⟨error, rfl⟩ | rfl
  · exact .arguments
  · obtain ⟨long, there⟩ := (Extraction.constructorArguments_oversized_iff regular _ _).mp refused
    exact .overlong ran matched long there

end

end Attest.Match
