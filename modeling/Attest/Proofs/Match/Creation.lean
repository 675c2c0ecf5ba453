import Attest.Proofs.Match.Decision
import Attest.Proofs.Match.RoundTrip

/-!
# Deciding the code that creates a contract

The deployed code that creates a contract has to correspond to the template and may go on behind it.
What follows is taken for the arguments of the constructor as a whole or not at all; it is never
passed over, and an error in reading it ends the matching (`creation_matches_iff`).
-/
namespace Attest.Match

variable {template real : Code} {libraries : Listing LibrarySlot} {positions : AuxdataPositions}
  {immutables : Listing ImmutableSlot} {style : AuxdataStyle} {interface : Json}

/-- Code that creates a contract is linked and compared, what follows is taken for arguments, and a
part that is missing makes a difference. -/
theorem ofCode_creation (template real : Code) (libraries : Listing LibrarySlot)
    (positions : AuxdataPositions) (immutables : Listing ImmutableSlot) (style : AuxdataStyle)
    (interface : Json) :
    ofCode .creation template real libraries positions immutables style interface =
      orDiffers template.normalize
        ((linked template real.normalize libraries immutables style >>= fun found =>
          compare .creation found real.normalize positions style) >>= fun found =>
            takeArguments found real.normalize interface) := by
  simp only [ofCode, bind_assoc]

/-- The arguments behind matched code depend on nothing of it but where it ends. -/
theorem eq_take_of_agrees {code real : Code} {size : Nat}
    (same : agrees .creation code real = true) (length : code.length = size) :
    code = real.take size := by
  have begins := List.prefix_iff_eq_take.mp (List.isPrefixOf_iff_prefix.mp same)
  rw [length] at begins
  exact begins

/-- What taking arguments comes to for matched code: a match with the arguments added, or the error
of reading them. -/
theorem takeArguments_of_matched {compared : Match} (matched : compared.status ≠ .differs) :
    takeArguments compared real interface =
      (Extraction.constructorArguments real compared.code interface).map compared.extend := by
  have agreed : compared.status.matched = true := by
    simpa [MatchStatus.matched] using matched
  rw [takeArguments, if_pos agreed]
  cases Extraction.constructorArguments real compared.code interface <;> rfl

/-- Code that differs is left as it is. -/
theorem takeArguments_of_differs {compared : Match} (unmatched : compared.status = .differs) :
    takeArguments compared real interface = .ok compared := by
  have disagreed : ¬ compared.status.matched = true := by
    simp [MatchStatus.matched, unmatched]
  rw [takeArguments, if_neg disagreed]
  rfl

/-- Arguments that are added to a match are inserted where the template ends, all of them. -/
theorem extend_withArguments {compared : Match} (marked : template.Marked) (bears : real.Marked)
    (small : Text.Small real) (fits : template.length ≤ real.length) :
    (compared.extend (Extraction.withArguments real
        (real.take template.length))).transformations.getLast? =
      some (Extraction.argumentsTransformation template.byteLength) ∧
    (compared.extend (Extraction.withArguments real
        (real.take template.length))).values.constructorArguments =
      some (Code.marked (real.drop template.length)) := by
  let begun : Code := real.take template.length
  have length : begun.length = template.length := List.length_take_of_le fits
  have size := marked.length_eq
  have begins : begun.Marked := by
    refine bears.of_take ?_
    rw [List.take_take, Nat.min_eq_left (by omega)]
  have size_begins := begins.length_eq
  have bytes : begun.byteLength = template.byteLength := by
    have bodies : begun.body.length = template.body.length := by omega
    rw [Code.byteLength, Code.byteLength, bodies]
  have rest : Extraction.surplus real begun = real.drop template.length := by
    rw [Extraction.surplus, length]
    exact Text.lower_of_small fun c member => small c (List.mem_of_mem_drop member)
  change (compared.extend (Extraction.withArguments real begun)).transformations.getLast? = _ ∧
    (compared.extend (Extraction.withArguments real begun)).values.constructorArguments = _
  constructor
  · simp [extend, Extraction.withArguments, bytes]
  · simp [extend, Extraction.withArguments, Values.merge, Values.prefer, Code.marked, rest]

/-- A match of the code that creates a contract differs exactly if the deployed code does not
correspond to the template. Where it does, the outcome is that of reading what follows the template:
a match if nothing follows or it is read as arguments, or the error of reading it. -/
theorem creation_decides (real : Code) (interface : Json)
    (laid : Laid template libraries positions .empty) (readable : Readable style positions) :
    (¬ Corresponds .creation [] template real.normalize libraries positions .empty ∧
      ∃ found, creation template real libraries positions interface style = .ok found ∧
        found.status = .differs) ∨
    (Corresponds .creation [] template real.normalize libraries positions .empty ∧
      ∃ compared : Match, compared.status ≠ .differs ∧
        compared.code = real.normalize.take template.length ∧
        creation template real libraries positions interface style =
          (Extraction.constructorArguments real.normalize (real.normalize.take template.length)
            interface).map compared.extend) := by
  have bears := Code.marked_normalize real
  have small := Code.small_normalize real
  simp only [creation, ofCode_creation]
  rcases compared_decides .creation laid bears small readable (.inr rfl) with
    ⟨compared, ran, decided, whole⟩ | ⟨failure, failed, ⟨error, rfl⟩, apart⟩
  · rw [ran]
    simp only [bind, Except.bind]
    by_cases matched : compared.status ≠ .differs
    · obtain ⟨same, length⟩ := whole matched
      have code := eq_take_of_agrees same length
      refine .inr ⟨decided.mp matched, compared, matched, code, ?_⟩
      rw [takeArguments_of_matched matched, code]
      cases taken : Extraction.constructorArguments real.normalize
          (real.normalize.take template.length) interface with
      | ok arguments => rfl
      | error failure =>
        simp only [Except.map, orDiffers]
        split
        · rename_i region
          rw [Except.error.injEq] at region
          exact absurd (region ▸ taken) Extraction.constructorArguments_ne_region
        · rfl
    · have unmatched := Decidable.not_not.mp matched
      refine .inl ⟨fun corresponds => matched (decided.mpr corresponds), compared, ?_, unmatched⟩
      rw [takeArguments_of_differs unmatched]
      rfl
  · refine .inl ⟨apart, ?_⟩
    rw [failed]
    exact ⟨_, rfl, rfl⟩

/-- A match of the code that creates a contract comes out as a difference exactly if the deployed code
does not begin with the template but for its parts. Where it does, the match holds exactly if nothing
follows or what follows is read as arguments; otherwise the error of reading it ends the matching.
Where anything follows matched code, the last transformation inserts all of it. -/
theorem creation_matches_iff (real : Code) (interface : Json)
    (laid : Laid template libraries positions .empty) (readable : Readable style positions) :
    ((∃ found, creation template real libraries positions interface style = .ok found ∧
        found.status = .differs) ↔
      ¬ Corresponds .creation [] template real.normalize libraries positions .empty) ∧
    (Corresponds .creation [] template real.normalize libraries positions .empty →
      ((∃ found, creation template real libraries positions interface style = .ok found ∧
          found.status ≠ .differs) ↔
        real.normalize.length = template.length ∨
          ∃ arguments, Extraction.constructorArguments real.normalize
            (real.normalize.take template.length) interface = .ok arguments) ∧
      ∀ failure, Extraction.constructorArguments real.normalize
          (real.normalize.take template.length) interface = .error failure →
        creation template real libraries positions interface style = .error failure) ∧
    ∀ found, creation template real libraries positions interface style = .ok found →
      found.status ≠ .differs → template.length < real.normalize.length →
        found.transformations.getLast? =
            some (Extraction.argumentsTransformation template.byteLength) ∧
          found.values.constructorArguments =
            some (Code.marked (real.normalize.drop template.length)) := by
  rcases creation_decides real interface laid readable with
    ⟨apart, found, ran, unmatched⟩ | ⟨corresponds, compared, matched, code, ran⟩
  · refine ⟨⟨fun _ => apart, fun _ => ⟨found, ran, unmatched⟩⟩,
      fun corresponds => absurd corresponds apart, fun other ran_other matched => ?_⟩
    rw [ran, Except.ok.injEq] at ran_other
    exact absurd (ran_other ▸ unmatched) matched
  · have fits : template.length ≤ real.normalize.length := corresponds.fits
    have length : (real.normalize.take template.length).length = template.length :=
      List.length_take_of_le fits
    rw [ran]
    refine ⟨⟨?_, fun apart => absurd corresponds apart⟩, fun _ => ⟨⟨?_, ?_⟩, ?_⟩, ?_⟩
    · rintro ⟨found, taken, unmatched⟩
      obtain ⟨arguments, -, rfl⟩ := Result.map_eq_ok.mp taken
      exact absurd unmatched matched
    · rintro ⟨found, taken, -⟩
      obtain ⟨arguments, read, -⟩ := Result.map_eq_ok.mp taken
      exact .inr ⟨arguments, read⟩
    · rintro (nothing | ⟨arguments, read⟩)
      · have short : real.normalize.length ≤ (real.normalize.take template.length).length := by
          omega
        rw [Extraction.constructorArguments_of_le short]
        exact ⟨_, rfl, matched⟩
      · rw [read]
        exact ⟨_, rfl, matched⟩
    · intro failure failed
      rw [failed]
      rfl
    · intro found taken _ follows
      obtain ⟨arguments, read, rfl⟩ := Result.map_eq_ok.mp taken
      have goes_on : (real.normalize.take template.length).length < real.normalize.length := by
        omega
      rw [Extraction.constructorArguments_eq_ok goes_on read]
      exact extend_withArguments laid.marked (Code.marked_normalize real)
        (Code.small_normalize real) fits

/-- The beginning of the deployed code of the sample. -/
def sampleCut (size : Nat) : Code := sampleCreation.take size

set_option maxRecDepth 20000 in
/-- The sample matches with its argument, which the last transformation inserts; it is refused with
a byte that is no argument, and it differs where the deployed code ends in a slot. -/
theorem creation_matches_iff_sample :
    Laid sampleTemplate sampleLibraries samplePositions .empty ∧
      Readable .solidity samplePositions ∧
      (∃ found, creation sampleTemplate sampleCreation sampleLibraries samplePositions
          sampleInterface .solidity = .ok found ∧ found.status ≠ .differs ∧
        found.transformations.getLast? =
          some (Extraction.argumentsTransformation sampleTemplate.byteLength)) ∧
      (∃ failure, creation sampleTemplate (sampleCut 92) sampleLibraries samplePositions
        sampleInterface .solidity = .error failure) ∧
      ∃ found, creation sampleTemplate (sampleCut 70) sampleLibraries samplePositions
        sampleInterface .solidity = .ok found ∧ found.status = .differs := by
  have laid : Laid sampleTemplate sampleLibraries samplePositions .empty := by decide +kernel
  have readable : Readable .solidity samplePositions := by decide +kernel
  have whole : Corresponds .creation [] sampleTemplate sampleCreation.normalize sampleLibraries
      samplePositions .empty := by decide +kernel
  have follows : sampleTemplate.length < sampleCreation.normalize.length := by decide +kernel
  have read : (Extraction.constructorArguments sampleCreation.normalize
      (sampleCreation.normalize.take sampleTemplate.length) sampleInterface).toOption.isSome =
        true := by decide +kernel
  have begun : Corresponds .creation [] sampleTemplate (sampleCut 92).normalize
      sampleLibraries samplePositions .empty := by decide +kernel
  have refused : (Extraction.constructorArguments (sampleCut 92).normalize
      ((sampleCut 92).normalize.take sampleTemplate.length) sampleInterface).toOption.isSome =
        false := by decide +kernel
  have short : ¬ Corresponds .creation [] sampleTemplate (sampleCut 70).normalize
      sampleLibraries samplePositions .empty := by decide +kernel
  refine ⟨laid, readable, ?_, ?_, ?_⟩
  · obtain ⟨-, decided, recorded⟩ :=
      creation_matches_iff sampleCreation sampleInterface laid readable
    obtain ⟨arguments, taken⟩ := Result.exists_of_isSome read
    obtain ⟨found, ran, matched⟩ := (decided whole).1.mpr (.inr ⟨arguments, taken⟩)
    exact ⟨found, ran, matched, (recorded found ran matched follows).1⟩
  · obtain ⟨-, decided, -⟩ :=
      creation_matches_iff (sampleCut 92) sampleInterface laid readable
    obtain ⟨failure, failed⟩ := Result.exists_of_isSome_eq_false refused
    exact ⟨failure, (decided begun).2 failure failed⟩
  · exact (creation_matches_iff (sampleCut 70) sampleInterface laid readable).1.mpr short

end Attest.Match
