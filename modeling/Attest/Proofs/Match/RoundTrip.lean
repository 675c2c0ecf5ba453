import Attest.Proofs.Extraction.Protection
import Attest.Proofs.Match.Replay

/-!
# Matches lead from the template to the deployed code

Whenever a match does not come out as a difference, replaying its transformations over the very
template with its values gives the deployed code in its normal form, and the filled template is that
code. The code that a contract runs may begin with call protection; what follows the code that
creates a contract is inserted as a whole.
-/
namespace Attest.Match

variable {template real : Code} {libraries : Listing LibrarySlot} {positions : AuxdataPositions}
  {immutables : Listing ImmutableSlot} {style : AuxdataStyle}

/-- A template with its call protection filled in keeps the promises of a compiler. -/
theorem Recompiled.callProtection (recompiled : Recompiled template libraries positions)
    (bears : real.Marked) (small : Text.Small real) {protection : Extraction}
    (filled : Extraction.callProtection template real = .ok protection) :
    Recompiled protection.code libraries positions := by
  obtain ⟨marked, length, lowered⟩ :=
    Extraction.callProtection_small bears small recompiled.marked filled
  exact {
    marked := marked
    whole := length ▸ recompiled.whole
    small := lowered _ recompiled.small
    slots := recompiled.slots
    distinct := recompiled.distinct
    places := recompiled.places }

/-- Matched code that a contract runs has been linked and compared. -/
theorem ofCode_runtime_eq_ok {interface : Json} {found : Match}
    (ran : ofCode .runtime template real libraries positions immutables style interface = .ok found)
    (matched : found.status ≠ .differs) :
    ∃ linked, Match.linked template real.normalize libraries immutables style = .ok linked ∧
      compare .runtime linked real.normalize positions style = .ok found := by
  obtain ⟨linked, link, ran⟩ := Result.bind_eq_ok.mp (orDiffers_eq_ok matched ran)
  obtain ⟨compared, compare, ended⟩ := Result.bind_eq_ok.mp ran
  rw [Result.pure_eq_ok] at ended
  exact ⟨linked, link, ended ▸ compare⟩

/-- Matched code that creates a contract has been linked and compared, and what follows it taken for
arguments. -/
theorem ofCode_creation_eq_ok {interface : Json} {found : Match}
    (ran : ofCode .creation template real libraries positions immutables style interface = .ok found)
    (matched : found.status ≠ .differs) :
    ∃ linked compared arguments,
      Match.linked template real.normalize libraries immutables style = .ok linked ∧
      compare .creation linked real.normalize positions style = .ok compared ∧
      compared.status ≠ .differs ∧
      Extraction.constructorArguments real.normalize compared.code interface = .ok arguments ∧
      found = compared.extend arguments := by
  obtain ⟨linked, link, ran⟩ := Result.bind_eq_ok.mp (orDiffers_eq_ok matched ran)
  obtain ⟨compared, compare, ended⟩ := Result.bind_eq_ok.mp ran
  simp only [takeArguments] at ended
  split at ended
  · rename_i agreed
    obtain ⟨arguments, taken, ended⟩ := Result.bind_eq_ok.mp ended
    rw [Result.pure_eq_ok] at ended
    have matched_compared : compared.status ≠ .differs := by
      simpa [MatchStatus.matched] using agreed
    exact ⟨linked, compared, arguments, link, compare, matched_compared, taken, ended.symm⟩
  · rename_i disagreed
    rw [Result.pure_eq_ok] at ended
    rw [ended] at disagreed
    exact absurd matched (by simpa [MatchStatus.matched] using disagreed)

/-- A match of the code that a contract runs consists of its call protection and of the rest. -/
theorem runtime_eq_ok {found : Match}
    (ran : runtime template real libraries positions immutables style = .ok found)
    (matched : found.status ≠ .differs) :
    ∃ protection rest, Extraction.callProtection template real.normalize = .ok protection ∧
      ofCode .runtime protection.code real.normalize libraries positions immutables style .null =
        .ok rest ∧
      found = { rest with
        transformations := protection.transformations ++ rest.transformations
        values := protection.values.merge rest.values } := by
  simp only [runtime] at ran
  split at ran
  · rw [← Except.ok.inj ran] at matched
    exact absurd rfl matched
  · contradiction
  · rename_i protection filled
    obtain ⟨rest, compared, ended⟩ := Result.bind_eq_ok.mp ran
    rw [Result.pure_eq_ok] at ended
    exact ⟨protection, rest, filled, compared, ended.symm⟩

/-- The transformations of a matched code that a contract runs lead from the template to the deployed
code, and so does its filling. -/
theorem runtime_explained {found : Match} (recompiled : Recompiled template libraries positions)
    (ran : runtime template real libraries positions immutables style = .ok found)
    (matched : found.status ≠ .differs) :
    Transformation.Explain template found.transformations found.values real.normalize ∧
      found.code = real.normalize := by
  have bears := Code.marked_normalize real
  have small := Code.small_normalize real
  obtain ⟨protection, rest, filled, compared, rfl⟩ := runtime_eq_ok ran matched
  obtain ⟨linked, link, compare⟩ := ofCode_runtime_eq_ok compared matched
  rw [Code.normalize_normalize] at link compare
  have begun_recompiled := recompiled.callProtection bears small filled
  obtain ⟨same, explained, ⟨addresses, values, auxdatas, distinct_addresses, distinct_values,
    distinct_auxdatas, parts⟩, -⟩ := compared_explained begun_recompiled bears small link compare matched
  obtain ⟨begun, alone⟩ := Extraction.callProtection_explained filled
  have whole : rest.code = real.normalize := eq_of_beq same
  have merged : protection.values.merge rest.values =
      { rest.values with callProtection := protection.values.callProtection } := by
    rw [alone, parts]
    exact Values.merge_callProtection rfl rfl distinct_addresses distinct_values distinct_auxdatas
  refine ⟨?_, whole⟩
  rw [← whole]
  simp only [merged]
  refine Transformation.Explain.append begun explained ?_ ?_
  · rw [alone]
    refine Values.keeps_of_parts fun reason => ?_
    cases reason <;> simp [Values.part]
  · refine Values.keeps_of_parts fun reason => ?_
    rw [parts]
    cases reason <;> simp [Values.part]

/-- Inserting the whole rest of a code behind its whole bytes gives the code. -/
theorem insert_rest {begun whole : Code} (bears : begun.Marked) (even : begun.length % 2 = 0)
    (begins : begun.isPrefixOf whole = true) :
    Code.insert begun begun.byteLength (whole.drop begun.length) = whole := by
  obtain ⟨rest, rfl⟩ := List.isPrefixOf_iff_prefix.mp begins
  rw [List.drop_left]
  exact Code.insert_end bears even rest

/-- Taking all that follows matched code for arguments leads on to the deployed code. -/
theorem arguments_explained {compared : Match} {addresses values auxdatas : Table String Code}
    (small : Text.Small real) (bears : compared.code.Marked)
    (whole : compared.code.length % 2 = 0) (begins : compared.code.isPrefixOf real = true)
    (parts : compared.values = { libraries := addresses, immutables := values, auxdatas })
    (explained : Transformation.Explain template compared.transformations compared.values
      compared.code) :
    Transformation.Explain template
      (compared.extend (Extraction.withArguments real compared.code)).transformations
      (compared.extend (Extraction.withArguments real compared.code)).values real := by
  let value := Code.marked (Extraction.surplus real compared.code)
  let later : Values := { compared.values with constructorArguments := some value }
  have merged : (compared.extend (Extraction.withArguments real compared.code)).values = later := by
    simp [extend, Extraction.withArguments, Values.merge, Values.prefer, parts, Code.marked, later,
      value]
  have keeps : later.Keeps compared.values := by
    refine later.keeps_of_parts fun reason => ?_
    simp only [later, parts]
    cases reason <;> simp [Values.part]
  have rest : Extraction.surplus real compared.code = real.drop compared.code.length :=
    Text.lower_of_small fun c member => small c (List.mem_of_mem_drop member)
  have inserted := explained.write keeps
    (Extraction.argumentsTransformation compared.code.byteLength) rfl
  have ended : Transformation.write (Extraction.argumentsTransformation compared.code.byteLength)
      compared.code (Extraction.surplus real compared.code) = real := by
    rw [rest]
    exact insert_rest bears whole begins
  rw [ended] at inserted
  rw [merged]
  exact inserted

/-- The transformations of a matched code that creates a contract lead from the template to the
deployed code, and so does its filling. -/
theorem creation_explained {interface : Json} {found : Match}
    (recompiled : Recompiled template libraries positions)
    (ran : creation template real libraries positions interface style = .ok found)
    (matched : found.status ≠ .differs) :
    Transformation.Explain template found.transformations found.values real.normalize ∧
      found.code = real.normalize := by
  have bears := Code.marked_normalize real
  have small := Code.small_normalize real
  obtain ⟨linked, compared, arguments, link, compare, matched_compared, taken, rfl⟩ :=
    ofCode_creation_eq_ok ran matched
  obtain ⟨same, explained, ⟨addresses, values, auxdatas, -, -, -, parts⟩, even⟩ :=
    compared_explained recompiled bears small link compare matched_compared
  obtain ⟨whole, long⟩ := even rfl
  have begins := List.isPrefixOf_iff_prefix.mp same
  rcases Nat.lt_or_ge compared.code.length real.normalize.length with longer | short
  · have written := Extraction.constructorArguments_eq_ok longer taken
    have marked : compared.code.Marked := by
      apply bears.of_take
      obtain ⟨following, joined⟩ := begins
      rw [← joined, List.take_append_of_le_length long]
    subst written
    exact ⟨arguments_explained small marked whole same parts explained, rfl⟩
  · have equal : compared.code = real.normalize := begins.eq_of_length_le short
    rw [Extraction.constructorArguments_of_le short, Except.ok.injEq] at taken
    subst taken
    refine ⟨?_, equal⟩
    rw [← equal]
    simpa [extend, Values.merge, Values.prefer] using explained

/-- A match of either kind, replayed over its template with its values, gives the deployed code in
its normal form, and that is what its own filling is. -/
theorem replay_eq_deployed (real : Code) (immutables : Listing ImmutableSlot) (style : AuxdataStyle)
    (interface : Json) (recompiled : Recompiled template libraries positions) :
    (∀ found, runtime template real libraries positions immutables style = .ok found →
      found.status ≠ .differs →
        Transformation.replay template found.transformations found.values = .ok real.normalize ∧
          found.code = real.normalize) ∧
    (∀ found, creation template real libraries positions interface style = .ok found →
      found.status ≠ .differs →
        Transformation.replay template found.transformations found.values = .ok real.normalize ∧
          found.code = real.normalize) := by
  constructor
  · intro found ran matched
    obtain ⟨explained, filled⟩ := runtime_explained recompiled ran matched
    exact ⟨explained.replay recompiled.marked, filled⟩
  · intro found ran matched
    obtain ⟨explained, filled⟩ := creation_explained recompiled ran matched
    exact ⟨explained.replay recompiled.marked, filled⟩

/-- A bytecode with two slots of one library, three bytes for an immutable and an auxdata. -/
def sampleTemplate : Code :=
  Code.marked (Placeholder.named "L.sol:L" ++ Placeholder.named "L.sol:L" ++
    "000000a164".toList)

/-- The slots of the library. -/
def sampleLibraries : Listing LibrarySlot := ⟨[⟨"L.sol:L", 0, 20⟩, ⟨"L.sol:L", 20, 20⟩], none⟩

/-- Two slots of one immutable that share a byte. -/
def sampleImmutables : Listing ImmutableSlot := ⟨[⟨"5", 40, 2⟩, ⟨"5", 41, 2⟩], none⟩

/-- The auxdata. -/
def samplePositions : AuxdataPositions := [("1", ⟨43, "0xa164".toList⟩)]

/-- The interface of a contract whose constructor takes a number. -/
def sampleInterface : Json :=
  .list [.record [("type", .text "constructor"),
    ("inputs", .list [.record [("type", .text "uint8")]])]]

/-- The address of the library. -/
def sampleAddress : Code := "00112233445566778899AABBCCDDEEFF01234567".toList

/-- The deployed code that a contract runs: its immutable is set, its auxdata is another one, and it
bears no mark. -/
def sampleRuntime : Code := sampleAddress ++ sampleAddress ++ "070707FFEE".toList

/-- The deployed code that creates a contract, with its argument. -/
def sampleCreation : Code :=
  sampleAddress ++ sampleAddress ++ "000000FFEE".toList ++ List.replicate 62 '0' ++ ['F', 'f']

set_option maxRecDepth 20000 in
/-- Both kinds of code match partly in the sample and are replayed to the deployed codes. -/
theorem replay_eq_deployed_sample :
    (∃ found, runtime sampleTemplate sampleRuntime sampleLibraries samplePositions sampleImmutables
        .solidity = .ok found ∧ found.status = .partly ∧
      Transformation.replay sampleTemplate found.transformations found.values =
        .ok sampleRuntime.normalize ∧ found.code = sampleRuntime.normalize) ∧
    (∃ found, creation sampleTemplate sampleCreation sampleLibraries samplePositions
        sampleInterface .solidity = .ok found ∧ found.status = .partly ∧
      Transformation.replay sampleTemplate found.transformations found.values =
        .ok sampleCreation.normalize ∧ found.code = sampleCreation.normalize) := by
  have recompiled : Recompiled sampleTemplate sampleLibraries samplePositions := by
    decide +kernel
  constructor
  · have answered : (runtime sampleTemplate sampleRuntime sampleLibraries samplePositions
        sampleImmutables .solidity).toOption.map Match.status = some .partly := by decide +kernel
    obtain ⟨found, ran, status⟩ := exists_of_status answered
    have matched : found.status ≠ .differs := by rw [status]; decide
    have sound := (replay_eq_deployed sampleRuntime sampleImmutables .solidity .null
      recompiled).1 found ran matched
    exact ⟨found, ran, status, sound⟩
  · have answered : (creation sampleTemplate sampleCreation sampleLibraries samplePositions
        sampleInterface .solidity).toOption.map Match.status = some .partly := by decide +kernel
    obtain ⟨found, ran, status⟩ := exists_of_status answered
    have matched : found.status ≠ .differs := by rw [status]; decide
    have sound := (replay_eq_deployed sampleCreation .empty .solidity sampleInterface
      recompiled).2 found ran matched
    exact ⟨found, ran, status, sound⟩

end Attest.Match
