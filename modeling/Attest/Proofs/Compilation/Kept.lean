import Attest.Proofs.Auxdata.Appended
import Attest.Proofs.Compilation.Run

/-!
# The place in the runtime code is kept

The runtime code of a contract with one auxdata ends in it. Its place is kept whatever the compiler
answers about edited sources, for these are asked about only to find the place in the creation code.
It is lost where the end of the creation code claims bytes that begin with no item, which is a fault
of locating and not of the lookup there: the auxdatas are located exactly if the creation code can
be split (`Compilation.locate_keeps_runtime`).
-/
namespace Attest.Compilation

open Attempt

variable {compilation : Compilation} {literal : String} {runtime creation : Code}
  {positions : AuxdataPositions} {located : LocatedAuxdatas}

/-- The auxdata at the end of a bytecode is compared with the one that is reported. -/
theorem tailPosition_of_atTail {code : Code} {position : AuxdataPosition}
    (tail : AuxdataPosition.atTail code .solidity = .ok (some position)) :
    tailPosition code (.text literal) =
      if Text.lower position.value.body = Text.lower literal.toList then
        .ok (some [(AuxdataPositions.idAt 0, position)])
      else .ok none := by
  rw [tailPosition, tail]
  rfl

/-- A reported auxdata at the end of a bytecode has its place there. -/
theorem tailPosition_append {text : Code} (front : Code) (auxdata : IsAuxdata .solidity text)
    (same : Text.lower text = Text.lower literal.toList) :
    tailPosition (Code.marked (front ++ text)) (.text literal) =
      .ok (some [(AuxdataPositions.idAt 0, ⟨(front.length / 2 : Nat), Code.marked text⟩)]) := by
  have tail := AuxdataPosition.atTail_append front auxdata
  rw [tailPosition_of_atTail tail]
  exact if_pos same

/-- A reported auxdata is looked for at the end of a bytecode exactly if the bytecode can be
split. -/
theorem exists_tailPosition_iff (filled : creation ≠ []) :
    (∃ found, tailPosition creation (.text literal) = .ok found) ↔
      Splittable .solidity creation := by
  rw [← AuxdataPosition.exists_atTail_iff filled]
  constructor
  · rintro ⟨found, looked⟩
    obtain ⟨position, tail, -⟩ := Result.bind_eq_ok.mp looked
    exact ⟨position, tail⟩
  · rintro ⟨position, tail⟩
    cases position with
    | none => exact ⟨none, Result.bind_eq_ok.mpr ⟨none, tail, rfl⟩⟩
    | some position =>
      rw [tailPosition_of_atTail tail]
      split <;> exact ⟨_, rfl⟩

/-- A Solidity contract whose output reports one auxdata, at the end of its runtime code. -/
structure EndsInAuxdata (compilation : Compilation) (literal : String) (creation : Code)
    (positions : AuxdataPositions) : Prop where
  /-- The output has the contract, and one auxdata is reported for it. -/
  reported : ∃ contract, compilation.contract = .ok contract ∧
    reportedAuxdatas contract = .ok [.text literal]
  /-- The runtime code ends in the auxdata, at these places. -/
  runtime : ∃ code, compilation.code .runtime = .ok code ∧
    tailPosition code (.text literal) = .ok (some positions)
  /-- The output has this creation code. -/
  creation : compilation.code .creation = .ok creation

/-- What is left to do once the end of the creation code has been looked at. -/
def locateRest (alternate : Bool) (literal : String) (positions : AuxdataPositions) :
    Option AuxdataPositions → Attempt Compilation LocatedAuxdatas
  | some creation => return ⟨some positions, some creation⟩
  | none => do
    let creation ← Attempt.outcome (locateCreationByEditing alternate [.text literal])
    return ⟨some positions, creation.toOption⟩

/-- Nothing of what is left to do can fail. -/
theorem exists_locateRest (alternate : Bool) (literal : String) (positions : AuxdataPositions)
    (found : Option AuxdataPositions) (compilation : Compilation) :
    ∃ located after,
      (locateRest alternate literal positions found).Ends compilation located after := by
  cases found with
  | some creation => exact ⟨_, _, ends_pure.mpr ⟨rfl, rfl⟩⟩
  | none => exact ⟨_, _, ends_bind.mpr ⟨_, _, ends_outcome.mpr rfl, ends_pure.mpr ⟨rfl, rfl⟩⟩⟩

/-- Whatever is left to do, the place in the runtime code is kept. -/
theorem runtime_of_locateRest {alternate : Bool} {found : Option AuxdataPositions}
    {after : Compilation}
    (ends : (locateRest alternate literal positions found).Ends compilation located after) :
    located.runtime = some positions := by
  cases found with
  | some creation =>
    obtain ⟨rfl, -⟩ := ends_pure.mp ends
    rfl
  | none =>
    obtain ⟨_, _, -, ends⟩ := ends_bind.mp ends
    obtain ⟨rfl, -⟩ := ends_pure.mp ends
    rfl

/-- Locating the auxdata at the end of the runtime code looks at the end of the creation code. -/
theorem EndsInAuxdata.locateSolidity_ends_iff {alternate : Bool} {after : Compilation}
    (ending : compilation.EndsInAuxdata literal creation positions) :
    (locateSolidity alternate).Ends compilation located after ↔
      ∃ found, tailPosition creation (.text literal) = .ok found ∧
        (locateRest alternate literal positions found).Ends compilation located after := by
  obtain ⟨contract, read, one⟩ := ending.reported
  obtain ⟨code, runtime, tail⟩ := ending.runtime
  simp only [locateSolidity, ends_get_bind, ends_liftM_bind, ends_reading_bind, read, one, runtime,
    tail, ending.creation, Except.ok.injEq, exists_eq_left']
  refine exists_congr fun found => and_congr_right fun _ => ?_
  cases found <;> rfl

/-- A Solidity compilation that has an artifact and no places locates its auxdatas and keeps the
places. -/
theorem locate_ends_iff {alternate : Bool} {artifact : Artifact} {after : Compilation}
    (there : compilation.artifact = some artifact) (unknown : compilation.located = none)
    (solidity : compilation.language = .solidity) :
    (locate alternate).Ends compilation located after ↔
      ∃ middle, (locateSolidity alternate).Ends compilation located middle ∧
        after = { middle with located := some located } := by
  have had : compiled.Ends compilation artifact compilation := compiled_of_artifact there
  constructor
  · intro ends
    obtain ⟨_, again, middle, had_again, rfl, found⟩ := locate_anew unknown ends
    rw [Ends, had, Prod.mk.injEq] at had_again
    obtain ⟨-, rfl⟩ := had_again
    rcases found with ⟨-, run⟩ | ⟨vyper, -⟩
    · exact ⟨middle, run, rfl⟩
    · rw [solidity] at vyper
      contradiction
  · rintro ⟨middle, ran, rfl⟩
    rw [locate, ends_get_bind, unknown]
    refine ends_bind.mpr ⟨artifact, compilation, had, ends_get_bind.mpr ?_⟩
    rw [solidity]
    refine ends_bind.mpr ⟨.ok located, middle, ends_outcome.mpr ran, ?_⟩
    exact ends_modify_bind.mpr (ends_pure.mpr ⟨rfl, rfl⟩)

/-- A Solidity contract has its one auxdata at the end of its runtime code. Locating auxdatas right
after the contract was compiled ends well exactly if its creation code can be split, whatever the
compiler answers about edited sources, and then gives and keeps the place at the end of the runtime
code. -/
theorem locate_keeps_runtime (alternate : Bool) {first : Bool} {before : Compilation}
    {artifact : Artifact} {contract : Json} {front text : Code}
    (ran : (compile first).Ends before artifact compilation)
    (solidity : compilation.language = .solidity)
    (read : compilation.contract = .ok contract)
    (one : reportedAuxdatas contract = .ok [.text literal])
    (runtime : artifact.runtimeCode = Code.marked (front ++ text))
    (auxdata : IsAuxdata .solidity text) (same : Text.lower text = Text.lower literal.toList) :
    ((∃ located after, (locate alternate).Ends compilation located after) ↔
        Splittable .solidity artifact.creationCode) ∧
      ∀ located after, (locate alternate).Ends compilation located after →
        located.runtime =
          some [(AuxdataPositions.idAt 0, ⟨(front.length / 2 : Nat), Code.marked text⟩)] ∧
        after.located = some located := by
  obtain ⟨there, unknown, made⟩ := compile_fresh ran
  obtain ⟨runtime_read, creation_read⟩ := code_of_read made
  rw [runtime] at runtime_read
  have ending : compilation.EndsInAuxdata literal artifact.creationCode
      [(AuxdataPositions.idAt 0, ⟨(front.length / 2 : Nat), Code.marked text⟩)] :=
    ⟨⟨contract, read, one⟩, ⟨_, runtime_read, tailPosition_append front auxdata same⟩,
      creation_read⟩
  have filled : artifact.creationCode ≠ [] := by
    rw [← (code_marked creation_read).marked_body]
    exact Code.marked_ne_nil _
  have looked_iff : (∃ found, tailPosition artifact.creationCode (.text literal) = .ok found) ↔
      Splittable .solidity artifact.creationCode := exists_tailPosition_iff filled
  rw [← looked_iff]
  -- The compiler is asked again only after the end of the creation code has been looked at.
  simp only [locate_ends_iff there unknown solidity, ending.locateSolidity_ends_iff]
  refine ⟨⟨?_, ?_⟩, ?_⟩
  · rintro ⟨located, after, middle, ⟨found, looked, -⟩, -⟩
    exact ⟨found, looked⟩
  · rintro ⟨found, looked⟩
    obtain ⟨located, middle, ends⟩ := exists_locateRest alternate literal _ found compilation
    exact ⟨located, _, middle, ⟨found, looked, ends⟩, rfl⟩
  · rintro located after ⟨middle, ⟨found, -, ends⟩, rfl⟩
    exact ⟨runtime_of_locateRest ends, rfl⟩

/-- The listing of the assembly of a contract with one auxdata. -/
def plainListing (auxdata : String) : Json := .record [(".auxdata", .text auxdata)]

/-- The one auxdata of a listing is reported. -/
theorem reportedAuxdatas_plainListing (auxdata creation runtime : String) :
    reportedAuxdatas (listedContract (plainListing auxdata) creation runtime) =
      .ok [.text auxdata] := by
  have listed : Assembly.auxdatas (plainListing auxdata) = .ok [.text auxdata] := by
    simp [plainListing, Assembly.auxdatas, Assembly.memberAuxdatas, Assembly.inOrder, bind,
      Except.bind, pure, Except.pure]
  exact listed

/-- A contract whose creation code does not end in its auxdata, and whose compiler fails on edited
sources. -/
def sampleKept : Compilation :=
  answered [.ok (listedOutput (plainListing "a1646970667341010008") "60aa"
    "6001A1646970667341010008"), .error (.compilation .noOutput)]

/-- The place in the runtime code of the sample is kept. -/
theorem locate_keeps_runtime_sample :
    ∃ compilation artifact contract,
      (compile false).Ends sampleKept artifact compilation ∧
      compilation.language = .solidity ∧ compilation.contract = .ok contract ∧
      reportedAuxdatas contract = .ok [.text "a1646970667341010008"] ∧
      artifact.runtimeCode = Code.marked ("6001".toList ++ "A1646970667341010008".toList) ∧
      IsAuxdata .solidity "A1646970667341010008".toList ∧
      Text.lower "A1646970667341010008".toList = Text.lower "a1646970667341010008".toList ∧
      Splittable .solidity artifact.creationCode ∧
      ∃ located after, (locate false).Ends compilation located after ∧
        located.runtime = some [("1", ⟨2, "0xA1646970667341010008".toList⟩)] := by
  let compilation := ((compile false).ended sampleKept).2
  have solidity : compilation.language = .solidity := by decide +kernel
  have read : compilation.contract = .ok (listedContract (plainListing "a1646970667341010008")
      "60aa" "6001A1646970667341010008") := by rfl
  have one := reportedAuxdatas_plainListing "a1646970667341010008" "60aa" "6001A1646970667341010008"
  have auxdata : IsAuxdata .solidity "A1646970667341010008".toList := by decide +kernel
  have same : Text.lower "A1646970667341010008".toList =
      Text.lower "a1646970667341010008".toList := by decide +kernel
  have made : ((compile false).ended sampleKept).1.toOption.isSome = true := by decide +kernel
  obtain ⟨artifact, given⟩ := Result.exists_of_isSome made
  have ran : (compile false).Ends sampleKept artifact compilation := Prod.ext given rfl
  obtain ⟨runtime_read, creation_read⟩ := code_of_read (compile_fresh ran).2.2
  have runtime : artifact.runtimeCode =
      Code.marked ("6001".toList ++ "A1646970667341010008".toList) :=
    Except.ok.inj (runtime_read.symm.trans (by rfl))
  have creation : artifact.creationCode = Code.marked "60aa".toList :=
    Except.ok.inj (creation_read.symm.trans (by rfl))
  have splittable : Splittable .solidity artifact.creationCode := by
    rw [creation]
    decide +kernel
  obtain ⟨ends_iff, keeps⟩ :=
    locate_keeps_runtime false ran solidity read one runtime auxdata same
  obtain ⟨located, after, ends⟩ := ends_iff.mpr splittable
  exact ⟨compilation, artifact, _, ran, solidity, read, one, runtime, auxdata, same, splittable,
    located, after, ends, (keeps located after ends).1⟩

/-- A contract whose creation code ends in two bytes that claim a byte which begins no item. -/
def sampleLost : Compilation :=
  answered [.ok (listedOutput (plainListing "a1646970667341010008") "60aa6001ff0001"
    "6001a1646970667341010008"), .error (.compilation .noOutput)]

/-- The place in the runtime code of the sample is lost. -/
theorem locate_loses_runtime :
    let compilation := ((compile false).ended sampleLost).2
    (compilation.artifact.any fun artifact => artifact.runtimeCode =
        Code.marked ("6001".toList ++ "a1646970667341010008".toList)) = true ∧
      IsAuxdata .solidity "a1646970667341010008".toList ∧
      ((locate false).ended compilation).1.toOption = none := by
  decide +kernel

end Attest.Compilation
