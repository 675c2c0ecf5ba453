import Attest.Compilation.Auxdata
import Attest.Proofs.Attempt
import Attest.Proofs.Auxdata.Location

/-!
# Runs of a compilation

A compiler that ends well leaves its answer as the last output and what is read in it as the
artifact, and no places of auxdatas (`compile_ends`). Locating auxdatas afterwards asks the compiler
about edited sources only, and leaves output and artifact as they are (`locate_asked`).
-/
namespace Attest

/-- Places of auxdatas that are well placed in both bytecodes. -/
def LocatedAuxdatas.WellPlaced (located : LocatedAuxdatas) : Prop :=
  (located.runtime.getD []).WellPlaced ∧ (located.creation.getD []).WellPlaced

/-- A bytecode that is read in a compiler's output bears the mark. -/
theorem Contract.code_marked {contract : Json} {kind : CodeKind} {code : Code}
    (read : Contract.code contract kind = .ok code) : code.Marked := by
  obtain ⟨_, -, read⟩ := Result.bind_eq_ok.mp read
  obtain ⟨_, -, read⟩ := Result.bind_eq_ok.mp read
  rw [← Result.pure_eq_ok.mp read]
  exact Code.marked_marked _

namespace Compilation

open Attempt

/-- A bytecode of a compilation bears the mark. -/
theorem code_marked {compilation : Compilation} {kind : CodeKind} {code : Code}
    (read : compilation.code kind = .ok code) : code.Marked := by
  obtain ⟨_, -, read⟩ := Result.bind_eq_ok.mp read
  exact Contract.code_marked (Failure.lift_eq_ok.mp read)

/-- The codes in an artifact are those of the output that it was read in. -/
theorem code_of_read {compilation : Compilation} {artifact : Artifact}
    (read : compilation.read = .ok artifact) :
    compilation.code .runtime = .ok artifact.runtimeCode ∧
      compilation.code .creation = .ok artifact.creationCode := by
  obtain ⟨contract, found, read⟩ := Result.bind_eq_ok.mp read
  obtain ⟨metadata, -, read⟩ := Result.bind_eq_ok.mp read
  obtain ⟨interface, -, read⟩ := Result.bind_eq_ok.mp read
  obtain ⟨creation, creation_read, read⟩ := Result.bind_eq_ok.mp read
  obtain ⟨runtime, runtime_read, read⟩ := Result.bind_eq_ok.mp read
  obtain ⟨_, -, read⟩ := Result.bind_eq_ok.mp read
  obtain ⟨_, -, read⟩ := Result.bind_eq_ok.mp read
  obtain ⟨_, -, read⟩ := Result.bind_eq_ok.mp read
  rw [Result.pure_eq_ok] at read
  rw [← read]
  constructor
  · exact Result.bind_eq_ok.mpr ⟨contract, found, runtime_read⟩
  · exact Result.bind_eq_ok.mpr ⟨contract, found, creation_read⟩

/-- Asking the compiler leaves the question noted. -/
theorem ask_ends {input : Json} {alternate : Bool} {before after : Compilation} {output : Json}
    (ends : (ask input alternate).Ends before output after) :
    ∃ compiler, (Compiler.ask ⟨before.version, input, alternate⟩).Ends before.compiler output
        compiler ∧
      after = { before with
        compiler
        calls := before.calls ++ [⟨before.version, input, alternate⟩] } := by
  rw [ask, ends_bind] at ends
  obtain ⟨_, _, looked, ends⟩ := ends
  obtain ⟨rfl, rfl⟩ := ends_get.mp looked
  replace ends := ends_modify_bind.mp ends
  obtain ⟨compiler, asked, rfl⟩ := ends_within.mp ends
  exact ⟨compiler, asked, rfl⟩

/-- A compilation that ends well has its compiler's answer for its output and what is read in it for
its artifact. -/
theorem compile_ends {alternate : Bool} {before after : Compilation} {artifact : Artifact}
    (ends : (compile alternate).Ends before artifact after) :
    ∃ output compiler,
      (Compiler.ask ⟨before.version, before.input, alternate⟩).Ends before.compiler output
        compiler ∧
      after = { before with
        compiler
        calls := before.calls ++ [⟨before.version, before.input, alternate⟩]
        output
        artifact := some artifact
        located := none } ∧
      after.read = .ok artifact := by
  rw [compile, ends_bind] at ends
  obtain ⟨_, _, cleared, ends⟩ := ends
  obtain rfl := ends_modify.mp cleared
  replace ends := ends_get_bind.mp ends
  obtain ⟨answer, _, asked, ends⟩ := ends_bind.mp ends
  cases answer with
  | error failure => exact absurd ends not_ends_throw
  | ok output =>
    obtain ⟨compiler, gave, rfl⟩ := ask_ends (ends_outcome.mp asked)
    replace ends := ends_modify_bind.mp ends
    split at ends
    · exact absurd ends not_ends_throw_bind
    · replace ends := ends_get_bind.mp ends
      obtain ⟨found, holds, ends⟩ := ends_liftM_bind.mp ends
      replace ends := ends_modify_bind.mp ends
      obtain ⟨rfl, rfl⟩ := ends_pure.mp ends
      exact ⟨output, compiler, gave, rfl, holds⟩

/-- A compilation that ends well leaves what it gave for the artifact, and no places of auxdatas. -/
theorem compile_fresh {alternate : Bool} {before after : Compilation} {artifact : Artifact}
    (ends : (compile alternate).Ends before artifact after) :
    after.artifact = some artifact ∧ after.located = none ∧ after.read = .ok artifact := by
  obtain ⟨_, _, -, rfl, read⟩ := compile_ends ends
  exact ⟨rfl, rfl, read⟩

/-- A compilation that has an artifact gives it and does nothing. -/
theorem compiled_of_artifact {compilation : Compilation} {artifact : Artifact}
    (there : compilation.artifact = some artifact) :
    compiled.ended compilation = (.ok artifact, compilation) := by
  rw [compiled, ended_get_bind, there]
  rfl

/-- What locating auxdatas may change: it asks the compiler about edited sources and keeps the
places that it finds. -/
def Asked (before after : Compilation) : Prop :=
  ∃ compiler edits located, after = { before with
      compiler
      calls := before.calls ++ edits
      located } ∧
    ∀ request ∈ edits, editedInput before.input = .ok request.input

/-- What locating leaves as it was. -/
theorem Asked.kept {before after : Compilation} (asked : Asked before after) :
    after.artifact = before.artifact ∧ after.output = before.output ∧ after.read = before.read := by
  obtain ⟨_, _, _, rfl, -⟩ := asked
  exact ⟨rfl, rfl, rfl⟩

/-- What one step asks and what the next asks is asked by both. -/
theorem frame_asked : Frame Asked where
  refl := fun state => ⟨state.compiler, [], state.located, by simp, by simp⟩
  trans := by
    rintro first second third ⟨_, edits, _, rfl, edited⟩ ⟨compiler, more, located, rfl, edited_more⟩
    refine ⟨compiler, edits ++ more, located, by simp, fun request member => ?_⟩
    rcases List.mem_append.mp member with early | late
    · exact edited request early
    · exact edited_more request late

/-- Asking about edited sources asks about nothing else, whatever the compiler answers. -/
theorem ask_asked {input : Json} (alternate : Bool) {before : Compilation}
    (edited : editedInput before.input = .ok input) :
    Asked before ((ask input alternate).ended before).2 := by
  refine ⟨((Compiler.ask ⟨before.version, input, alternate⟩).ended before.compiler).2,
    [⟨before.version, input, alternate⟩], before.located, rfl, ?_⟩
  intro request member
  rw [List.mem_singleton.mp member]
  exact edited

/-- Whether asking the compiler about the edited sources of a compilation keeps a relation. -/
def EditKeeps (relation : Compilation → Compilation → Prop) (alternate : Bool) : Prop :=
  ∀ before input, editedInput before.input = .ok input →
    relation before ((ask input alternate).ended before).2

section

variable {relation : Compilation → Compilation → Prop} {alternate : Bool}

/-- Compiling edited sources keeps what asking about them keeps. -/
theorem compileEdited_keeps_of (frame : Frame relation) (asks : EditKeeps relation alternate) :
    (compileEdited alternate).Keeps relation := by
  intro before
  rw [compileEdited]
  refine frame.bind_from (frame.refl before) fun _ _ looked => ?_
  obtain ⟨rfl, rfl⟩ := ends_get.mp looked
  refine frame.bind_from (frame.refl before) fun input _ read => ?_
  obtain ⟨edited, rfl⟩ := ends_liftM_reading.mp read
  refine frame.bind_from (asks before input edited) fun output middle _ => ?_
  have later : Keeps relation (do
      let target := (← get).target
      let contract ← output.path ["contracts", target.path, target.name]
      return (contract, ← reportedAuxdatas contract)) :=
    frame.bind frame.get fun _ => frame.bind (frame.ofReading _) fun _ =>
      frame.bind (frame.ofReading _) fun _ => frame.pure _
  exact later middle

/-- Locating by comparison in the creation code keeps what asking about edited sources keeps. -/
theorem locateCreationByEditing_keeps_of (frame : Frame relation)
    (asks : EditKeeps relation alternate) (reported : List Json) :
    (locateCreationByEditing alternate reported).Keeps relation :=
  frame.bind (compileEdited_keeps_of frame asks) fun (_, _) =>
    frame.bind frame.get fun _ => frame.ofResult _

/-- Locating by comparison keeps what asking about edited sources keeps. -/
theorem locateByEditing_keeps_of (frame : Frame relation) (asks : EditKeeps relation alternate)
    (reported : List Json) : (locateByEditing alternate reported).Keeps relation :=
  frame.bind (compileEdited_keeps_of frame asks) fun (_, _) =>
    frame.bind frame.get fun _ => frame.bind (frame.ofResult _) fun _ => frame.pure _

/-- Locating in a Solidity contract keeps what asking about edited sources keeps. -/
theorem locateSolidity_keeps_of (frame : Frame relation) (asks : EditKeeps relation alternate) :
    (locateSolidity alternate).Keeps relation := by
  refine frame.bind frame.get fun compilation => ?_
  refine frame.bind (frame.ofResult _) fun contract => ?_
  refine frame.bind (frame.ofReading _) fun reported => ?_
  split
  · exact frame.pure _
  · refine frame.bind (frame.ofResult _) fun runtime => ?_
    refine frame.bind (frame.ofResult _) fun tail => ?_
    split
    · exact frame.throw _
    · refine frame.bind (frame.ofResult _) fun creation => ?_
      refine frame.bind (frame.ofResult _) fun tail => ?_
      split
      · exact frame.pure _
      · exact frame.bind (locateCreationByEditing_keeps_of frame asks _).outcome
          fun _ => frame.pure _
  · exact locateByEditing_keeps_of frame asks _

end

/-- Compiling edited sources asks about nothing else. -/
theorem compileEdited_keeps (alternate : Bool) : (compileEdited alternate).Keeps Asked :=
  compileEdited_keeps_of frame_asked fun _ _ => ask_asked alternate

/-- Locating in a Solidity contract asks about edited sources only. -/
theorem locateSolidity_keeps (alternate : Bool) : (locateSolidity alternate).Keeps Asked :=
  locateSolidity_keeps_of frame_asked fun _ _ => ask_asked alternate

/-- Locating the auxdatas of a compilation that has an artifact asks about edited sources only. -/
theorem locate_asked (alternate : Bool) {compilation : Compilation} {artifact : Artifact}
    (there : compilation.artifact = some artifact) :
    Asked compilation ((locate alternate).ended compilation).2 := by
  rw [locate]
  refine frame_asked.bind_from (frame_asked.refl compilation) fun _ _ looked => ?_
  obtain ⟨rfl, rfl⟩ := ends_get.mp looked
  split
  · exact frame_asked.refl compilation
  · refine frame_asked.bind_from ?_ fun _ _ had => ?_
    · rw [compiled_of_artifact there]
      exact frame_asked.refl compilation
    rw [Ends, compiled_of_artifact there, Prod.mk.injEq] at had
    obtain ⟨-, rfl⟩ := had
    refine frame_asked.bind_from (frame_asked.refl compilation) fun _ _ looked => ?_
    obtain ⟨rfl, rfl⟩ := ends_get.mp looked
    refine frame_asked.bind_from ?_ fun result middle _ => ?_
    · split
      · exact (locateSolidity_keeps alternate).outcome compilation
      · exact frame_asked.refl compilation
    split
    · exact frame_asked.refl middle
    · exact ⟨middle.compiler, [], _, by simp; rfl, by simp⟩

/-- Where no places are kept, locating compiles if there is no artifact, locates the auxdatas of the
language, and keeps their places. -/
theorem locate_anew {alternate : Bool} {before after : Compilation} {located : LocatedAuxdatas}
    (unknown : before.located = none) (ends : (locate alternate).Ends before located after) :
    ∃ artifact compilation middle, compiled.Ends before artifact compilation ∧
      after = { middle with located := some located } ∧
      ((compilation.language = .solidity ∧
          (locateSolidity alternate).Ends compilation located middle) ∨
        (compilation.language = .vyper ∧ compilation.locateVyper = .ok located ∧
          compilation = middle)) := by
  replace ends := ends_get_bind.mp ends
  rw [unknown] at ends
  obtain ⟨artifact, compilation, had, ends⟩ := ends_bind.mp ends
  replace ends := ends_get_bind.mp ends
  obtain ⟨result, middle, ran, ends⟩ := ends_bind.mp ends
  cases result with
  | error failure => exact absurd ends not_ends_throw
  | ok found =>
    replace ends := ends_modify_bind.mp ends
    obtain ⟨rfl, rfl⟩ := ends_pure.mp ends
    refine ⟨artifact, compilation, middle, had, rfl, ?_⟩
    have run := ends_outcome.mp ran
    split at run
    · rename_i solidity
      exact .inl ⟨solidity, run⟩
    · rename_i vyper
      exact .inr ⟨vyper, ends_ofResult.mp run⟩

/-- What a compiler gives out for a contract: the listing of its assembly, and its two bytecodes. -/
def listedContract (assembly : Json) (creation runtime : String) : Json :=
  .record [("metadata", .text "\x7b\x7d"), ("abi", .list []),
    ("evm", .record [
      ("legacyAssembly", assembly),
      ("bytecode", .record [("object", .text creation)]),
      ("deployedBytecode", .record [("object", .text runtime)])])]

/-- A compiler's output for one contract. -/
def listedOutput (assembly : Json) (creation runtime : String) : Json :=
  .record [("contracts", .record [("C.sol", .record [
    ("C", listedContract assembly creation runtime)])])]

/-- A compilation whose compiler gives answers, one after another. -/
def answered (answers : List (Except Failure Json)) : Compilation where
  compiler := .known answers
  version := "0.8.20"
  input := .record [("sources", .record [])]
  target := ⟨"C.sol", "C"⟩
  language := .solidity
  style := .solidity

end Compilation

end Attest
