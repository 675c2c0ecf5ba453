import Attest.Proofs.Compilation.Run

/-!
# What a compilation asks its compiler

Compiling asks the compiler once, about the sources as they are, whatever comes of it
(`compile_askedOnce`). Locating the auxdatas of what was compiled asks it at most once more, about
edited sources, and with the build that it is told to ask for (`locate_editedOnce`). Nothing else
asks it where an artifact is at hand.
-/
namespace Attest.Compilation

open Attempt

/-- What a compilation asks of its compiler. -/
def request (compilation : Compilation) (alternate : Bool) : CompilerRequest :=
  ⟨compilation.version, compilation.input, alternate⟩

/-- A compilation before and after its compiler was asked once about its sources. -/
structure AskedOnce (alternate : Bool) (before after : Compilation) : Prop where
  /-- The compiler was asked once more. -/
  calls : after.calls = before.calls ++ [before.request alternate]
  /-- The version is still the same. -/
  version : after.version = before.version
  /-- The sources are still the same. -/
  input : after.input = before.input

/-- At most one question about the edited sources of a compilation. -/
inductive Edit (alternate : Bool) (compilation : Compilation) : List CompilerRequest → Prop
  | nothing : Edit alternate compilation []
  | once {input : Json} : editedInput compilation.input = .ok input →
    Edit alternate compilation [⟨compilation.version, input, alternate⟩]

/-- A compilation before and after its auxdatas were looked for. -/
def EditedOnce (alternate : Bool) (before after : Compilation) : Prop :=
  ∃ compiler edits located, Edit alternate before edits ∧
    after = { before with compiler, calls := before.calls ++ edits, located }

/-- Asking the compiler leaves the question noted, whatever it answers. -/
theorem ask_ended (input : Json) (alternate : Bool) (before : Compilation) :
    ∃ compiler, ((ask input alternate).ended before).2 = { before with
      compiler, calls := before.calls ++ [⟨before.version, input, alternate⟩] } :=
  ⟨((Compiler.ask ⟨before.version, input, alternate⟩).ended before.compiler).2, rfl⟩

/-- Compilations of which one has asked no more than the other. -/
def Unasked (before after : Compilation) : Prop :=
  after.calls = before.calls ∧ after.version = before.version ∧ after.input = before.input

/-- Asking nothing twice is asking nothing. -/
theorem frame_unasked : Frame Unasked where
  refl := fun _ => ⟨rfl, rfl, rfl⟩
  trans := fun ⟨calls, version, input⟩ ⟨more, again, same⟩ =>
    ⟨more.trans calls, again.trans version, same.trans input⟩

/-- Keeping what the compiler answered asks nothing. -/
theorem keepOutput_unasked (output : Json) :
    Keeps Unasked (do
      modify fun compilation : Compilation => { compilation with output }
      if !output.holds then throw (Failure.compilation .noOutput)
      let artifact ← (← get).read
      modify fun compilation : Compilation => { compilation with artifact := some artifact }
      return artifact) := by
  have written (change : Compilation → Compilation)
      (kept : ∀ compilation, Unasked compilation (change compilation)) :
      (modify change : Attempt Compilation Unit).Keeps Unasked := kept
  refine frame_unasked.bind (written _ fun _ => ⟨rfl, rfl, rfl⟩) fun _ => ?_
  have rest : Keeps Unasked (do
      let artifact ← (← get).read
      modify fun compilation : Compilation => { compilation with artifact := some artifact }
      return artifact) :=
    frame_unasked.bind frame_unasked.get fun _ => frame_unasked.bind (frame_unasked.ofResult _)
      fun _ => frame_unasked.bind (written _ fun _ => ⟨rfl, rfl, rfl⟩) fun _ =>
        frame_unasked.pure _
  split
  · exact frame_unasked.bind (frame_unasked.throw _) fun _ => rest
  · exact rest

/-- Compiling asks the compiler once, whatever comes of it. -/
theorem compile_askedOnce (alternate : Bool) (before : Compilation) :
    AskedOnce alternate before ((compile alternate).ended before).2 := by
  let cleared : Compilation := { before with located := none, artifact := none }
  obtain ⟨compiler, asked⟩ := ask_ended cleared.input alternate cleared
  have once : ∀ after, Unasked ((ask cleared.input alternate).ended cleared).2 after →
      AskedOnce alternate before after := by
    rintro after ⟨calls, version, input⟩
    rw [asked] at calls version input
    exact ⟨calls, version, input⟩
  rw [compile, ended_modify_bind, ended_get_bind]
  refine bind_ended (once _ (frame_unasked.refl _)) fun answer _ => once _ ?_
  cases answer with
  | error failure => exact frame_unasked.refl _
  | ok output => exact keepOutput_unasked output _

/-- Looking for nothing asks nothing. -/
theorem EditedOnce.refl (alternate : Bool) (compilation : Compilation) :
    EditedOnce alternate compilation compilation :=
  ⟨compilation.compiler, [], compilation.located, .nothing, by simp⟩

/-- Keeping the places that were found asks nothing. -/
theorem EditedOnce.keep {alternate : Bool} {before after : Compilation}
    (edited : EditedOnce alternate before after) (located : Option LocatedAuxdatas) :
    EditedOnce alternate before { after with located } := by
  obtain ⟨compiler, edits, _, edit, rfl⟩ := edited
  exact ⟨compiler, edits, located, edit, rfl⟩

/-- Compiling edited sources asks the compiler once, or nothing where the sources cannot be edited. -/
theorem compileEdited_editedOnce (alternate : Bool) :
    (compileEdited alternate).Keeps (EditedOnce alternate) := by
  intro before
  rw [compileEdited, ended_get_bind]
  refine reading_bind_ended (.refl alternate before) fun input edited => ?_
  have asks : EditedOnce alternate before ((ask input alternate).ended before).2 := by
    obtain ⟨compiler, asked⟩ := ask_ended input alternate before
    exact ⟨compiler, _, before.located, .once edited, asked⟩
  refine bind_ended asks fun output _ => ?_
  have still : Keeps Eq (do
      let target := (← get).target
      let contract ← output.path ["contracts", target.path, target.name]
      return (contract, ← reportedAuxdatas contract) : Attempt Compilation (Json × List Json)) :=
    frame_eq.bind frame_eq.get fun _ => frame_eq.bind (frame_eq.ofReading _) fun _ =>
      frame_eq.bind (frame_eq.ofReading _) fun _ => frame_eq.pure _
  exact still _ ▸ asks

/-- Locating by comparison in the creation code asks the compiler at most once. -/
theorem locateCreationByEditing_editedOnce (alternate : Bool) (reported : List Json) :
    (locateCreationByEditing alternate reported).Keeps (EditedOnce alternate) :=
  (compileEdited_editedOnce alternate).bind_still fun (_, _) =>
    frame_eq.bind frame_eq.get fun _ => frame_eq.ofResult _

/-- Locating by comparison asks the compiler at most once. -/
theorem locateByEditing_editedOnce (alternate : Bool) (reported : List Json) :
    (locateByEditing alternate reported).Keeps (EditedOnce alternate) :=
  (compileEdited_editedOnce alternate).bind_still fun (_, _) =>
    frame_eq.bind frame_eq.get fun _ => frame_eq.bind (frame_eq.ofResult _) fun _ =>
      frame_eq.pure _

/-- Locating in a Solidity contract asks the compiler at most once. -/
theorem locateSolidity_editedOnce (alternate : Bool) :
    (locateSolidity alternate).Keeps (EditedOnce alternate) := by
  have none := EditedOnce.refl alternate
  refine bind_of_still none frame_eq.get fun compilation => ?_
  refine bind_of_still none (frame_eq.ofResult _) fun contract => ?_
  refine bind_of_still none (frame_eq.ofReading _) fun reported => ?_
  split
  · exact none
  · refine bind_of_still none (frame_eq.ofResult _) fun runtime => ?_
    refine bind_of_still none (frame_eq.ofResult _) fun tail => ?_
    split
    · exact none
    · refine bind_of_still none (frame_eq.ofResult _) fun creation => ?_
      refine bind_of_still none (frame_eq.ofResult _) fun tail => ?_
      split
      · exact none
      · exact (locateCreationByEditing_editedOnce alternate _).outcome.bind_still
          fun _ => frame_eq.pure _
  · exact locateByEditing_editedOnce alternate _

/-- Locating the auxdatas of a compilation that has an artifact asks the compiler at most once more,
about edited sources. -/
theorem locate_editedOnce (alternate : Bool) {compilation : Compilation} {artifact : Artifact}
    (there : compilation.artifact = some artifact) :
    EditedOnce alternate compilation ((locate alternate).ended compilation).2 := by
  rw [locate, ended_get_bind]
  split
  · exact .refl alternate compilation
  · have had : (compiled.ended compilation).2 = compilation := by
      rw [compiled_of_artifact there]
    refine bind_ended (had.symm ▸ .refl alternate compilation) fun _ _ => ?_
    rw [had, ended_get_bind]
    refine bind_ended_of_kept ?_ fun result middle edited => ?_
    · split
      · exact (locateSolidity_editedOnce alternate).outcome compilation
      · exact .refl alternate compilation
    split
    · exact edited
    · exact edited.keep _

/-- Locating leaves the artifact as it was. -/
theorem EditedOnce.artifact_eq {alternate : Bool} {before after : Compilation}
    (edited : EditedOnce alternate before after) : after.artifact = before.artifact := by
  obtain ⟨_, _, _, -, rfl⟩ := edited
  rfl

end Attest.Compilation
