import Mathlib.Data.List.Induction
import Attest.Proofs.Compilation.Described

/-!
# What a compilation keeps is of its last output

However a compilation is used, and whatever its compiler answers, its artifact is what is read in the
compiler's last output, and the places of auxdatas that it keeps were located in that output
(`Compilation.kept_of_output`). A new output makes both void before it comes, so a compiler that
fails, or an output that cannot be read, leaves neither behind.
-/
namespace Attest.Compilation

open Attempt

/-- What a compilation can be asked for. -/
inductive Operation where
  /-- To compile. -/
  | compile (alternate : Bool)
  /-- To locate the auxdatas. -/
  | locate (alternate : Bool)
  /-- The places of the auxdatas in a bytecode, located if they are not known. -/
  | places (kind : CodeKind)
  /-- The interface, compiling if there is none. -/
  | interface
  /-- The places of immutables, compiling if there are none. -/
  | immutables
  /-- The references to libraries in a bytecode, compiling if there are none. -/
  | links (kind : CodeKind)
  /-- The target's part of the last output. -/
  | contract
  /-- A bytecode in the last output. -/
  | code (kind : CodeKind)
  /-- The metadata document. -/
  | metadata
  /-- The contents of the sources. -/
  | sources
  /-- The settings. -/
  | settings
  /-- Whether the optimizer is on. -/
  | optimized
  /-- Whether the compiler goes by way of its intermediate language. -/
  | viaIntermediate
  /-- The words by which it is known. -/
  | describe
  deriving DecidableEq, Repr

namespace Operation

/-- What is done for what is asked. The answer is left out: nothing that follows depends on it. -/
def act : Operation → Attempt Compilation Unit
  | compile alternate => do let _ ← Compilation.compile alternate
  | locate alternate => do let _ ← Compilation.locate alternate
  | places _ => do let _ ← Compilation.locate false
  | interface => do let _ ← compiled
  | immutables => do let _ ← compiled
  | links _ => do let _ ← compiled
  | contract => do let _ ← (← get).contract
  | code kind => do let _ ← (← get).code kind
  | metadata => do let _ ← (← get).metadata
  | sources => do let _ ← sourceContents (← get).input
  | settings => do let _ ← (← get).settings
  | optimized => do let _ ← (← get).optimized
  | viaIntermediate => do let _ ← (← get).viaIntermediate
  | describe => do let _ := (← get).describe

/-- Whether it is asked to compile, artifact or not. -/
def compiles : Operation → Bool
  | compile _ => true
  | _ => false

/-- Whether what it asks for is read in what the compilation is, and nothing is done for it. -/
def reads : Operation → Bool
  | contract | code _ | metadata | sources | settings | optimized | viaIntermediate
  | describe => true
  | _ => false

/-- The build that locates auxdatas, if they are asked for. -/
def locates? : Operation → Option Bool
  | locate alternate => some alternate
  | places _ => some false
  | _ => none

end Operation

/-- A compilation after it was asked for one thing, whether it gave it or failed. -/
def step (compilation : Compilation) (operation : Operation) : Compilation :=
  (operation.act.ended compilation).2

/-- A compilation after it was asked for one thing after another. -/
def run (operations : List Operation) (compilation : Compilation) : Compilation :=
  operations.foldl step compilation

/-- Whether the artifact, if there is one, is what is read in the last output. -/
def Sound (compilation : Compilation) : Prop :=
  ∀ artifact, compilation.artifact = some artifact → compilation.read = .ok artifact

/-- A compilation before and after its compiler was asked about edited sources, and nothing else. -/
def Edits (before after : Compilation) : Prop :=
  ∃ compiler edits, after = { before with compiler, calls := before.calls ++ edits } ∧
    ∀ request ∈ edits, editedInput before.input = .ok request.input

/-- What one step asks and what the next asks is asked by both. -/
theorem frame_edits : Frame Edits where
  refl := fun state => ⟨state.compiler, [], by simp, by simp⟩
  trans := by
    rintro first second third ⟨_, edits, rfl, edited⟩ ⟨compiler, more, rfl, edited_more⟩
    refine ⟨compiler, edits ++ more, by simp, fun request member => ?_⟩
    rcases List.mem_append.mp member with early | late
    · exact edited request early
    · exact edited_more request late

/-- Asking about edited sources is asking about nothing else. -/
theorem editKeeps_edits (alternate : Bool) : EditKeeps Edits alternate := by
  intro before input edited
  refine ⟨((Compiler.ask ⟨before.version, input, alternate⟩).ended before.compiler).2,
    [⟨before.version, input, alternate⟩], rfl, ?_⟩
  intro request member
  rw [List.mem_singleton.mp member]
  exact edited

/-- The places of auxdatas by the rules of the language. -/
def locateByLanguage (alternate : Bool) (compilation : Compilation) :
    Attempt Compilation LocatedAuxdatas :=
  match compilation.language with
  | .solidity => locateSolidity alternate
  | .vyper => ofResult compilation.locateVyper

/-- Locating by the rules of a language asks about edited sources only. -/
theorem locateByLanguage_edits (alternate : Bool) (compilation : Compilation) :
    (locateByLanguage alternate compilation).Keeps Edits := by
  rw [locateByLanguage]
  split
  · exact locateSolidity_keeps_of frame_edits (editKeeps_edits alternate)
  · exact frame_edits.ofResult _

/-- A compilation without an artifact has none but that of its output. -/
theorem sound_of_none {compilation : Compilation} (none : compilation.artifact = none) :
    compilation.Sound := by
  intro artifact there
  rw [none] at there
  cases there

/-- A compilation that keeps no places, and no artifact but that of its last output. -/
structure Clear (compilation : Compilation) : Prop where
  /-- It keeps no places. -/
  located : compilation.located = none
  /-- Its artifact is that of its last output. -/
  sound : compilation.Sound

/-- Compiling leaves no places, and no artifact but that of the output that came. -/
theorem compile_clear (alternate : Bool) (before : Compilation) :
    Clear ((compile alternate).ended before).2 := by
  -- Both are given up before the compiler is asked, so each way out of here finds them gone.
  let cleared : Compilation := { before with located := none, artifact := none }
  let asked := ((ask cleared.input alternate).ended cleared).2
  rw [compile, ended_modify_bind, ended_get_bind]
  refine bind_ended ⟨rfl, sound_of_none rfl⟩ fun answer _ => ?_
  cases answer with
  | error failure => exact ⟨rfl, sound_of_none rfl⟩
  | ok output =>
    let answered : Compilation := { asked with output }
    have clear : Clear answered := ⟨rfl, sound_of_none rfl⟩
    dsimp only
    rw [ended_modify_bind]
    change Clear (Attempt.ended _ answered).2
    split
    · exact clear
    · rw [ended_get_bind]
      refine liftM_bind_ended clear fun artifact read => ⟨rfl, fun found there => ?_⟩
      rw [← Option.some.inj there]
      exact read

/-- Where an artifact is asked for and there is none, the compilation is run. -/
theorem compiled_of_none {compilation : Compilation} (none : compilation.artifact = none) :
    compiled.ended compilation = (compile false).ended compilation := by
  rw [compiled, ended_get_bind, none]

/-- A compilation that is clear stays so when its artifact is asked for. -/
theorem compiled_clear {compilation : Compilation} (clear : compilation.Clear) :
    Clear (compiled.ended compilation).2 := by
  cases there : compilation.artifact with
  | some artifact =>
    rw [compiled_of_artifact there]
    exact clear
  | none =>
    rw [compiled_of_none there]
    exact compile_clear false compilation

/-- An artifact that is given is there. -/
theorem compiled_there {before after : Compilation} {artifact : Artifact}
    (ends : compiled.Ends before artifact after) : after.artifact = some artifact := by
  cases there : before.artifact with
  | some kept =>
    rw [Ends, compiled_of_artifact there, Prod.mk.injEq, Except.ok.injEq] at ends
    obtain ⟨rfl, rfl⟩ := ends
    exact there
  | none =>
    rw [Ends, compiled_of_none there] at ends
    exact (compile_fresh ends).1

/-- What was asked about edited sources makes no difference to an artifact. -/
theorem Clear.edits {before after : Compilation} (clear : before.Clear)
    (edits : Edits before after) : after.Clear := by
  obtain ⟨_, _, rfl, -⟩ := edits
  exact ⟨clear.located, clear.sound⟩

/-- Places that were located anew, and the compilation that keeps them: its artifact was at hand in
`ready`, the rules of the language gave the places of the auxdatas there, and only the compiler was
asked meanwhile, about edited sources. -/
def Anew (alternate : Bool) (ready : Compilation) (located : LocatedAuxdatas)
    (after : Compilation) : Prop :=
  ∃ middle, (locateByLanguage alternate ready).Ends ready located middle ∧ Edits ready middle ∧
    after = { middle with located := some located }

/-- Known places are given, and nothing is done. -/
theorem locate_of_located {alternate : Bool} {compilation : Compilation}
    {located : LocatedAuxdatas} (known : compilation.located = some located) :
    (locate alternate).ended compilation = (.ok located, compilation) := by
  rw [locate, ended_get_bind, known]
  rfl

/-- Where no places are known, the artifact is asked for, then the places by the rules of the
language, and what those give is kept. -/
theorem locate_of_unknown (alternate : Bool) {before : Compilation}
    (unknown : before.located = none) :
    (locate alternate).ended before =
      match compiled.ended before with
      | (.error failure, ready) => (.error failure, ready)
      | (.ok _, ready) =>
        match (locateByLanguage alternate ready).ended ready with
        | (.error failure, middle) =>
          (.error (.compilation (.auxdataNotLocated failure.detail)), middle)
        | (.ok located, middle) => (.ok located, { middle with located := some located }) := by
  rw [locate, ended_get_bind, unknown]
  dsimp only
  rw [ended_bind]
  cases compiled.ended before with
  | mk given ready =>
    cases given with
    | error failure => rfl
    | ok artifact =>
      dsimp only
      rw [ended_get_bind, ended_outcome_bind, locateByLanguage]
      generalize Attempt.ended _ ready = ran
      obtain ⟨result, middle⟩ := ran
      cases result <;> rfl

/-- Where no places are known, they are located anew, or none are known afterwards. -/
theorem locate_of_clear (alternate : Bool) {before : Compilation} (clear : before.Clear) :
    let after := ((locate alternate).ended before).2
    after.Clear ∨ ∃ located ready artifact,
      (locate alternate).ended before = (.ok located, after) ∧
      compiled.Ends before artifact ready ∧ ready.Sound ∧ Anew alternate ready located after := by
  have ready_clear := compiled_clear clear
  rw [locate_of_unknown alternate clear.located]
  cases had : compiled.ended before with
  | mk given ready =>
    rw [had] at ready_clear
    cases given with
    | error failure => exact .inl ready_clear
    | ok artifact =>
      have asked := locateByLanguage_edits alternate ready ready
      dsimp only
      cases ran : (locateByLanguage alternate ready).ended ready with
      | mk result middle =>
        rw [ran] at asked
        cases result with
        | error failure => exact .inl (ready_clear.edits asked)
        | ok located =>
          exact .inr ⟨located, ready, artifact, rfl, had, ready_clear.sound, middle, ran, asked, rfl⟩

/-- Reading something of a compilation changes nothing. -/
theorem reading_still {α : Type} (reading : Compilation → Except Failure α) :
    Keeps Eq (do let _ ← reading (← get) : Attempt Compilation Unit) :=
  frame_eq.bind frame_eq.get fun _ => frame_eq.bind (frame_eq.ofResult _) fun _ => frame_eq.pure ()

/-- Asking to compile compiles. -/
theorem step_compile (alternate : Bool) (before : Compilation) :
    before.step (.compile alternate) = ((compile alternate).ended before).2 :=
  ended_ignored (compile alternate) before

/-- Asking for places locates them. -/
theorem step_locates {operation : Operation} {alternate : Bool}
    (locates : operation.locates? = some alternate) (before : Compilation) :
    before.step operation = ((locate alternate).ended before).2 := by
  cases operation with
  | locate other =>
    obtain rfl := Option.some.inj locates
    exact ended_ignored (Compilation.locate other) before
  | places kind =>
    obtain rfl := Option.some.inj locates
    exact ended_ignored (Compilation.locate false) before
  | _ => cases locates

/-- Asking for what is read changes nothing. -/
theorem step_of_reads {operation : Operation} (reads : operation.reads = true)
    (before : Compilation) : before.step operation = before := by
  cases operation with
  | contract => exact (reading_still Compilation.contract before).symm
  | code kind => exact (reading_still (Compilation.code · kind) before).symm
  | metadata => exact (reading_still Compilation.metadata before).symm
  | sources =>
    exact (reading_still (fun compilation =>
      Failure.ofFault (sourceContents compilation.input)) before).symm
  | settings =>
    exact (reading_still (fun compilation => Failure.ofFault compilation.settings) before).symm
  | optimized =>
    exact (reading_still (fun compilation => Failure.ofFault compilation.optimized) before).symm
  | viaIntermediate =>
    exact (reading_still (fun compilation =>
      Failure.ofFault compilation.viaIntermediate) before).symm
  | describe => rfl
  | _ => cases reads

/-- Asking for anything else needs the artifact at most. -/
theorem step_other {operation : Operation} (runs : operation.compiles = false)
    (locates : operation.locates? = none) (before : Compilation) :
    before.step operation = (compiled.ended before).2 ∨ before.step operation = before := by
  cases reads : operation.reads with
  | true => exact .inr (step_of_reads reads before)
  | false =>
    left
    cases operation with
    | compile alternate => cases runs
    | locate alternate => cases locates
    | places kind => cases locates
    | interface => exact ended_ignored compiled before
    | immutables => exact ended_ignored compiled before
    | links kind => exact ended_ignored compiled before
    | _ => cases reads

/-- A compilation that has an artifact and places stays as it is until it is asked to compile. -/
theorem step_of_located {compilation : Compilation} {artifact : Artifact}
    {located : LocatedAuxdatas} (there : compilation.artifact = some artifact)
    (known : compilation.located = some located) {operation : Operation}
    (runs : operation.compiles = false) : compilation.step operation = compilation := by
  cases locates : operation.locates? with
  | some alternate => rw [step_locates locates, locate_of_located known]
  | none =>
    rcases step_other runs locates compilation with asked | still
    · rw [asked, compiled_of_artifact there]
    · exact still

/-- A compilation that has an artifact and places stays as it is while it is asked for anything but to
compile. -/
theorem run_of_located {compilation : Compilation} {artifact : Artifact}
    {located : LocatedAuxdatas} (there : compilation.artifact = some artifact)
    (known : compilation.located = some located) {operations : List Operation}
    (runs : ∀ operation ∈ operations, operation.compiles = false) :
    run operations compilation = compilation := by
  induction operations with
  | nil => rfl
  | cons operation rest inductive_hypothesis =>
    have still := step_of_located there known (runs operation List.mem_cons_self)
    rw [run, List.foldl_cons, still]
    exact inductive_hypothesis fun other later => runs other (List.mem_cons_of_mem _ later)

/-- What a compilation is asked for last is done behind everything else. -/
theorem run_append_singleton (operations : List Operation) (operation : Operation)
    (start : Compilation) :
    run (operations ++ [operation]) start = (run operations start).step operation := by
  rw [run, List.foldl_append]
  rfl

/-- Places that were located while a compilation was asked for one thing after another, and of which
nothing has changed since: at some point it was asked for places, its artifact was at hand, and the
places were located anew in what was its output then and is still. -/
def LocatedDuring (operations : List Operation) (start : Compilation) (located : LocatedAuxdatas) :
    Prop :=
  ∃ earlier operation later alternate artifact ready,
    operations = earlier ++ operation :: later ∧ operation.locates? = some alternate ∧
      compiled.Ends (run earlier start) artifact ready ∧
      Anew alternate ready located (run operations start)

/-- A compilation after it was asked for one thing after another keeps only what is of its last
output. -/
structure Current (operations : List Operation) (start : Compilation) : Prop where
  /-- Its artifact is what is read in the output. -/
  sound : (run operations start).Sound
  /-- If it keeps places, it has an artifact. -/
  artifact : ∀ located, (run operations start).located = some located →
    (run operations start).artifact.isSome = true
  /-- The places that it keeps were located in the output. -/
  located : ∀ located, (run operations start).located = some located →
    LocatedDuring operations start located

/-- A compilation that keeps no places keeps only what is of its last output. -/
theorem Clear.current {operations : List Operation} {start : Compilation}
    (clear : (run operations start).Clear) : Current operations start where
  sound := clear.sound
  artifact := by
    intro located known
    rw [clear.located] at known
    cases known
  located := by
    intro located known
    rw [clear.located] at known
    cases known

/-- A compilation that located places anew keeps only what is of its last output. -/
theorem Anew.current {earlier : List Operation} {operation : Operation} {start ready : Compilation}
    {alternate : Bool} {artifact : Artifact} {located : LocatedAuxdatas}
    (locates : operation.locates? = some alternate)
    (had : compiled.Ends (run earlier start) artifact ready) (sound : ready.Sound)
    (anew : Anew alternate ready located (run (earlier ++ [operation]) start)) :
    Current (earlier ++ [operation]) start := by
  obtain ⟨middle, found, ⟨compiler, edits, asked, edited⟩, kept⟩ := anew
  have there := compiled_there had
  refine ⟨?_, ?_, ?_⟩
  · rw [kept, asked]
    exact sound
  · intro _ _
    rw [kept, asked]
    exact Option.isSome_iff_exists.mpr ⟨artifact, there⟩
  · intro other known
    rw [kept] at known
    obtain rfl := Option.some.inj known
    exact ⟨earlier, operation, [], alternate, artifact, ready, rfl, locates, had, middle, found,
      ⟨compiler, edits, asked, edited⟩, kept⟩

/-- What a compilation keeps of its last output it keeps so, whatever it is asked for next. -/
theorem Current.step {operations : List Operation} {start : Compilation}
    (current : Current operations start) (operation : Operation) :
    Current (operations ++ [operation]) start := by
  have after := run_append_singleton operations operation start
  cases runs : operation.compiles with
  | true =>
    cases operation with
    | compile alternate =>
      refine Clear.current ?_
      rw [after, step_compile]
      exact compile_clear alternate _
    | _ => cases runs
  | false =>
    cases known : (run operations start).located with
    | some located =>
      -- Nothing is done where places are known; they were located when they were.
      obtain ⟨artifact, there⟩ := Option.isSome_iff_exists.mp (current.artifact located known)
      have still := after.trans (step_of_located there known runs)
      obtain ⟨earlier, first, later, alternate, artifact, ready, parts, locates, had, anew⟩ :=
        current.located located known
      refine ⟨still ▸ current.sound, still ▸ current.artifact, fun other known_other => ?_⟩
      rw [still, known] at known_other
      obtain rfl := Option.some.inj known_other
      refine ⟨earlier, first, later ++ [operation], alternate, artifact, ready, ?_, locates, had,
        still ▸ anew⟩
      rw [parts, List.append_assoc, List.cons_append]
    | none =>
      have clear : (run operations start).Clear := ⟨known, current.sound⟩
      cases locates : operation.locates? with
      | some alternate =>
        rw [step_locates locates] at after
        rcases locate_of_clear alternate clear with cleared | ⟨located, ready, artifact, -, had,
          sound, anew⟩
        · exact Clear.current (after ▸ cleared)
        · exact Anew.current locates had sound (after ▸ anew)
      | none =>
        refine Clear.current ?_
        rw [after]
        rcases step_other runs locates (run operations start) with asked | still
        · rw [asked]
          exact compiled_clear clear
        · rw [still]
          exact clear

/-- A compilation that keeps only what is of its last output, and at first keeps nothing, does so
after it was asked for one thing after another. -/
theorem run_current {start : Compilation} (clear : start.Clear) (operations : List Operation) :
    Current operations start := by
  -- The statement looks back over all operations, so one more is added behind them.
  induction operations using List.reverseRecOn with
  | nil => exact Clear.current clear
  | append_singleton operations operation inductive_hypothesis =>
    exact inductive_hypothesis.step operation

/-- Places that are given are kept. -/
theorem locate_kept {alternate : Bool} {before after : Compilation} {located : LocatedAuxdatas}
    (ends : (locate alternate).Ends before located after) : after.located = some located := by
  cases known : before.located with
  | some kept =>
    rw [Ends, locate_of_located known, Prod.mk.injEq, Except.ok.injEq] at ends
    obtain ⟨rfl, rfl⟩ := ends
    exact known
  | none =>
    obtain ⟨_, _, _, -, rfl, -⟩ := locate_anew known ends
    rfl

/-- A compilation that was started keeps nothing. -/
theorem start_clear {compiler : Compiler} {version : String} {input : Json} {target : Target}
    {language : Language} {compilation : Compilation}
    (started : Compilation.start compiler version input target language = .ok compilation) :
    compilation.Clear := by
  obtain ⟨style, -, started⟩ := Result.bind_eq_ok.mp started
  obtain ⟨completed, -, started⟩ := Result.bind_eq_ok.mp started
  rw [← Result.pure_eq_ok.mp started]
  exact ⟨rfl, sound_of_none rfl⟩

/-- Whatever a compilation is asked for from its start on, and whatever its compiler answers, its
artifact is what is read in the compiler's last output, and the places that it keeps were located in
that output. The places that it gives when it is asked for them are those that it keeps, and until it
is asked to compile again it gives the same ones and changes nothing, so it does not ask its compiler.
-/
theorem kept_of_output {compiler : Compiler} {version : String} {input : Json} {target : Target}
    {language : Language} {compilation : Compilation}
    (started : Compilation.start compiler version input target language = .ok compilation)
    (operations : List Operation) :
    Current operations compilation ∧
      ∀ alternate located after, (locate alternate).Ends (run operations compilation) located after →
        after = run (operations ++ [.locate alternate]) compilation ∧
          Current (operations ++ [.locate alternate]) compilation ∧ after.located = some located ∧
          ∀ later : List Operation, (∀ operation ∈ later, operation.compiles = false) →
            run later after = after ∧
              ∀ again, (locate again).Ends (run later after) located after := by
  have clear := start_clear started
  refine ⟨run_current clear operations, fun alternate located after ends => ?_⟩
  have current := run_current clear (operations ++ [.locate alternate])
  have reached : after = run (operations ++ [.locate alternate]) compilation := by
    rw [run_append_singleton, step_locates rfl, ends]
  have known := locate_kept ends
  refine ⟨reached, current, known, fun later runs => ?_⟩
  obtain ⟨artifact, there⟩ := Option.isSome_iff_exists.mp
    (current.artifact located (reached ▸ known))
  have still := run_of_located (reached ▸ there) known runs
  refine ⟨still, fun again => ?_⟩
  rw [still]
  exact locate_of_located known

/-- A compiler whose second output for a contract has the auxdatas in other places than the first. -/
def sampleChanging : Compiler :=
  .known [.ok (listedOutput (nestedListing "aa11" "bb22") "60AA11" "60bb2200AA11"),
    .ok (listedOutput (nestedListing "aa12" "bb23") "60aa12" "60bb2300aa12"),
    .ok (listedOutput (nestedListing "aa11" "bb22") "6000AA11" "6000bb2200AA11"),
    .ok (listedOutput (nestedListing "aa12" "bb23") "6000aa12" "6000bb2300aa12")]

/-- A compilation by that compiler. -/
def sampleStarted : Except Failure Compilation :=
  start sampleChanging "0.8.20" (.record [("sources", .record [])]) ⟨"C.sol", "C"⟩ .solidity

/-- The places in the second output. -/
def sampleMoved : LocatedAuxdatas where
  runtime := some [("2", ⟨2, "0xbb22".toList⟩), ("1", ⟨5, "0xaa11".toList⟩)]
  creation := some [("1", ⟨2, "0xaa11".toList⟩)]

/-- The places in the first output are void when the second comes. -/
theorem kept_of_output_sample :
    ∃ compilation after, sampleStarted = .ok compilation ∧
      (run [.places .runtime] compilation).located = some sampleLocated ∧
      (locate true).Ends (run [.places .runtime, .compile false] compilation) sampleMoved after ∧
      after.calls.length = 4 ∧ run [.interface, .locate false, .settings] after = after := by
  have made : sampleStarted.toOption.isSome = true := by decide +kernel
  obtain ⟨compilation, started⟩ := Result.exists_of_isSome made
  let before := run [.places .runtime, .compile false] compilation
  have first : (sampleStarted.toOption.map fun compilation =>
      (run [.places .runtime] compilation).located) = some (some sampleLocated) := by decide +kernel
  have second : (sampleStarted.toOption.map fun compilation =>
      let ended := (locate true).ended (run [.places .runtime, .compile false] compilation)
      (ended.1.toOption, ended.2.calls.length)) = some (some sampleMoved, 4) := by decide +kernel
  rw [started] at first second
  obtain ⟨given, calls⟩ := Prod.mk.inj (Option.some.inj second)
  have ends : (locate true).Ends before sampleMoved ((locate true).ended before).2 :=
    Prod.ext (Result.eq_ok_of_toOption given) rfl
  obtain ⟨-, -, -, still⟩ := (kept_of_output started _).2 true sampleMoved _ ends
  exact ⟨compilation, _, started, Option.some.inj first, ends, calls,
    (still [.interface, .locate false, .settings] (by decide)).1⟩

end Attest.Compilation
