import Attest.Proofs.Compilation.Fresh
import Attest.Proofs.Compilation.Kept

/-!
# What a failed compilation leaves

Compiling gives up the artifact and the places of auxdatas before the compiler is asked, and the
output only when another one comes. So a compilation that failed has no artifact and no places, and
what needs them compiles again; but the bytecodes are read in the output, and where the compiler
itself failed that is the output of an earlier time (`failed_compile_leaves`).
-/
namespace Attest.Compilation

open Attempt

/-- The build with which a compilation is compiled when it is asked for one thing, if it is. -/
def Operation.compilesIn (compilation : Compilation) : Operation → Option Bool
  | compile alternate => some alternate
  | interface | immutables | links _ => if compilation.artifact.isNone then some false else none
  | locate _ | places _ =>
    if compilation.artifact.isNone && compilation.located.isNone then some false else none
  | _ => none

/-- Whether a compilation, asked for one thing after another, failed when it was compiled last: what
it was before, the build that was asked for, and the failure. -/
def FailedLast (operations : List Operation) (start before : Compilation) (alternate : Bool)
    (failure : Failure) : Prop :=
  ∃ earlier operation later, operations = earlier ++ operation :: later ∧
    before = run earlier start ∧ operation.compilesIn before = some alternate ∧
    (compile alternate).Fails before failure ∧
    ∀ between next rest, later = between ++ next :: rest →
      next.compilesIn (run (earlier ++ operation :: between) start) = none

/-- What the compiler of a compilation comes to when it is compiled. -/
def answer (compilation : Compilation) (alternate : Bool) : Except Failure Json :=
  ((Compiler.ask ⟨compilation.version, compilation.input, alternate⟩).ended
    compilation.compiler).1

/-- Where a compilation failed, and which bytecodes it gives afterwards. -/
inductive FailedAt (alternate : Bool) (before after : Compilation) (failure : Failure) : Prop
  /-- At the compiler: no output came, and the bytecodes are those that were given before. -/
  | compiler (cause : Failure) (refused : before.answer alternate = .error cause)
    (told : failure = compilerFailure cause) (codes : ∀ kind, after.code kind = before.code kind)
  /-- At an output that has nothing for the target: there are no bytecodes. -/
  | target (output : Json) (came : before.answer alternate = .ok output)
    (absent : Contract.ofOutput output before.target = .error failure)
    (codes : ∀ kind, after.code kind = .error failure)
  /-- At what the output has for the target: the bytecodes are those in it, where they can be read. -/
  | contract (output contract : Json) (came : before.answer alternate = .ok output)
    (found : Contract.ofOutput output before.target = .ok contract)
    (unread : after.read = .error failure)
    (codes : ∀ kind, after.code kind = liftM (Contract.code contract kind))

/-- A compilation that is compiled, once its compiler has been asked. -/
def asked (compilation : Compilation) (alternate : Bool) : Compilation :=
  let request : CompilerRequest := ⟨compilation.version, compilation.input, alternate⟩
  { compilation with
    compiler := ((Compiler.ask request).ended compilation.compiler).2
    calls := compilation.calls ++ [request]
    artifact := none
    located := none }

/-- A compilation that is compiled, once an output has come. -/
def taking (compilation : Compilation) (alternate : Bool) (output : Json) : Compilation :=
  { compilation.asked alternate with output := output }

/-- A compilation whose compiler fails fails with it, and has neither artifact nor places. -/
theorem compile_of_refused {alternate : Bool} {before : Compilation} {cause : Failure}
    (refused : before.answer alternate = .error cause) :
    (compile alternate).ended before = (.error (compilerFailure cause), before.asked alternate) := by
  have asks : (ask before.input alternate).ended { before with located := none, artifact := none } =
      (.error cause, before.asked alternate) := Prod.ext refused rfl
  rw [compile, ended_modify_bind, ended_get_bind, ended_outcome_bind, asks]
  rfl

/-- Nothing is read where there is nothing for the target. -/
theorem read_of_absent {compilation : Compilation} {failure : Failure}
    (absent : compilation.contract = .error failure) : compilation.read = .error failure := by
  rw [read, absent]
  rfl

/-- There is nothing for a target in an output that says nothing. -/
theorem ofOutput_of_empty {output : Json} (empty : output.holds = false) (target : Target) :
    Contract.ofOutput output target = .error (.compilation .noOutput) := by
  rw [Contract.ofOutput, empty]
  rfl

/-- A compilation whose compiler answers takes the output, and then what is read in it. -/
theorem compile_of_answer {alternate : Bool} {before : Compilation} {output : Json}
    (came : before.answer alternate = .ok output) :
    (compile alternate).ended before =
      match (before.taking alternate output).read with
      | .error failure => (.error failure, before.taking alternate output)
      | .ok artifact =>
        (.ok artifact, { before.taking alternate output with artifact := some artifact }) := by
  have asks : (ask before.input alternate).ended { before with located := none, artifact := none } =
      (.ok output, before.asked alternate) := Prod.ext came rfl
  rw [compile, ended_modify_bind, ended_get_bind, ended_outcome_bind, asks]
  dsimp only
  rw [ended_modify_bind]
  cases holds : output.holds with
  | false =>
    have absent : (before.taking alternate output).contract = .error (.compilation .noOutput) :=
      ofOutput_of_empty holds _
    rw [read_of_absent absent]
    rfl
  | true =>
    change (Attempt.ended (do
      let artifact ← (← get).read
      modify fun compilation => { compilation with artifact := some artifact }
      return artifact) (before.taking alternate output)) = _
    rw [ended_get_bind]
    cases (before.taking alternate output).read <;> rfl

/-- A compilation that fails has neither artifact nor places, and fails at one of three points. -/
theorem failedAt_of_fails {alternate : Bool} {before : Compilation} {failure : Failure}
    (fails : (compile alternate).Fails before failure) :
    let after := ((compile alternate).ended before).2
    after.artifact = none ∧ after.located = none ∧ FailedAt alternate before after failure := by
  cases came : before.answer alternate with
  | error cause =>
    rw [Fails, compile_of_refused came] at fails
    rw [compile_of_refused came]
    exact ⟨rfl, rfl, .compiler cause came (Except.error.inj fails).symm fun _ => rfl⟩
  | ok output =>
    rw [Fails, compile_of_answer came] at fails
    rw [compile_of_answer came]
    dsimp only at fails ⊢
    cases read : (before.taking alternate output).read with
    | ok artifact =>
      rw [read] at fails
      cases fails
    | error cause =>
      rw [read] at fails
      obtain rfl := Except.error.inj fails
      refine ⟨rfl, rfl, ?_⟩
      cases found : Contract.ofOutput output before.target with
      | error absence =>
        have absent : (before.taking alternate output).contract = .error absence := found
        have same : absence = cause :=
          Except.error.inj ((read_of_absent absent).symm.trans read)
        refine .target output came (same ▸ found) fun kind => ?_
        dsimp only
        rw [code, absent, same]
        rfl
      | ok contract =>
        have there : (before.taking alternate output).contract = .ok contract := found
        refine .contract output contract came found read fun kind => ?_
        dsimp only
        rw [code, there]
        rfl

/-- Where places are needed, and none are known, and there is no artifact, what is asked for ends as
the compilation if that fails. -/
theorem locate_of_fails {compilation : Compilation} {failure : Failure} (again : Bool)
    (absent : compilation.artifact = none) (unknown : compilation.located = none)
    (fails : (compile false).Fails compilation failure) :
    (locate again).ended compilation = (.error failure, ((compile false).ended compilation).2) := by
  have ended : (compile false).ended compilation =
      (.error failure, ((compile false).ended compilation).2) := Prod.ext fails rfl
  rw [locate_of_unknown again unknown, compiled_of_none absent, ended]

/-- Where there is no artifact, places that are given were located after a compilation that ended
well. -/
theorem locate_of_absent {compilation done : Compilation} {again : Bool} {located : LocatedAuxdatas}
    (absent : compilation.artifact = none) (unknown : compilation.located = none)
    (ends : (locate again).Ends compilation located done) :
    ∃ artifact ready, (compile false).Ends compilation artifact ready ∧
      Anew again ready located done := by
  rcases locate_of_clear again ⟨unknown, sound_of_none absent⟩ with
    cleared | ⟨given, ready, artifact, gave, had, -, anew⟩
  · rw [ends] at cleared
    have known := locate_kept ends
    rw [cleared.located] at known
    cases known
  · obtain ⟨rfl, same⟩ := Ends.unique ends gave
    rw [← same] at anew
    rw [Ends, compiled_of_none absent] at had
    exact ⟨artifact, ready, had, anew⟩

/-- What is asked for ends as the compilation that it needs, if that fails. -/
theorem step_of_fails {compilation : Compilation} {operation : Operation} {alternate : Bool}
    {failure : Failure} (compiles : operation.compilesIn compilation = some alternate)
    (fails : (compile alternate).Fails compilation failure) :
    compilation.step operation = ((compile alternate).ended compilation).2 := by
  cases operation with
  | compile other =>
    obtain rfl := Option.some.inj compiles
    exact step_compile other compilation
  | interface | immutables | links _ =>
    obtain ⟨absent, rfl⟩ : compilation.artifact = none ∧ false = alternate := by
      simpa [Operation.compilesIn] using compiles
    exact (ended_ignored compiled compilation).trans (congrArg Prod.snd (compiled_of_none absent))
  | locate _ | places _ =>
    obtain ⟨⟨absent, unknown⟩, rfl⟩ :
        (compilation.artifact = none ∧ compilation.located = none) ∧ false = alternate := by
      simpa [Operation.compilesIn] using compiles
    exact (step_locates rfl compilation).trans
      (congrArg Prod.snd (locate_of_fails _ absent unknown fails))
  | _ => cases compiles

/-- A compilation with neither artifact nor places stays as it is when it is asked for what does not
compile. -/
theorem step_of_still {compilation : Compilation} {operation : Operation}
    (absent : compilation.artifact = none) (unknown : compilation.located = none)
    (still : operation.compilesIn compilation = none) :
    compilation.step operation = compilation := by
  refine step_of_reads ?_ compilation
  cases operation with
  | compile _ => cases still
  | interface | immutables | links _ | locate _ | places _ =>
    simp [Operation.compilesIn, absent, unknown] at still
  | _ => rfl

/-- A failed compilation stays as it is until it is compiled again. -/
theorem run_of_failedLast {operations : List Operation} {start before : Compilation}
    {alternate : Bool} {failure : Failure}
    (failed : FailedLast operations start before alternate failure) :
    (compile alternate).Fails before failure ∧
      run operations start = ((compile alternate).ended before).2 := by
  obtain ⟨earlier, operation, later, rfl, rfl, compiles, fails, quiet⟩ := failed
  have failed_here : run (earlier ++ [operation]) start =
      ((compile alternate).ended (run earlier start)).2 := by
    rw [run_append_singleton, step_of_fails compiles fails]
  obtain ⟨absent, unknown, -⟩ := failedAt_of_fails fails
  refine ⟨fails, ?_⟩
  -- The statement looks back over all operations, so one more is added behind them.
  induction later using List.reverseRecOn with
  | nil => exact failed_here
  | append_singleton later next inductive_hypothesis =>
    have kept := inductive_hypothesis fun between other rest parts =>
      quiet between other (rest ++ [next]) (by rw [parts, List.append_assoc, List.cons_append])
    have still := quiet later next [] rfl
    rw [kept] at still
    rw [← List.cons_append, ← List.append_assoc, run_append_singleton, kept,
      step_of_still absent unknown still]

/-- After its last compilation failed, a compilation has no artifact and keeps no places: what needs
them compiles again, and is given only if that ends well, and there is no metadata. The bytecodes are
those in the output. So they are given as before if the compiler failed, as they stand in an output
that came and could not be read, and not at all if that output has nothing for the target. -/
theorem failed_compile_leaves {operations : List Operation} {start before : Compilation}
    {alternate : Bool} {failure : Failure}
    (failed : FailedLast operations start before alternate failure) :
    let after := run operations start
    after.artifact = none ∧ after.located = none ∧
      compiled.ended after = (compile false).ended after ∧
      (∀ again located done, (locate again).Ends after located done →
        ∃ artifact ready, (compile false).Ends after artifact ready ∧
          Anew again ready located done) ∧
      after.metadata = .error (.compilation .noMetadata) ∧
      FailedAt alternate before after failure := by
  obtain ⟨fails, same⟩ := run_of_failedLast failed
  obtain ⟨absent, unknown, point⟩ := failedAt_of_fails fails
  dsimp only
  rw [same]
  exact ⟨absent, unknown, compiled_of_none absent,
    fun again located done ends => locate_of_absent absent unknown ends,
    by rw [metadata, absent], point⟩

/-- Two compilations of which the second fails are the last that failed. -/
theorem failedLast_pair {start : Compilation} {first second : Bool}
    (failed : ((compile second).ended (run [.compile first] start)).1.toOption.isSome = false) :
    ∃ failure, FailedLast [.compile first, .compile second] start (run [.compile first] start) second
      failure := by
  obtain ⟨failure, fails⟩ := Result.exists_of_isSome_eq_false failed
  exact ⟨failure, [.compile first], .compile second, [], rfl, rfl, rfl, fails,
    fun between next rest parts => by simp at parts⟩

/-- A contract in an output. -/
def sampleContract : Json :=
  listedOutput (plainListing "a1646970667341010008") "60aa" "6001a1646970667341010008"

/-- A compiler that answers, and then answers without the target. -/
def sampleAbsent : Compilation :=
  answered [.ok sampleContract, .ok (.record [("contracts", .record [])])]

/-- The bytecodes of an earlier output are gone with an output that has nothing for the target. -/
theorem failed_compile_leaves_sample :
    ∃ before failure,
      FailedLast [.compile false, .compile true] sampleAbsent before true failure ∧
        (before.code .runtime).toOption.isSome = true ∧
        ∀ kind, (run [.compile false, .compile true] sampleAbsent).code kind = .error failure := by
  obtain ⟨failure, failed⟩ : ∃ failure, FailedLast [.compile false, .compile true] sampleAbsent
      (run [.compile false] sampleAbsent) true failure := failedLast_pair (by decide +kernel)
  have came : ((run [.compile false] sampleAbsent).answer true).toOption.isSome = true := by
    decide +kernel
  have nothing : (((run [.compile false] sampleAbsent).answer true).toOption.map fun output =>
      (Contract.ofOutput output (run [.compile false] sampleAbsent).target).toOption.isSome) =
        some false := by
    decide +kernel
  refine ⟨_, failure, failed, by decide +kernel, ?_⟩
  obtain ⟨-, -, -, -, -, point⟩ := failed_compile_leaves failed
  cases point with
  | compiler cause refused => rw [refused] at came; cases came
  | target output answered absent codes => exact codes
  | contract output contract answered found =>
    rw [answered] at nothing
    dsimp only [Except.toOption, Option.map] at nothing
    rw [found] at nothing
    cases nothing

/-- A compiler that answers once, and fails when its second build is asked. -/
def sampleRefusing : Compilation :=
  answered [.ok sampleContract, .error (.tool "OSError" "no second build")]

/-- The bytecodes of an earlier output are still given after a compiler failed. -/
theorem code_of_failed_compile :
    (∃ before failure,
      FailedLast [.compile false, .compile true] sampleRefusing before true failure) ∧
      ((run [.compile false, .compile true] sampleRefusing).code .creation).toOption =
        some "0x60aa".toList ∧
      ((run [.compile false, .compile true] sampleRefusing).code .runtime).toOption =
        some "0x6001a1646970667341010008".toList := by
  have failed : ((compile true).ended (run [.compile false] sampleRefusing)).1.toOption.isSome =
      false := by
    decide +kernel
  exact ⟨⟨_, failedLast_pair failed⟩, by decide +kernel, by decide +kernel⟩

end Attest.Compilation
