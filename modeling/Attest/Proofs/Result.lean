/-!
# Results of steps in order

A chain of steps that may fail ends well if and only if each step does (`bind_eq_ok`). A run of one
step over a list keeps what every step keeps: the induction `foldlM_induction` speaks of the items
behind, so a step may use that its item comes after them.
-/
namespace Attest.Result

variable {ε α β : Type}

/-- Two steps end well if the first does and the second does with its result. -/
theorem bind_eq_ok {first : Except ε α} {next : α → Except ε β} {result : β} :
    (first >>= next) = .ok result ↔ ∃ value, first = .ok value ∧ next value = .ok result := by
  cases first with
  | error failure => simp [bind, Except.bind]
  | ok value => simp [bind, Except.bind]

/-- Two steps fail as the first does, or as the second does with its result. -/
theorem bind_eq_error {first : Except ε α} {next : α → Except ε β} {failure : ε} :
    (first >>= next) = .error failure ↔
      first = .error failure ∨ ∃ value, first = .ok value ∧ next value = .error failure := by
  cases first with
  | error other => simp [bind, Except.bind]
  | ok value => simp [bind, Except.bind]

/-- A changed result is the change of a result. -/
theorem map_eq_ok {first : Except ε α} {change : α → β} {result : β} :
    first.map change = .ok result ↔ ∃ value, first = .ok value ∧ change value = result := by
  cases first with
  | error failure => simp [Except.map]
  | ok value => simp [Except.map]

/-- A failure is the same whatever results are changed into. -/
theorem map_eq_error {first : Except ε α} {change : α → β} {failure : ε} :
    first.map change = .error failure ↔ first = .error failure := by
  cases first with
  | error other => simp [Except.map]
  | ok value => simp [Except.map]

/-- A result is the same whatever its failures are made into. -/
theorem mapError_eq_ok {γ : Type} {first : Except ε α} {change : ε → γ} {result : α} :
    first.mapError change = .ok result ↔ first = .ok result := by
  cases first with
  | error failure => exact ⟨nofun, nofun⟩
  | ok value =>
    change Except.ok value = .ok result ↔ _
    simp

/-- A failure that was changed is the change of a failure. -/
theorem mapError_eq_error {γ : Type} {first : Except ε α} {change : ε → γ} {failure : γ} :
    first.mapError change = .error failure ↔
      ∃ cause, first = .error cause ∧ change cause = failure := by
  cases first with
  | error cause =>
    change Except.error (change cause) = .error failure ↔ _
    simp
  | ok value => exact ⟨nofun, nofun⟩

/-- A result that is there is a result. -/
theorem exists_of_isSome {result : Except ε α} (there : result.toOption.isSome = true) :
    ∃ value, result = .ok value := by
  cases result with
  | error failure => simp [Except.toOption] at there
  | ok value => exact ⟨value, rfl⟩

/-- A result that is there is the result. -/
theorem eq_ok_of_toOption {result : Except ε α} {value : α}
    (there : result.toOption = some value) : result = .ok value := by
  cases result with
  | error failure => simp [Except.toOption] at there
  | ok found => exact congrArg Except.ok (Option.some.inj there)

/-- A result that is not there is a failure. -/
theorem exists_of_isSome_eq_false {result : Except ε α} (absent : result.toOption.isSome = false) :
    ∃ failure, result = .error failure := by
  cases result with
  | error failure => exact ⟨failure, rfl⟩
  | ok value => simp [Except.toOption] at absent

/-- A result given is the result. -/
theorem pure_eq_ok {value result : α} :
    (pure value : Except ε α) = .ok result ↔ value = result := by
  simp [pure, Except.pure]

/-- A step that is refused but on a condition ends well exactly if the condition holds and the step
ends well. -/
theorem ite_error_eq_ok {condition : Prop} [Decidable condition] {step : Except ε α} {failure : ε}
    {result : α} :
    (if condition then step else .error failure) = .ok result ↔ condition ∧ step = .ok result := by
  by_cases held : condition
  · simp [held]
  · simp [held]

/-- A failure raised is no result. -/
theorem throw_ne_ok {failure : ε} {result : α} :
    (throw failure : Except ε α) ≠ .ok result := by
  simp [throw, throwThe, MonadExceptOf.throw]

/-- A step done for each item in order gives each item's result in its place. -/
theorem mapM_eq_ok {step : α → Except ε β} {items : List α} {results : List β}
    (run : items.mapM step = .ok results) :
    results.length = items.length ∧ ∀ (index : Nat) (result : β), results[index]? = some result →
      ∃ item, items[index]? = some item ∧ step item = .ok result := by
  induction items generalizing results with
  | nil =>
    rw [List.mapM_nil, pure_eq_ok] at run
    rw [← run]
    exact ⟨rfl, by simp⟩
  | cons item rest inductive_hypothesis =>
    rw [List.mapM_cons, bind_eq_ok] at run
    obtain ⟨first, stepped, run⟩ := run
    obtain ⟨later, ran, run⟩ := bind_eq_ok.mp run
    rw [pure_eq_ok] at run
    obtain ⟨length, places⟩ := inductive_hypothesis ran
    rw [← run]
    refine ⟨congrArg (· + 1) length, fun index result found => ?_⟩
    cases index with
    | zero =>
      rw [List.getElem?_cons_zero, Option.some.injEq] at found
      exact ⟨item, rfl, found ▸ stepped⟩
    | succ index => exact places index result found

/-- A step that ends well for each item gives its results in order. -/
theorem mapM_map_eq_ok {γ : Type} {step : β → Except ε γ} {first : α → β} {second : α → γ}
    (each : ∀ item, step (first item) = .ok (second item)) (items : List α) :
    (items.map first).mapM step = .ok (items.map second) := by
  induction items with
  | nil => rfl
  | cons item rest inductive_hypothesis =>
    rw [List.map_cons, List.mapM_cons, each item, inductive_hypothesis]
    rfl

/-- Whether a result is right or one of the failures that are allowed. -/
def FailsOnly (allowed : ε → Prop) (result : Except ε α) : Prop :=
  ∀ failure, result = .error failure → allowed failure

/-- A right result is no failure. -/
theorem failsOnly_ok {allowed : ε → Prop} (value : α) : FailsOnly allowed (.ok value) := nofun

/-- A failure that is allowed. -/
theorem failsOnly_error {allowed : ε → Prop} {failure : ε} (held : allowed failure) :
    FailsOnly (α := α) allowed (.error failure) := by
  rintro _ ⟨⟩
  exact held

/-- Two steps fail as is allowed if each does. -/
theorem FailsOnly.bind {allowed : ε → Prop} {first : Except ε α} {next : α → Except ε β}
    (begun : FailsOnly allowed first) (ended : ∀ value, FailsOnly allowed (next value)) :
    FailsOnly allowed (first >>= next) := by
  intro failure failed
  rcases bind_eq_error.mp failed with early | ⟨value, -, late⟩
  · exact begun failure early
  · exact ended value failure late

/-- A result fails as is allowed if all that its failures are made into is. -/
theorem FailsOnly.of_mapError {γ : Type} {allowed : γ → Prop} {change : ε → γ}
    (held : ∀ failure, allowed (change failure)) (first : Except ε α) :
    FailsOnly allowed (first.mapError change) := by
  intro failure failed
  obtain ⟨cause, -, rfl⟩ := mapError_eq_error.mp failed
  exact held cause

/-- A result that fails as is allowed fails as is allowed more generally. -/
theorem FailsOnly.mono {allowed wider : ε → Prop} {result : Except ε α}
    (fails : FailsOnly allowed result) (wide : ∀ failure, allowed failure → wider failure) :
    FailsOnly wider result :=
  fun failure failed => wide failure (fails failure failed)

/-- A run fails as is allowed if each step does. -/
theorem FailsOnly.foldlM {allowed : ε → Prop} {step : β → α → Except ε β}
    (fails : ∀ state item, FailsOnly allowed (step state item)) (items : List α) (start : β) :
    FailsOnly allowed (items.foldlM step start) := by
  induction items generalizing start with
  | nil => exact failsOnly_ok start
  | cons item rest inductive_hypothesis =>
    rw [List.foldlM_cons]
    exact (fails start item).bind inductive_hypothesis

/-- A step done for each item fails as is allowed if it does for each. -/
theorem FailsOnly.mapM {allowed : ε → Prop} {step : α → Except ε β} {items : List α}
    (fails : ∀ item ∈ items, FailsOnly allowed (step item)) :
    FailsOnly allowed (items.mapM step) := by
  induction items with
  | nil => exact failsOnly_ok _
  | cons item rest inductive_hypothesis =>
    rw [List.mapM_cons]
    exact (fails item List.mem_cons_self).bind fun _ =>
      (inductive_hypothesis fun item member => fails item (.tail _ member)).bind fun _ =>
        failsOnly_ok _

/-- What holds of no item and the start, and is kept by each step that ends well for the items up to
it, holds of all items and the end. -/
theorem foldlM_induction {step : β → α → Except ε β} {motive : List α → β → Prop}
    {items : List α} {start final : β} (run : items.foldlM step start = .ok final)
    (initial : motive [] start)
    (kept : ∀ before item after state next, items = before ++ item :: after →
      motive before state → step state item = .ok next → motive (before ++ [item]) next) :
    motive items final := by
  suffices general : ∀ (after before : List α) (state : β), items = before ++ after →
      motive before state → after.foldlM step state = .ok final → motive items final from
    general items [] start rfl initial run
  intro after
  induction after with
  | nil =>
    intro before state parts holds ran
    rw [List.foldlM_nil, pure_eq_ok] at ran
    rw [parts, List.append_nil, ← ran]
    exact holds
  | cons item rest inductive_hypothesis =>
    intro before state parts holds ran
    rw [List.foldlM_cons, bind_eq_ok] at ran
    obtain ⟨next, stepped, ran⟩ := ran
    refine inductive_hypothesis (before ++ [item]) next ?_ ?_ ran
    · rw [parts, List.append_assoc, List.singleton_append]
    · exact kept before item rest state next parts holds stepped

/-- A run ends well with what its steps establish, or fails as one of its steps does: at each item a
step ends well and establishes it for the items up to it, or fails for a reason that concerns the
run as a whole. -/
theorem foldlM_decides (step : β → α → Except ε β) (items : List α) (start : β)
    (motive : List α → β → Prop) (refused : ε → Prop) (initial : motive [] start)
    (decided : ∀ before item after state, items = before ++ item :: after → motive before state →
      (∃ next, step state item = .ok next ∧ motive (before ++ [item]) next) ∨
      (∃ failure, step state item = .error failure ∧ refused failure)) :
    (∃ final, items.foldlM step start = .ok final ∧ motive items final) ∨
      (∃ failure, items.foldlM step start = .error failure ∧ refused failure) := by
  suffices general : ∀ (after before : List α) (state : β), items = before ++ after →
      motive before state → (∃ final, after.foldlM step state = .ok final ∧ motive items final) ∨
        (∃ failure, after.foldlM step state = .error failure ∧ refused failure) from
    general items [] start rfl initial
  intro after
  induction after with
  | nil =>
    intro before state parts holds
    rw [List.append_nil] at parts
    exact .inl ⟨state, rfl, parts ▸ holds⟩
  | cons item rest inductive_hypothesis =>
    intro before state parts holds
    rw [List.foldlM_cons]
    rcases decided before item rest state parts holds with
      ⟨next, stepped, established⟩ | ⟨failure, failed, reason⟩
    · rw [stepped]
      refine inductive_hypothesis (before ++ [item]) next ?_ established
      rw [parts, List.append_assoc, List.singleton_append]
    · rw [failed]
      exact .inr ⟨failure, rfl, reason⟩

end Attest.Result
