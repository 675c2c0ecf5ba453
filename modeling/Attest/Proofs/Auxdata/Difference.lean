import Attest.Auxdata.Difference
import Mathlib.Data.List.Pairwise

/-!
# Where two texts differ, run by run

The indexes at which two texts differ ascend, and the runs into which they fall are the longest
stretches of such indexes: ascending numbers fall into runs that give them back
(`flatMap_span_runs`), and between two runs at least one number is missing (`runs_apart`). So a pair
is a run of two texts exactly if they differ from its first to its last index and neither right
before nor right behind (`mem_textRuns_iff`), and the runs share out the indexes at which the texts
differ (`textRuns_partition`).
-/
namespace Attest.Difference

/-- Two texts differ at an index that both have. -/
def DiffersAt (unedited edited : Code) (index : Nat) : Prop :=
  index < unedited.length ∧ index < edited.length ∧ unedited[index]? ≠ edited[index]?

instance (unedited edited : Code) (index : Nat) : Decidable (DiffersAt unedited edited index) :=
  inferInstanceAs (Decidable (_ ∧ _ ∧ _))

/-- The first index at which two texts differ. -/
structure FirstAt (unedited edited : Code) (index : Nat) : Prop where
  /-- The texts differ there. -/
  differs : DiffersAt unedited edited index
  /-- They do not differ before. -/
  least : ∀ earlier < index, ¬ DiffersAt unedited edited earlier

/-- A longest stretch of indexes at which two texts differ throughout. -/
structure MaximalRun (unedited edited : Code) (first last : Nat) : Prop where
  /-- The stretch has an index. -/
  order : first ≤ last
  /-- The texts differ at all its indexes. -/
  differs : ∀ index, first ≤ index → index ≤ last → DiffersAt unedited edited index
  /-- They do not differ right before it. -/
  before : ∀ index, index + 1 = first → ¬ DiffersAt unedited edited index
  /-- They do not differ right behind it. -/
  behind : ¬ DiffersAt unedited edited (last + 1)

variable {unedited edited : Code}

/-- Behind their first characters two texts differ as their rests do. -/
theorem differsAt_cons_succ (a b : Char) (index : Nat) :
    DiffersAt (a :: unedited) (b :: edited) (index + 1) ↔ DiffersAt unedited edited index := by
  simp [DiffersAt]

/-- At their first characters two texts differ if these do. -/
theorem differsAt_cons_zero (a b : Char) :
    DiffersAt (a :: unedited) (b :: edited) 0 ↔ a ≠ b := by
  simp [DiffersAt]

/-- Two texts of one length that are not the same differ somewhere. -/
theorem exists_differsAt (length : edited.length = unedited.length) (differs : edited ≠ unedited) :
    ∃ index, DiffersAt unedited edited index := by
  have apart : ¬ ∀ index : Nat, edited[index]? = unedited[index]? :=
    fun same => differs (List.ext_getElem? same)
  obtain ⟨index, other⟩ := Classical.not_forall.mp apart
  by_cases inside : index < unedited.length
  · exact ⟨index, inside, by omega, Ne.symm other⟩
  · rw [List.getElem?_eq_none (by omega), List.getElem?_eq_none (by omega)] at other
    contradiction

/-- No index that is found lies before the number from which they are counted. -/
theorem le_of_mem_indexesFrom {start index : Nat}
    (found : index ∈ indexesFrom start unedited edited) : start ≤ index := by
  induction unedited generalizing edited start with
  | nil => simp [indexesFrom] at found
  | cons a as inductive_hypothesis =>
    cases edited with
    | nil => simp [indexesFrom] at found
    | cons b bs =>
      rw [indexesFrom] at found
      by_cases same : a = b
      · rw [if_pos same] at found
        have later := inductive_hypothesis found
        omega
      · rw [if_neg same] at found
        rcases List.mem_cons.mp found with here | behind
        · omega
        · have later := inductive_hypothesis behind
          omega

/-- The indexes that are found are those at which the texts differ, counted from a number on. -/
theorem add_mem_indexesFrom_iff (unedited edited : Code) (start index : Nat) :
    start + index ∈ indexesFrom start unedited edited ↔ DiffersAt unedited edited index := by
  induction unedited generalizing edited start index with
  | nil => simp [indexesFrom, DiffersAt]
  | cons a as inductive_hypothesis =>
    cases edited with
    | nil => simp [indexesFrom, DiffersAt]
    | cons b bs =>
      rw [indexesFrom]
      cases index with
      | zero =>
        have later : start ∉ indexesFrom (start + 1) as bs := by
          intro found
          have behind := le_of_mem_indexesFrom found
          omega
        rw [differsAt_cons_zero]
        by_cases same : a = b
        · simp [same, later]
        · simp [same]
      | succ index =>
        rw [differsAt_cons_succ, ← inductive_hypothesis bs (start + 1) index,
          show start + (index + 1) = start + 1 + index by omega]
        by_cases same : a = b
        · simp [same]
        · have other : start + 1 + index ≠ start := by omega
          simp [same, other]

/-- The indexes at which two texts differ are found. -/
theorem mem_indexes_iff (unedited edited : Code) (index : Nat) :
    index ∈ indexes unedited edited ↔ DiffersAt unedited edited index := by
  have counted := add_mem_indexesFrom_iff unedited edited 0 index
  rwa [Nat.zero_add] at counted

/-- The indexes that are found ascend. -/
theorem indexesFrom_ascend (unedited edited : Code) (start : Nat) :
    (indexesFrom start unedited edited).Pairwise (· < ·) := by
  induction unedited generalizing edited start with
  | nil => simp [indexesFrom]
  | cons a as inductive_hypothesis =>
    cases edited with
    | nil => simp [indexesFrom]
    | cons b bs =>
      have later := inductive_hypothesis bs (start + 1)
      rw [indexesFrom]
      by_cases same : a = b
      · rwa [if_pos same]
      · rw [if_neg same]
        exact List.pairwise_cons.mpr ⟨fun index found => le_of_mem_indexesFrom found, later⟩

/-- The indexes of a run, in order. -/
def span (run : Int × Int) : List Int :=
  (List.range (run.2 + 1 - run.1).toNat).map fun (step : Nat) => run.1 + (step : Int)

/-- A run spans the indexes from its first to its last. -/
theorem mem_span_iff (run : Int × Int) (index : Int) :
    index ∈ span run ↔ run.1 ≤ index ∧ index ≤ run.2 := by
  simp only [span, List.mem_map, List.mem_range]
  constructor
  · rintro ⟨step, below, rfl⟩
    omega
  · rintro ⟨after, before⟩
    exact ⟨(index - run.1).toNat, by omega, by omega⟩

/-- A run of one index. -/
theorem span_self (index : Int) : span (index, index) = [index] := by
  have one : (index + 1 - index).toNat = 1 := by omega
  rw [span, one, List.range_one, List.map_singleton, Int.natCast_zero, Int.add_zero]

/-- A run that is longer by one index. -/
theorem span_succ {first last : Int} (order : first ≤ last) :
    span (first, last + 1) = span (first, last) ++ [last + 1] := by
  have longer : (last + 1 + 1 - first).toNat = (last + 1 - first).toNat + 1 := by omega
  have ends : first + ((last + 1 - first).toNat : Int) = last + 1 := by omega
  simp only [span, longer, List.range_succ, List.map_append, List.map_singleton, ends]

/-- Numbers that fall into runs after a run are given back behind it. -/
theorem flatMap_span_runsFrom {first last : Int} (order : first ≤ last) (rest : List Int) :
    (runsFrom first last rest).flatMap span = span (first, last) ++ rest := by
  fun_induction runsFrom first last rest with
  | case1 first last => simp
  | case2 first last rest inductive_hypothesis =>
    rw [inductive_hypothesis (by omega), span_succ order, List.append_assoc, List.singleton_append]
  | case3 first last next rest gap inductive_hypothesis =>
    rw [List.flatMap_cons, inductive_hypothesis (Int.le_refl next), span_self,
      List.singleton_append]

/-- The runs into which numbers fall give the numbers back. -/
theorem flatMap_span_runs (numbers : List Int) : (runs numbers).flatMap span = numbers := by
  cases numbers with
  | nil => rfl
  | cons first rest =>
    rw [runs, flatMap_span_runsFrom (Int.le_refl first), span_self, List.singleton_append]

/-- Runs after a run begin with it or behind it, and none ends before it begins. -/
theorem order_of_mem_runsFrom {first last : Int} {rest : List Int} (order : first ≤ last)
    (ascend : (last :: rest).Pairwise (· < ·)) {run : Int × Int}
    (member : run ∈ runsFrom first last rest) : first ≤ run.1 ∧ run.1 ≤ run.2 := by
  fun_induction runsFrom first last rest with
  | case1 first last =>
    rw [List.mem_singleton] at member
    rw [member]
    exact ⟨Int.le_refl first, order⟩
  | case2 first last rest inductive_hypothesis =>
    exact inductive_hypothesis (by omega) (List.pairwise_cons.mp ascend).2 member
  | case3 first last next rest gap inductive_hypothesis =>
    obtain ⟨least, later⟩ := List.pairwise_cons.mp ascend
    rcases List.mem_cons.mp member with rfl | behind
    · exact ⟨Int.le_refl first, order⟩
    · have after := least next List.mem_cons_self
      have held := inductive_hypothesis (Int.le_refl next) later behind
      omega

/-- Between two runs after a run at least one number is missing. -/
theorem runsFrom_apart {first last : Int} {rest : List Int} (order : first ≤ last)
    (ascend : (last :: rest).Pairwise (· < ·)) :
    (runsFrom first last rest).Pairwise fun run later => run.2 + 1 < later.1 := by
  fun_induction runsFrom first last rest with
  | case1 first last => exact List.pairwise_singleton _ _
  | case2 first last rest inductive_hypothesis =>
    exact inductive_hypothesis (by omega) (List.pairwise_cons.mp ascend).2
  | case3 first last next rest gap inductive_hypothesis =>
    obtain ⟨least, later⟩ := List.pairwise_cons.mp ascend
    refine List.pairwise_cons.mpr ⟨fun run behind => ?_, inductive_hypothesis (Int.le_refl _) later⟩
    have after := least next List.mem_cons_self
    have begins := (order_of_mem_runsFrom (Int.le_refl next) later behind).1
    change last + 1 < run.1
    omega

section Runs

variable {numbers : List Int}

/-- No run of ascending numbers ends before it begins. -/
theorem order_of_mem_runs (ascend : numbers.Pairwise (· < ·)) {run : Int × Int}
    (member : run ∈ runs numbers) : run.1 ≤ run.2 := by
  cases numbers with
  | nil => contradiction
  | cons first rest => exact (order_of_mem_runsFrom (Int.le_refl first) ascend member).2

/-- Between two runs of ascending numbers at least one number is missing. -/
theorem runs_apart (ascend : numbers.Pairwise (· < ·)) :
    (runs numbers).Pairwise fun run later => run.2 + 1 < later.1 := by
  cases numbers with
  | nil => exact List.Pairwise.nil
  | cons first rest => exact runsFrom_apart (Int.le_refl first) ascend

/-- A number is one of the numbers exactly if a run spans it. -/
theorem mem_iff_exists_run (numbers : List Int) (number : Int) :
    number ∈ numbers ↔ ∃ run ∈ runs numbers, run.1 ≤ number ∧ number ≤ run.2 := by
  have spanned : number ∈ numbers ↔ number ∈ (runs numbers).flatMap span := by
    rw [flatMap_span_runs]
  rw [spanned, List.mem_flatMap]
  simp only [mem_span_iff]

/-- Different runs of ascending numbers lie apart, one behind the other. -/
theorem apart_of_ne (ascend : numbers.Pairwise (· < ·)) {run other : Int × Int}
    (member : run ∈ runs numbers) (listed : other ∈ runs numbers) (different : run ≠ other) :
    run.2 + 1 < other.1 ∨ other.2 + 1 < run.1 := by
  have symmetric : (runs numbers).Pairwise fun run other =>
      run.2 + 1 < other.1 ∨ other.2 + 1 < run.1 := (runs_apart ascend).imp Or.inl
  have : Std.Symm fun run other : Int × Int =>
      run.2 + 1 < other.1 ∨ other.2 + 1 < run.1 := ⟨fun _ _ => Or.symm⟩
  exact symmetric.forall member listed different

/-- A number next to a run is none of the numbers. -/
theorem not_mem_beside_run (ascend : numbers.Pairwise (· < ·)) {run : Int × Int}
    (member : run ∈ runs numbers) {number : Int}
    (beside : number + 1 = run.1 ∨ number = run.2 + 1) : number ∉ numbers := by
  intro found
  obtain ⟨other, listed, after, before⟩ := (mem_iff_exists_run numbers number).mp found
  have order := order_of_mem_runs ascend member
  have order_other := order_of_mem_runs ascend listed
  have different : run ≠ other := by
    rintro rfl
    omega
  have apart := apart_of_ne ascend member listed different
  omega

/-- Each of ascending numbers is spanned by one run alone. -/
theorem existsUnique_run (ascend : numbers.Pairwise (· < ·)) {number : Int}
    (found : number ∈ numbers) : ∃! run, run ∈ runs numbers ∧ run.1 ≤ number ∧ number ≤ run.2 := by
  obtain ⟨run, member, after, before⟩ := (mem_iff_exists_run numbers number).mp found
  refine ⟨run, ⟨member, after, before⟩, ?_⟩
  rintro other ⟨listed, after_other, before_other⟩
  by_contra different
  have apart := apart_of_ne ascend listed member different
  omega

/-- The runs of ascending numbers are the longest stretches of numbers. -/
theorem mem_runs_iff (ascend : numbers.Pairwise (· < ·)) (run : Int × Int) :
    run ∈ runs numbers ↔ run.1 ≤ run.2 ∧
      (∀ number, run.1 ≤ number → number ≤ run.2 → number ∈ numbers) ∧
      run.1 - 1 ∉ numbers ∧ run.2 + 1 ∉ numbers := by
  constructor
  · intro member
    refine ⟨order_of_mem_runs ascend member, fun number after before => ?_, ?_, ?_⟩
    · exact (mem_iff_exists_run numbers number).mpr ⟨run, member, after, before⟩
    · exact not_mem_beside_run ascend member (.inl (by omega))
    · exact not_mem_beside_run ascend member (.inr rfl)
  · rintro ⟨order, stretch, before, behind⟩
    have begins := stretch run.1 (Int.le_refl _) order
    obtain ⟨found, member, low, high⟩ := (mem_iff_exists_run numbers run.1).mp begins
    have spanned : ∀ number, found.1 ≤ number → number ≤ found.2 → number ∈ numbers :=
      fun number after before => (mem_iff_exists_run numbers number).mpr
        ⟨found, member, after, before⟩
    -- A longer run on either side would span a number that is missing.
    have first : found.1 = run.1 := by
      rcases Int.lt_or_eq_of_le low with longer | same
      · exact absurd (spanned _ (by omega) (by omega)) before
      · exact same
    have last : found.2 = run.2 := by
      rcases Int.lt_trichotomy found.2 run.2 with shorter | same | longer
      · exact absurd (stretch _ (by omega) (by omega)) (not_mem_beside_run ascend member (.inr rfl))
      · exact same
      · exact absurd (spanned _ (by omega) (by omega)) behind
    rwa [show run = found from Prod.ext first.symm last.symm]

end Runs

/-- The indexes at which two texts differ ascend. -/
theorem indexes_ascend (unedited edited : Code) :
    ((indexes unedited edited).map Int.ofNat).Pairwise (· < ·) :=
  List.pairwise_map.mpr ((indexesFrom_ascend unedited edited 0).imp Int.ofNat_lt.mpr)

/-- An index is listed exactly if the texts differ there. -/
theorem mem_map_indexes_iff (unedited edited : Code) (index : Nat) :
    (index : Int) ∈ (indexes unedited edited).map Int.ofNat ↔ DiffersAt unedited edited index := by
  rw [← mem_indexes_iff, List.mem_map]
  constructor
  · rintro ⟨other, listed, same⟩
    rwa [← Int.ofNat.inj same]
  · exact fun listed => ⟨index, listed, rfl⟩

/-- What is listed is an index. -/
theorem nonneg_of_mem_indexes {number : Int}
    (listed : number ∈ (indexes unedited edited).map Int.ofNat) : 0 ≤ number := by
  obtain ⟨index, -, rfl⟩ := List.mem_map.mp listed
  exact Int.natCast_nonneg index

/-- The runs of two texts are the longest stretches of indexes at which they differ. -/
theorem mem_textRuns_iff (unedited edited : Code) (first last : Nat) :
    ((first : Int), (last : Int)) ∈ textRuns unedited edited ↔
      MaximalRun unedited edited first last := by
  rw [textRuns, mem_runs_iff (indexes_ascend unedited edited)]
  dsimp only
  constructor
  · rintro ⟨order, stretch, before, behind⟩
    refine ⟨by omega, fun index after until_last => ?_, fun index next => ?_, ?_⟩
    · exact (mem_map_indexes_iff unedited edited index).mp (stretch index (by omega) (by omega))
    · rw [← mem_map_indexes_iff, show (index : Int) = first - 1 by omega]
      exact before
    · rw [← mem_map_indexes_iff]
      exact behind
  · rintro ⟨order, differs, before, behind⟩
    refine ⟨by omega, fun number after until_last => ?_, fun listed => ?_, ?_⟩
    · obtain ⟨index, rfl⟩ := Int.eq_ofNat_of_zero_le (show 0 ≤ number by omega)
      exact (mem_map_indexes_iff unedited edited index).mpr
        (differs index (by omega) (by omega))
    · obtain ⟨index, same⟩ := Int.eq_ofNat_of_zero_le (nonneg_of_mem_indexes listed)
      rw [same] at listed
      exact before index (by omega) ((mem_map_indexes_iff unedited edited index).mp listed)
    · exact fun listed => behind ((mem_map_indexes_iff unedited edited (last + 1)).mp listed)

/-- A run of two texts is a longest stretch of indexes at which they differ. -/
theorem exists_of_mem_textRuns {run : Int × Int} (member : run ∈ textRuns unedited edited) :
    ∃ first last : Nat, run = ((first : Int), (last : Int)) ∧
      MaximalRun unedited edited first last := by
  have ascend := indexes_ascend unedited edited
  obtain ⟨order, stretch, -, -⟩ := (mem_runs_iff ascend run).mp member
  have begins := nonneg_of_mem_indexes (stretch run.1 (Int.le_refl _) order)
  obtain ⟨first, begin_eq⟩ := Int.eq_ofNat_of_zero_le begins
  obtain ⟨last, last_eq⟩ := Int.eq_ofNat_of_zero_le (Int.le_trans begins order)
  have parts : run = ((first : Int), (last : Int)) := Prod.ext begin_eq last_eq
  exact ⟨first, last, parts, (mem_textRuns_iff unedited edited first last).mp (parts ▸ member)⟩

/-- A run begins at an index at which two texts differ and before which they do not. -/
theorem exists_maximalRun {first : Nat} (differs : DiffersAt unedited edited first)
    (before : ∀ index, index + 1 = first → ¬ DiffersAt unedited edited index) :
    ∃ last, MaximalRun unedited edited first last := by
  have listed := (mem_map_indexes_iff unedited edited first).mpr differs
  obtain ⟨run, member, low, high⟩ := (mem_iff_exists_run _ _).mp listed
  obtain ⟨begins, last, rfl, maximal⟩ := exists_of_mem_textRuns member
  dsimp only at low high
  by_cases same : begins = first
  · exact ⟨last, same ▸ maximal⟩
  · have inside := maximal.differs (first - 1) (by omega) (by omega)
    exact absurd inside (before (first - 1) (by omega))

/-- The runs of two texts ascend. -/
theorem textRuns_ascend (unedited edited : Code) :
    (textRuns unedited edited).Pairwise fun run later => run.1 < later.1 := by
  have ascend := indexes_ascend unedited edited
  refine (runs_apart ascend).imp_of_mem fun member _ apart => ?_
  have order := order_of_mem_runs ascend member
  omega

/-- Between two runs of two texts stands a character that both have in common. -/
theorem textRuns_separated (unedited edited : Code) :
    (textRuns unedited edited).Pairwise fun run later => ∃ (index : Nat) (c : Char),
      run.2 < (index : Int) ∧ (index : Int) < later.1 ∧ unedited[index]? = some c ∧
        edited[index]? = some c := by
  have ascend := indexes_ascend unedited edited
  refine (runs_apart ascend).imp_of_mem fun member listed apart => ?_
  obtain ⟨first, last, rfl, run⟩ := exists_of_mem_textRuns member
  obtain ⟨begins, ends, rfl, later⟩ := exists_of_mem_textRuns listed
  dsimp only at apart ⊢
  obtain ⟨inside, inside_edited, -⟩ := later.differs begins (Nat.le_refl begins) later.order
  -- The index right behind the first run lies before the second, so both texts have it.
  have here : last + 1 < unedited.length := by omega
  have here_edited : last + 1 < edited.length := by omega
  have same : unedited[last + 1]? = edited[last + 1]? := by
    by_contra other
    exact run.behind ⟨here, here_edited, other⟩
  have held : unedited[last + 1]? = some unedited[last + 1] := List.getElem?_eq_getElem here
  exact ⟨last + 1, unedited[last + 1], by omega, by omega, held, same.symm.trans held⟩

/-- **The runs of two texts.** They are the longest stretches of indexes at which the texts differ,
in ascending order; between two of them stands a character in common; every index at which the texts
differ lies in one run alone; and the runs written out are the indexes at which the texts differ. -/
theorem textRuns_partition (unedited edited : Code) :
    (∀ run, run ∈ textRuns unedited edited ↔ ∃ first last : Nat,
      run = ((first : Int), (last : Int)) ∧ MaximalRun unedited edited first last) ∧
    ((textRuns unedited edited).Pairwise fun run later => run.1 < later.1) ∧
    ((textRuns unedited edited).Pairwise fun run later => ∃ (index : Nat) (c : Char),
      run.2 < (index : Int) ∧ (index : Int) < later.1 ∧ unedited[index]? = some c ∧
        edited[index]? = some c) ∧
    (∀ index, DiffersAt unedited edited index → ∃! run,
      run ∈ textRuns unedited edited ∧ run.1 ≤ (index : Int) ∧ (index : Int) ≤ run.2) ∧
    (textRuns unedited edited).flatMap span = (indexes unedited edited).map Int.ofNat := by
  refine ⟨fun run => ⟨exists_of_mem_textRuns, ?_⟩, textRuns_ascend unedited edited,
    textRuns_separated unedited edited, fun index differs => ?_, flatMap_span_runs _⟩
  · rintro ⟨first, last, rfl, maximal⟩
    exact (mem_textRuns_iff unedited edited first last).mpr maximal
  · have listed := (mem_map_indexes_iff unedited edited index).mpr differs
    exact existsUnique_run (indexes_ascend unedited edited) listed

/-- Two texts that differ in two stretches below the length of the shorter. -/
example : textRuns "Abcadef".toList "Axyaz".toList = [(1, 2), (4, 4)] := by decide

end Attest.Difference
