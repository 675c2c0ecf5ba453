import Attest.Proofs.Auxdata.Difference
import Attest.Proofs.Auxdata.Location

/-!
# Which runs are given to which auxdatas

Locating auxdatas by comparison goes through the runs in order and gives each to an auxdata that is
free and stands around its first index, or passes it over where none does (`Assigns`). What is
located is the list of assignments made on the way (`locate_assigns`): no auxdata is given two runs
and no run is given to two auxdatas. Where the auxdatas stand around the runs that they are due and
around no others, each is given one that it is due, and the other runs are passed over
(`Assigns.given_eq`).
-/
namespace Attest

namespace Change

variable {unedited edited : Code} {change : Change}

/-- The change of an auxdata begins at the first index at which its texts differ. -/
theorem of_eq_ok (made : of unedited edited = .ok change) :
    change.literal = unedited ∧
      ∃ first : Nat, change.first = first ∧ Difference.FirstAt unedited edited first := by
  have ascend := Difference.indexesFrom_ascend unedited edited 0
  have listed := Difference.mem_indexes_iff unedited edited
  rw [of] at made
  split at made
  · contradiction
  · rename_i first rest indexes
    rw [Difference.indexes] at indexes listed
    rw [indexes] at ascend listed
    obtain rfl := Except.ok.inj made
    refine ⟨rfl, first, rfl, (listed first).mp List.mem_cons_self, fun earlier less differs => ?_⟩
    have least := (List.pairwise_cons.mp ascend).1
    rcases List.mem_cons.mp ((listed earlier).mpr differs) with same | later
    · omega
    · have greater := least earlier later
      omega

/-- Texts that differ somewhere make a change. -/
theorem exists_of_differsAt {index : Nat} (differs : Difference.DiffersAt unedited edited index) :
    ∃ change, of unedited edited = .ok change := by
  have listed := (Difference.mem_indexes_iff unedited edited index).mpr differs
  rw [of]
  split
  · rename_i none
    rw [none] at listed
    contradiction
  · exact ⟨_, rfl⟩

/-- An auxdata stands around an index exactly if its text begins as far before it as its first
change lies behind its beginning. -/
theorem occursAt_iff {code : Code} {first index : Nat} (begins : change.first = first) :
    change.occursAt code index = true ↔
      first ≤ index ∧ change.literal <+: code.drop (index - first) := by
  simp only [occursAt, begins, Bool.and_eq_true, Bool.not_eq_true', decide_eq_false_iff_not,
    beq_iff_eq, Int.not_lt]
  by_cases behind : first ≤ index
  · have start : (index : Int) - first = (index - first : Nat) := by omega
    have nonneg : (0 : Int) ≤ index - first := by omega
    rw [start, ← Int.natCast_add, Slice.between_natCast, List.drop_take,
      Nat.add_sub_cancel_left, List.prefix_iff_eq_take]
    simp [behind, eq_comm]
  · simp [behind]

/-- The changes of reported auxdatas are those of the pairs, in order. -/
theorem ofReports_eq_ok {before after : List Code} {changes : List Change}
    (made : ofReports before after = .ok changes) :
    changes.length = before.length ∧ before.length = after.length ∧
      ∀ (number : Nat) (change : Change), changes[number]? = some change →
        ∃ unedited edited, before[number]? = some unedited ∧ after[number]? = some edited ∧
          of unedited edited = .ok change := by
  rw [ofReports] at made
  split at made
  · contradiction
  · rename_i sizes
    have same : before.length = after.length := by omega
    obtain ⟨length, places⟩ := Result.mapM_eq_ok made
    rw [List.length_zip, ← same, Nat.min_self] at length
    refine ⟨length, same, fun number change found => ?_⟩
    obtain ⟨⟨unedited, edited⟩, paired, changed⟩ := places number change found
    rw [List.getElem?_zip_eq_some] at paired
    exact ⟨unedited, edited, paired.1, paired.2, changed⟩

end Change

namespace AuxdataPositions

/-- Different auxdatas have different ids. -/
theorem idAt_inj {one other : Nat} : idAt one = idAt other ↔ one = other := by
  constructor
  · intro same
    have digits := congrArg String.toList same
    change (Nat.repr (one + 1)).toList = (Nat.repr (other + 1)).toList at digits
    rw [Nat.toList_repr, Nat.toList_repr] at digits
    have values := congrArg (Nat.ofDigitChars 10 · 0) digits
    simp only [Nat.ofDigitChars_ten_toDigits] at values
    omega
  · exact congrArg idAt

/-- A run, by its first index, that is given to an auxdata, by its number among those reported. -/
structure Assignment where
  /-- The number of the auxdata. -/
  number : Nat
  /-- The auxdata. -/
  change : Change
  /-- The first index of the run. -/
  index : Int

/-- The id and the place that an assignment comes to. -/
def Assignment.row (assignment : Assignment) : String × AuxdataPosition :=
  (idAt assignment.number, placeOf assignment.change assignment.index)

/-- How runs are given to auxdatas in order, once those of some numbers are taken: a run is passed
over where no free auxdata stands around its first index, or else given to a free one that does. -/
inductive Assigns (code : Code) (changes : List Change) :
    List Nat → List (Int × Int) → List Assignment → Prop
  | ended (taken : List Nat) : Assigns code changes taken [] []
  | passed {taken : List Nat} {run : Int × Int} {rest : List (Int × Int)}
      {given : List Assignment}
      (stray : ∀ (number : Nat) (change : Change), changes[number]? = some change →
        number ∉ taken → change.occursAt code run.1 = false)
      (later : Assigns code changes taken rest given) :
      Assigns code changes taken (run :: rest) given
  | gave {taken : List Nat} {run : Int × Int} {rest : List (Int × Int)} {given : List Assignment}
      {number : Nat} {change : Change} (listed : changes[number]? = some change)
      (free : number ∉ taken) (occurs : change.occursAt code run.1 = true)
      (later : Assigns code changes (number :: taken) rest given) :
      Assigns code changes taken (run :: rest) (⟨number, change, run.1⟩ :: given)

variable {code : Code} {changes : List Change} {located : AuxdataPositions}

/-- A run that has no owner has no free auxdata around its first index. -/
theorem occursAt_of_owner?_eq_none {index : Int} {start number : Nat} {change : Change}
    (none : owner? code located index start changes = none)
    (listed : changes[number]? = some change) (free : located.has (idAt (start + number)) = false) :
    change.occursAt code index = false := by
  induction changes generalizing start number with
  | nil => simp at listed
  | cons first rest inductive_hypothesis =>
    rw [owner?] at none
    split at none
    · contradiction
    · rename_i other
      cases number with
      | zero =>
        obtain rfl := Option.some.inj listed
        rw [Nat.add_zero] at free
        simpa [free] using other
      | succ number =>
        rw [show start + (number + 1) = start + 1 + number by omega] at free
        exact inductive_hypothesis none listed free

/-- A table that has the ids of the auxdatas of some numbers and no other has, once one that is free
is put behind it, that id besides. -/
theorem put_of_free {taken : List Nat} {number : Nat} (place : AuxdataPosition)
    (holds : ∀ other, located.has (idAt other) = true ↔ other ∈ taken) (free : number ∉ taken) :
    located.put (idAt number) place = located ++ [(idAt number, place)] ∧
      ∀ other, Table.has (located.put (idAt number) place) (idAt other) = true ↔
        other ∈ number :: taken := by
  have absent : located.has (idAt number) = false :=
    Bool.eq_false_iff.mpr fun there => free ((holds number).mp there)
  refine ⟨Table.put_of_absent (Table.get?_eq_none_iff.mp ?_) place, fun other => ?_⟩
  · simpa [Table.has] using absent
  · rw [Table.has, Table.get?_put, List.mem_cons, ← holds other]
    by_cases same : number = other
    · simp [same]
    · have apart : ¬ idAt number = idAt other := fun equal => same (idAt_inj.mp equal)
      rw [if_neg apart]
      exact ⟨.inr, fun either => either.resolve_left (Ne.symm same)⟩

/-- Locating auxdatas puts the rows of its assignments behind what was located. -/
theorem locate_assigns (runs : List (Int × Int)) {taken : List Nat}
    (holds : ∀ number, located.has (idAt number) = true ↔ number ∈ taken) :
    ∃ given, Assigns code changes taken runs given ∧
      locate code changes located runs = located ++ given.map Assignment.row := by
  induction runs generalizing located taken with
  | nil => exact ⟨[], .ended taken, (List.append_nil located).symm⟩
  | cons run rest inductive_hypothesis =>
    have is_free : ∀ number, number ∉ taken ↔ located.has (idAt number) = false := fun number => by
      rw [← holds number, Bool.not_eq_true]
    rw [locate]
    split
    · rename_i number change found
      obtain ⟨offset, counted, listed, absent, occurs⟩ := owner?_eq_some found
      rw [Nat.zero_add] at counted
      have free := (is_free number).mpr absent
      obtain ⟨appended, holds_more⟩ := put_of_free (placeOf change run.1) holds free
      obtain ⟨given, assigned, rows⟩ := inductive_hypothesis holds_more
      refine ⟨⟨number, change, run.1⟩ :: given, .gave (counted ▸ listed) free occurs assigned, ?_⟩
      rw [rows, appended, List.append_assoc]
      rfl
    · rename_i none
      obtain ⟨given, assigned, rows⟩ := inductive_hypothesis holds
      refine ⟨given, .passed (fun number change listed free => ?_) assigned, rows⟩
      have absent := (is_free number).mp free
      rw [← Nat.zero_add number] at absent
      exact occursAt_of_owner?_eq_none none listed absent

/-- Places found by comparison are the rows of assignments of the runs to the changes. -/
theorem find_assigns {unedited edited : Code} {auxdatas editedAuxdatas : List Code}
    {positions : AuxdataPositions}
    (found : find unedited edited auxdatas editedAuxdatas = .ok positions) :
    ∃ changes given,
      Change.ofReports (auxdatas.map Text.lower) (editedAuxdatas.map Text.lower) = .ok changes ∧
      Assigns (Text.lower unedited) changes []
        (Difference.textRuns (Text.lower unedited) (Text.lower edited)) given ∧
      positions = given.map Assignment.row := by
  obtain ⟨changes, made, placed⟩ := Result.bind_eq_ok.mp found
  rw [Result.pure_eq_ok] at placed
  have holds : ∀ number, Table.has ([] : AuxdataPositions) (idAt number) = true ↔ number ∈ [] := by
    simp [Table.has, Table.get?]
  obtain ⟨given, assigned, rows⟩ :=
    locate_assigns (Difference.textRuns (Text.lower unedited) (Text.lower edited)) holds
  exact ⟨changes, given, made, assigned, by rw [← placed, rows, List.nil_append]⟩

namespace Assigns

variable {taken : List Nat} {runs : List (Int × Int)} {given : List Assignment}

/-- An auxdata that is given a run was free. -/
theorem free (assigns : Assigns code changes taken runs given) :
    ∀ assignment ∈ given, assignment.number ∉ taken := by
  induction assigns with
  | ended taken => simp
  | passed stray later inductive_hypothesis => exact inductive_hypothesis
  | gave listed free occurs later inductive_hypothesis =>
    intro assignment member
    rcases List.mem_cons.mp member with rfl | behind
    · exact free
    · exact fun held => inductive_hypothesis assignment behind (List.mem_cons_of_mem _ held)

/-- No auxdata is given two runs. -/
theorem numbers_nodup (assigns : Assigns code changes taken runs given) :
    (given.map Assignment.number).Nodup := by
  induction assigns with
  | ended taken => simp
  | passed stray later inductive_hypothesis => exact inductive_hypothesis
  | gave listed free occurs later inductive_hypothesis =>
    refine List.nodup_cons.mpr ⟨fun again => ?_, inductive_hypothesis⟩
    obtain ⟨assignment, member, same⟩ := List.mem_map.mp again
    exact later.free assignment member (same ▸ List.mem_cons_self)

/-- The runs are given in order, and no run is given twice. -/
theorem indexes_sublist (assigns : Assigns code changes taken runs given) :
    (given.map Assignment.index).Sublist (runs.map Prod.fst) := by
  induction assigns with
  | ended taken => exact List.Sublist.refl []
  | passed stray later inductive_hypothesis => exact inductive_hypothesis.cons _
  | gave listed free occurs later inductive_hypothesis => exact inductive_hypothesis.cons_cons _

/-- An auxdata is given a run only if it is reported and stands around the first index of the
run. -/
theorem occurs (assigns : Assigns code changes taken runs given) :
    ∀ assignment ∈ given, changes[assignment.number]? = some assignment.change ∧
      assignment.change.occursAt code assignment.index = true := by
  induction assigns with
  | ended taken => simp
  | passed stray later inductive_hypothesis => exact inductive_hypothesis
  | gave listed free occurs later inductive_hypothesis =>
    intro assignment member
    rcases List.mem_cons.mp member with rfl | behind
    · exact ⟨listed, occurs⟩
    · exact inductive_hypothesis assignment behind

end Assigns

/-- The changes and first indexes that the runs ahead are due, while the auxdatas of some numbers
are free: a free auxdata for each of them, and no auxdata that stands around the first index of
another run. -/
structure Due (code : Code) (changes : List Change) (taken : List Nat) (runs : List (Int × Int))
    (free : List Nat) (due : List (Change × Int)) : Prop where
  /-- The runs ascend. -/
  ascend : (runs.map Prod.fst).Pairwise (· < ·)
  /-- What is due is due at some of the runs, in order. -/
  begins : (due.map Prod.snd).Sublist (runs.map Prod.fst)
  /-- Each auxdata that is due stands around its run. -/
  occurs : ∀ pair ∈ due, pair.1.occursAt code pair.2 = true
  /-- An auxdata that stands around the first index of a run is due there. -/
  only : ∀ run ∈ runs, ∀ change ∈ changes, change.occursAt code run.1 = true →
    (change, run.1) ∈ due
  /-- The free auxdatas have different numbers. -/
  nodup : free.Nodup
  /-- They are those that are not taken. -/
  untaken : ∀ number, number ∈ free ↔ number < changes.length ∧ number ∉ taken
  /-- They are those that are due, in some order. -/
  perm : (free.map (changes[·]?)).Perm (due.map fun pair => some pair.1)

namespace Due

variable {taken free : List Nat} {run : Int × Int} {rest : List (Int × Int)}
  {due : List (Change × Int)} {number : Nat} {change : Change}

/-- For each auxdata that is due, one is free. -/
theorem exists_free (holds : Due code changes taken rest free due) {pair : Change × Int}
    (member : pair ∈ due) : ∃ number, changes[number]? = some pair.1 ∧ number ∉ taken := by
  have counted : some pair.1 ∈ free.map (changes[·]?) :=
    holds.perm.mem_iff.mpr (List.mem_map_of_mem member)
  obtain ⟨number, is_free, listed⟩ := List.mem_map.mp counted
  exact ⟨number, listed, ((holds.untaken number).mp is_free).2⟩

/-- The runs behind the first begin behind it. -/
theorem after (holds : Due code changes taken (run :: rest) free due) :
    ∀ index ∈ rest.map Prod.fst, run.1 < index := by
  have ascend := holds.ascend
  rw [List.map_cons] at ascend
  exact (List.pairwise_cons.mp ascend).1

/-- A run is passed over only if nothing is due there. -/
theorem pass (holds : Due code changes taken (run :: rest) free due)
    (stray : ∀ (number : Nat) (change : Change), changes[number]? = some change →
      number ∉ taken → change.occursAt code run.1 = false) :
    Due code changes taken rest free due := by
  have runs := holds.begins
  rw [List.map_cons, List.sublist_cons_iff] at runs
  have behind : (due.map Prod.snd).Sublist (rest.map Prod.fst) := by
    rcases runs with behind | ⟨indexes, starts, -⟩
    · exact behind
    · -- Otherwise the auxdata that is due at this run is free, and not passed over.
      cases due with
      | nil => contradiction
      | cons pair later =>
        have first : pair.2 = run.1 := (List.cons.inj starts).1
        have occurs := holds.occurs pair List.mem_cons_self
        obtain ⟨number, listed, untaken⟩ := holds.exists_free List.mem_cons_self
        rw [first, stray number pair.1 listed untaken] at occurs
        contradiction
  refine { holds with ascend := ?_, begins := behind, only := ?_ }
  · exact (List.pairwise_cons.mp holds.ascend).2
  · exact fun later member => holds.only later (List.mem_cons_of_mem _ member)

/-- A run that is given to an auxdata is the first that anything is due at, and the auxdata is due
there. -/
theorem eq_cons (holds : Due code changes taken (run :: rest) free due)
    (listed : changes[number]? = some change) (occurs : change.occursAt code run.1 = true) :
    ∃ left, due = (change, run.1) :: left := by
  have after := holds.after
  -- The runs behind begin later, so nothing that is due among them is due at this run.
  have not_behind : ∀ {pairs : List (Change × Int)},
      (pairs.map Prod.snd).Sublist (rest.map Prod.fst) → (change, run.1) ∉ pairs := by
    intro pairs behind member
    have index : run.1 ∈ pairs.map Prod.snd := List.mem_map.mpr ⟨_, member, rfl⟩
    exact Int.lt_irrefl _ (after run.1 (behind.mem index))
  have member := holds.only run List.mem_cons_self change (List.mem_of_getElem? listed) occurs
  have runs := holds.begins
  rw [List.map_cons, List.sublist_cons_iff] at runs
  rcases runs with behind | ⟨indexes, starts, behind⟩
  · exact absurd member (not_behind behind)
  · cases due with
    | nil => contradiction
    | cons pair left =>
      obtain ⟨-, rfl⟩ := List.cons.inj starts
      rcases List.mem_cons.mp member with same | ahead
      · exact ⟨left, by rw [same]⟩
      · exact absurd ahead (not_behind behind)

/-- Once a run is given to the auxdata of a number, the rest is due at the runs behind it, to the
auxdatas of the other numbers. -/
theorem give {left : List (Change × Int)}
    (holds : Due code changes taken (run :: rest) free ((change, run.1) :: left))
    (listed : changes[number]? = some change) (untaken : number ∉ taken) :
    Due code changes (number :: taken) rest (free.erase number) left where
  ascend := (List.pairwise_cons.mp holds.ascend).2
  begins := List.cons_sublist_cons.mp holds.begins
  occurs := fun pair ahead => holds.occurs pair (List.mem_cons_of_mem _ ahead)
  only := by
    intro next ahead other among around
    have found := holds.only next (List.mem_cons_of_mem _ ahead) other among around
    have later := holds.after next.1 (List.mem_map_of_mem ahead)
    rcases List.mem_cons.mp found with first | held
    · have index : next.1 = run.1 := congrArg Prod.snd first
      omega
    · exact held
  nodup := holds.nodup.erase number
  untaken := by
    intro other
    rw [holds.nodup.mem_erase_iff, holds.untaken, List.mem_cons, not_or]
    exact and_left_comm
  perm := by
    have below : number < changes.length := (List.getElem?_eq_some_iff.mp listed).1
    have is_free := (holds.untaken number).mpr ⟨below, untaken⟩
    have perm := ((List.perm_cons_erase is_free).map (changes[·]?)).symm.trans holds.perm
    rw [List.map_cons, List.map_cons, listed] at perm
    exact perm.cons_inv

end Due

/-- Each run is given what it is due, and each free auxdata is given one run. -/
theorem Assigns.given_eq {taken free : List Nat} {runs : List (Int × Int)}
    {given : List Assignment} {due : List (Change × Int)}
    (assigns : Assigns code changes taken runs given)
    (holds : Due code changes taken runs free due) :
    (given.map fun assignment => (assignment.change, assignment.index)) = due ∧
      (given.map Assignment.number).Perm free := by
  induction assigns generalizing free due with
  | ended taken =>
    have nothing : due = [] := List.map_eq_nil_iff.mp (List.sublist_nil.mp holds.begins)
    subst nothing
    have none : free = [] := List.map_eq_nil_iff.mp (List.perm_nil.mp holds.perm)
    subst none
    exact ⟨rfl, List.Perm.nil⟩
  | passed stray later inductive_hypothesis => exact inductive_hypothesis (holds.pass stray)
  | gave listed untaken occurs later inductive_hypothesis =>
    obtain ⟨left, rfl⟩ := holds.eq_cons listed occurs
    obtain ⟨pairs, numbers⟩ := inductive_hypothesis (holds.give listed untaken)
    have below := (List.getElem?_eq_some_iff.mp listed).1
    have is_free := (holds.untaken _).mpr ⟨below, untaken⟩
    refine ⟨?_, ?_⟩
    · rw [List.map_cons, pairs]
    · exact (numbers.cons _).trans (List.perm_cons_erase is_free).symm

end AuxdataPositions

end Attest
