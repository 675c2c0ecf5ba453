import Attest.Proofs.Auxdata.Routes
import Attest.Proofs.Result
import Mathlib.Data.List.Nodup
import Mathlib.Data.List.Perm.Basic

/-!
# Assembly listings with numbered parts in other places

The numbered parts of a record count by their numbers and not by their places, so a listing gives
the same auxdatas whatever the places of numbered parts anywhere in it (`auxdatas_of_reordered`), as
long as no two parts of one record have the same number.
-/
namespace Attest.Assembly

/-- Whether members are those of a record with the numbered parts in other places: the others stand
in their order, and the numbers of the parts are plain and all different. -/
structure Rearranged (members others : List (String × Json)) : Prop where
  /-- The numbered parts are the same. -/
  numbered : (members.filter (isNumber ·.1)).Perm (others.filter (isNumber ·.1))
  /-- The other members are the same, and in the same order. -/
  rest : members.filter (!isNumber ·.1) = others.filter (!isNumber ·.1)
  /-- The numbers of the parts are plain. -/
  plain : ∀ row ∈ members, isNumber row.1 = true → Plain row.1
  /-- No two parts have one number. -/
  different : ((members.filter (isNumber ·.1)).map fun row => decimal row.1).Nodup

/-- Whether a value is another one with the numbered parts of any of its records in other places. An
auxdata counts as it is. -/
inductive Reordered : Json → Json → Prop
  | refl (value : Json) : Reordered value value
  | trans {first second third : Json} (begun : Reordered first second)
    (ended : Reordered second third) : Reordered first third
  | record {members others : List (String × Json)} (rearranged : Rearranged members others) :
    Reordered (.record members) (.record others)
  | member {before after : List (String × Json)} {name : String} {value other : Json}
    (within : name ≠ ".auxdata") (inner : Reordered value other) :
    Reordered (.record (before ++ (name, value) :: after))
      (.record (before ++ (name, other) :: after))
  | item {before after : List Json} {value other : Json} (inner : Reordered value other) :
    Reordered (.list (before ++ value :: after)) (.list (before ++ other :: after))

/-- The auxdatas that a member which is no numbered part adds in place. -/
def ownAuxdatas (name : String) (value : Json) : Except Fault (List Json) :=
  if name = ".auxdata" then .ok [value]
  else if name = ".data" then auxdatas value
  else .ok []

/-- A member that is no numbered part adds its auxdatas in front of those in place. -/
theorem memberAuxdatas_cons_own {name : String} (other : isNumber name = false) (value : Json)
    (rest : List (String × Json)) :
    memberAuxdatas ((name, value) :: rest) = (do
      let later ← memberAuxdatas rest
      let found ← ownAuxdatas name value
      return (found ++ later.1, later.2)) := by
  rw [memberAuxdatas]
  refine bind_congr ?_
  rintro ⟨own, numbered⟩
  dsimp only
  by_cases auxdata : name = ".auxdata"
  · rw [ownAuxdatas, if_pos auxdata, if_pos auxdata]
    rfl
  · rw [ownAuxdatas, if_neg auxdata, if_neg auxdata]
    by_cases data : name = ".data"
    · rw [if_pos data, if_pos data]
    · rw [if_neg data, if_neg data, if_neg (Bool.eq_false_iff.mp other)]
      rfl

/-- A numbered part is read and put in front of the numbered parts. -/
theorem memberAuxdatas_cons_numbered {name : String} (numeric : isNumber name = true)
    (value : Json) (rest : List (String × Json)) :
    memberAuxdatas ((name, value) :: rest) = (do
      let later ← memberAuxdatas rest
      match Numeral.readNat? 10 name.toList with
      | some number => return (later.1, (number, ← auxdatas value) :: later.2)
      | none => .error .badNumeral) := by
  have auxdata : name ≠ ".auxdata" := by
    rintro rfl
    rw [isNumber_own.1] at numeric
    contradiction
  have data : name ≠ ".data" := by
    rintro rfl
    rw [isNumber_own.2] at numeric
    contradiction
  rw [memberAuxdatas]
  refine bind_congr ?_
  rintro ⟨own, numbered⟩
  refine (if_neg auxdata).trans ((if_neg data).trans ((if_pos numeric).trans ?_))
  cases Numeral.readNat? 10 name.toList <;> rfl

/-- Members have unreadable auxdatas only because a number of a part is none, if that holds of each
part. -/
theorem badNumeral_of_memberAuxdatas {members : List (String × Json)}
    (each : ∀ row ∈ members, Result.FailsOnly (· = Fault.badNumeral) (auxdatas row.2)) :
    Result.FailsOnly (· = Fault.badNumeral) (memberAuxdatas members) := by
  induction members with
  | nil => exact Result.failsOnly_ok _
  | cons row rest inductive_hypothesis =>
    obtain ⟨name, value⟩ := row
    have first : Result.FailsOnly _ (auxdatas value) := each (name, value) List.mem_cons_self
    have later := inductive_hypothesis fun row listed => each row (.tail _ listed)
    by_cases numeric : isNumber name = true
    · rw [memberAuxdatas_cons_numbered numeric]
      refine later.bind fun _ => ?_
      split
      · exact first.bind fun _ => Result.failsOnly_ok _
      · exact Result.failsOnly_error rfl
    · rw [memberAuxdatas_cons_own (Bool.eq_false_iff.mpr numeric)]
      refine later.bind fun _ => Result.FailsOnly.bind ?_ fun _ => Result.failsOnly_ok _
      rw [ownAuxdatas]
      split
      · exact Result.failsOnly_ok _
      · split
        · exact first
        · exact Result.failsOnly_ok _

/-- A listing has unreadable auxdatas only because a number of a part is none. -/
theorem badNumeral_of_auxdatas (listing : Json) :
    Result.FailsOnly (· = Fault.badNumeral) (auxdatas listing) := by
  induction listing using record_induction with
  | record members each =>
    rw [auxdatas]
    exact (badNumeral_of_memberAuxdatas each).bind fun _ => Result.failsOnly_ok _
  | other value shape =>
    cases value with
    | record members => exact absurd rfl (shape members)
    | _ => exact Result.failsOnly_ok _

/-- Members are read as those are that are no numbered parts, and as each numbered part is by
itself. -/
theorem memberAuxdatas_eq_ok_iff {members : List (String × Json)} {own : List Json}
    {numbered : List (Nat × List Json)} :
    memberAuxdatas members = .ok (own, numbered) ↔
      memberAuxdatas (members.filter (!isNumber ·.1)) = .ok (own, []) ∧
        List.Forall₂ (fun row part => Numeral.readNat? 10 row.1.toList = some part.1 ∧
          auxdatas row.2 = .ok part.2) (members.filter (isNumber ·.1)) numbered := by
  induction members generalizing own numbered with
  | nil =>
    rw [List.filter_nil, List.filter_nil, List.forall₂_nil_left_iff, memberAuxdatas]
    simp [eq_comm]
  | cons row rest inductive_hypothesis =>
    obtain ⟨name, value⟩ := row
    by_cases numeric : isNumber name = true
    · rw [List.filter_cons_of_neg (by simp [numeric]), List.filter_cons_of_pos (by simp [numeric]),
        memberAuxdatas_cons_numbered numeric, Result.bind_eq_ok, List.forall₂_cons_left_iff]
      constructor
      · rintro ⟨later, read, run⟩
        split at run
        · rename_i number told
          obtain ⟨found, inner, same⟩ := Result.bind_eq_ok.mp run
          obtain ⟨rfl, rfl⟩ := Prod.mk.inj (Result.pure_eq_ok.mp same)
          obtain ⟨others, parts⟩ := inductive_hypothesis.mp read
          exact ⟨others, (number, found), later.2, ⟨told, inner⟩, parts, rfl⟩
        · cases run
      · rintro ⟨others, part, parts, ⟨told, inner⟩, each, rfl⟩
        refine ⟨_, inductive_hypothesis.mpr ⟨others, each⟩, ?_⟩
        dsimp only at told ⊢
        rw [told]
        exact Result.bind_eq_ok.mpr ⟨part.2, inner, rfl⟩
    · have other := Bool.eq_false_iff.mpr numeric
      rw [List.filter_cons_of_pos (by simp [other]), List.filter_cons_of_neg (by simp [other]),
        memberAuxdatas_cons_own other, memberAuxdatas_cons_own other, Result.bind_eq_ok,
        Result.bind_eq_ok]
      constructor
      · rintro ⟨later, read, run⟩
        obtain ⟨found, inner, same⟩ := Result.bind_eq_ok.mp run
        obtain ⟨rfl, rfl⟩ := Prod.mk.inj (Result.pure_eq_ok.mp same)
        obtain ⟨others, parts⟩ := inductive_hypothesis.mp read
        exact ⟨⟨_, others, Result.bind_eq_ok.mpr ⟨found, inner, rfl⟩⟩, parts⟩
      · rintro ⟨⟨later, others, run⟩, parts⟩
        obtain ⟨found, inner, same⟩ := Result.bind_eq_ok.mp run
        obtain ⟨rfl, empty⟩ := Prod.mk.inj (Result.pure_eq_ok.mp same)
        have kept : memberAuxdatas (rest.filter (!isNumber ·.1)) = .ok (later.1, []) := by
          rw [others, ← empty]
        have read := inductive_hypothesis.mpr ⟨kept, parts⟩
        exact ⟨_, read, Result.bind_eq_ok.mpr ⟨found, inner, rfl⟩⟩

/-- Numbered parts in other places are in the same order by their numbers, if those differ. -/
theorem inOrder_eq_of_perm {numbered others : List (Nat × List Json)}
    (same : numbered.Perm others) (different : (numbered.map Prod.fst).Nodup) :
    inOrder numbered = inOrder others := by
  have transitive := ascending_trans (Prod.fst : Nat × List Json → Nat)
  have total := ascending_total (Prod.fst : Nat × List Json → Nat)
  have sorted : numbered.mergeSort (fun a b => a.1 ≤ b.1) =
      others.mergeSort fun a b => a.1 ≤ b.1 := by
    refine List.Perm.eq_of_pairwise ?_ (List.pairwise_mergeSort transitive total numbered)
      (List.pairwise_mergeSort transitive total others)
      ((List.mergeSort_perm _ _).trans (same.trans (List.mergeSort_perm _ _).symm))
    intro a b first second below above
    rw [decide_eq_true_eq] at below above
    exact List.inj_on_of_nodup_map different (List.mem_mergeSort.mp first)
      (same.mem_iff.mpr (List.mem_mergeSort.mp second)) (Nat.le_antisymm below above)
  rw [inOrder, inOrder, sorted]

/-- Members whose numbered parts stood in other places are rearranged back. -/
theorem Rearranged.symm {members others : List (String × Json)}
    (rearranged : Rearranged members others) : Rearranged others members where
  numbered := rearranged.numbered.symm
  rest := rearranged.rest.symm
  plain := fun row listed numeric =>
    have there : row ∈ members.filter (isNumber ·.1) :=
      rearranged.numbered.mem_iff.mpr (List.mem_filter.mpr ⟨listed, numeric⟩)
    rearranged.plain row (List.mem_filter.mp there).1 numeric
  different := (rearranged.numbered.map _).nodup_iff.mp rearranged.different

/-- A record gives the auxdatas that it gives with its numbered parts in other places. -/
theorem auxdatas_of_rearranged {members others : List (String × Json)} {found : List Json}
    (rearranged : Rearranged members others) (read : auxdatas (.record members) = .ok found) :
    auxdatas (.record others) = .ok found := by
  rw [auxdatas] at read ⊢
  obtain ⟨⟨own, numbered⟩, listed, same⟩ := Result.bind_eq_ok.mp read
  obtain ⟨rest, parts⟩ := memberAuxdatas_eq_ok_iff.mp listed
  obtain ⟨moved, each, perm⟩ := List.perm_comp_forall₂ rearranged.numbered.symm parts
  have numbers : numbered.map Prod.fst =
      (members.filter (isNumber ·.1)).map fun row => decimal row.1 := by
    obtain ⟨length, pairs⟩ := List.forall₂_iff_zip.mp parts
    have told : List.Forall₂ (fun part row => part.1 = decimal row.1) numbered
        (members.filter (isNumber ·.1)) := by
      refine (List.forall₂_iff_zip.mpr ⟨length, fun {row part} paired => ?_⟩).flip
      obtain ⟨inside, numeric⟩ := List.mem_filter.mp (List.of_mem_zip paired).1
      have reading := readNat?_decimal numeric (rearranged.plain row inside numeric)
      exact Option.some.inj ((pairs paired).1.symm.trans reading)
    rw [← List.forall₂_eq_eq_eq, List.forall₂_map_left_iff, List.forall₂_map_right_iff]
    exact told
  have different : (numbered.map Prod.fst).Nodup := numbers ▸ rearranged.different
  refine Result.bind_eq_ok.mpr ⟨(own, moved), ?_, ?_⟩
  · exact memberAuxdatas_eq_ok_iff.mpr ⟨rearranged.rest ▸ rest, each⟩
  · dsimp only at same ⊢
    rw [inOrder_eq_of_perm perm.symm different] at same
    exact same

/-- A member counts by the auxdatas of its value alone, if it is no auxdata itself. -/
theorem memberAuxdatas_congr {name : String} {value other : Json} (within : name ≠ ".auxdata")
    (same : auxdatas other = auxdatas value) (before after : List (String × Json)) :
    memberAuxdatas (before ++ (name, other) :: after) =
      memberAuxdatas (before ++ (name, value) :: after) := by
  induction before with
  | nil =>
    simp only [List.nil_append, memberAuxdatas, if_neg within, same]
  | cons row rest inductive_hypothesis =>
    rw [List.cons_append, List.cons_append, memberAuxdatas, memberAuxdatas, inductive_hypothesis]

/-- A value gives the auxdatas that it gives with numbered parts in other places. -/
theorem auxdatas_of_reordered {value other : Json} (reordered : Reordered value other) :
    auxdatas other = auxdatas value := by
  induction reordered with
  | refl value => rfl
  | trans _ _ first second => rw [second, first]
  | @record members others rearranged =>
    cases read : auxdatas (.record members) with
    | ok found => exact auxdatas_of_rearranged rearranged read
    | error failure =>
      cases moved : auxdatas (.record others) with
      | ok found => rw [auxdatas_of_rearranged rearranged.symm moved] at read; cases read
      | error other =>
        rw [badNumeral_of_auxdatas _ failure read, badNumeral_of_auxdatas _ other moved]
  | @member before after name value other within _ inner =>
    rw [auxdatas, auxdatas, memberAuxdatas_congr within inner]
  | item => rfl

end Attest.Assembly
