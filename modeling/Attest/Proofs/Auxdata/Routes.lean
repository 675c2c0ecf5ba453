import Attest.Auxdata.Assembly
import Mathlib.Data.List.Pairwise

/-!
# Routes in an assembly listing

A listing is a tree, and an auxdata in it is found on a route: through the records of data and the
numbered assemblies down to a record that names it. Routes have an order, which goes by the numbers.
The walk over a listing finds the auxdata at the end of each route (`mem_routed_iff`), in the order
of the routes (`ordered_routed`).
-/
namespace Attest.Assembly

/-- The number that decimal digits stand for, the highest first. -/
def decimal (name : String) : Nat :=
  name.toList.foldl (fun value c => 10 * value + (c.toNat - '0'.toNat)) 0

/-- Whether a name has no characters but the decimal digits of the ASCII range. -/
def Plain (name : String) : Prop := ∀ c ∈ name.toList, c.isDigit = true

instance (name : String) : Decidable (Plain name) :=
  List.decidableBAll (fun c : Char => c.isDigit = true) name.toList

/-- A step from a record to one of its members. -/
structure Step where
  /-- The number of the member, if it is a numbered part. -/
  number : Option Nat
  /-- The place of the member among all. -/
  place : Nat
  deriving DecidableEq, Repr

/-- The order of the steps from one record: what is not numbered as it is listed, then the numbered
parts by ascending number, and as they are listed if their numbers are the same. -/
inductive Step.Before : Step → Step → Prop
  | listed {first second : Nat} (earlier : first < second) : Before ⟨none, first⟩ ⟨none, second⟩
  | numberedLater (first second number : Nat) : Before ⟨none, first⟩ ⟨some number, second⟩
  | ascending {low high : Nat} (less : low < high) (first second : Nat) :
    Before ⟨some low, first⟩ ⟨some high, second⟩
  | repeated {first second : Nat} (number : Nat) (earlier : first < second) :
    Before ⟨some number, first⟩ ⟨some number, second⟩

/-- The order of routes: that of the first steps in which they differ. -/
def RouteBefore : List Step → List Step → Prop := List.Lex Step.Before

/-- What is reached in a listing on a route through data and numbered parts. -/
inductive Reaches : Json → List Step → Json → Prop
  | here (listing : Json) : Reaches listing [] listing
  | data {members : List (String × Json)} {place : Nat} {part found : Json} {route : List Step}
    (named : members[place]? = some (".data", part)) (onward : Reaches part route found) :
    Reaches (.record members) (⟨none, place⟩ :: route) found
  | numbered {members : List (String × Json)} {place : Nat} {name : String} {part found : Json}
    {route : List Step} (named : members[place]? = some (name, part))
    (numeric : isNumber name = true) (onward : Reaches part route found) :
    Reaches (.record members) (⟨some (decimal name), place⟩ :: route) found

/-- Whether a listing has an auxdata at the end of a route: the last step is to the auxdata of the
record that the others reach. -/
def Holds (listing : Json) (route : List Step) (auxdata : Json) : Prop :=
  ∃ (way : List Step) (members : List (String × Json)) (place : Nat),
    Reaches listing way (.record members) ∧ members[place]? = some (".auxdata", auxdata) ∧
      route = way ++ [⟨none, place⟩]

/-- Of two steps only one is before the other. -/
theorem Step.Before.asymm {first second : Step} (before : Before first second) :
    ¬ Before second first := by
  intro after
  cases before <;> cases after <;> omega

/-- Of two routes only one is before the other. -/
theorem RouteBefore.asymm {first second : List Step} (before : RouteBefore first second) :
    ¬ RouteBefore second first := by
  intro after
  unfold RouteBefore at before after
  induction before with
  | nil => cases after
  | rel less =>
    cases after with
    | rel greater => exact less.asymm greater
    | cons => exact less.asymm less
  | cons _ inductive_hypothesis =>
    cases after with
    | rel greater => exact greater.asymm greater
    | cons later => exact inductive_hypothesis later

/-! ### Numbers -/

/-- A decimal digit of the ASCII range is read as what it counts, and is no low line. -/
theorem digitOf?_of_isDigit {c : Char} (digit : c.isDigit = true) :
    Numeral.digitOf? 10 c = some (c.toNat - '0'.toNat) ∧ c ≠ '_' := by
  have all : ∀ point ∈ List.range 128, (Char.ofNat point).isDigit = true →
      Numeral.digitOf? 10 (Char.ofNat point) = some ((Char.ofNat point).toNat - '0'.toNat) ∧
        Char.ofNat point ≠ '_' := by
    decide +kernel
  have low : c.toNat < 128 := by
    rw [Char.isDigit, Bool.and_eq_true, decide_eq_true_eq, decide_eq_true_eq] at digit
    have most : c.toNat ≤ 57 := digit.2
    omega
  have read := all c.toNat (List.mem_range.mpr low)
  rw [Char.ofNat_toNat] at read
  exact read digit

/-- Plain digits are read on one after another. -/
theorem readOn_decimal {text : List Char} (digits : ∀ c ∈ text, c.isDigit = true) (total : Nat) :
    Numeral.readOn 10 total text =
      some (text.foldl (fun value c => 10 * value + (c.toNat - '0'.toNat)) total) := by
  induction text generalizing total with
  | nil => rfl
  | cons c rest inductive_hypothesis =>
    obtain ⟨value, other⟩ := digitOf?_of_isDigit (digits c List.mem_cons_self)
    have onward := inductive_hypothesis fun later member => digits later (.tail _ member)
    rw [Numeral.readOn, value, Option.bind_some, onward, List.foldl_cons, Nat.mul_comm total]
    intro next later same
    exact absurd same other

/-- A plain number is read as what its digits stand for. -/
theorem readNat?_decimal {name : String} (numeric : isNumber name = true) (plain : Plain name) :
    Numeral.readNat? 10 name.toList = some (decimal name) := by
  have filled : name.toList ≠ [] := by
    intro empty
    rw [isNumber, String.toList_eq_nil_iff.mp empty] at numeric
    exact absurd numeric (by decide)
  unfold Plain at plain
  rw [decimal]
  cases text : name.toList with
  | nil => exact absurd text filled
  | cons c rest =>
    rw [text] at plain
    have value := (digitOf?_of_isDigit (plain c List.mem_cons_self)).1
    have onward := readOn_decimal fun later member => plain later (.tail _ member)
    rw [Numeral.readNat?, value, Option.bind_some, onward, List.foldl_cons]
    simp

/-- The names of an auxdata and of a record of data are no numbers. -/
theorem isNumber_own : isNumber ".auxdata" = false ∧ isNumber ".data" = false := by
  constructor <;> decide +kernel

/-! ### The walk with its routes -/

/-- Auxdatas, each with the route to it. -/
abbrev Routes := List (List Step × Json)

/-- Routes with one more step in front. -/
def under (step : Step) (found : Routes) : Routes :=
  found.map fun entry => (step :: entry.1, entry.2)

/-- A numbered part of a record, and what is found in it. -/
structure Part where
  /-- Its number. -/
  number : Nat
  /-- Its place among the members. -/
  place : Nat
  /-- The auxdatas in it, with their routes from the record. -/
  found : Routes

/-- Numbered parts by ascending number. -/
def sorted (parts : List Part) : List Part := parts.mergeSort fun a b => a.number ≤ b.number

mutual

/-- The auxdatas of a listing with their routes, in the order of the walk. -/
def routed : Json → Routes
  | .record members =>
    (routedMembers 0 members).1 ++ (sorted (routedMembers 0 members).2).flatMap Part.found
  | _ => []

/-- What the walk finds in members from a place on: in place, and in the numbered parts. -/
def routedMembers (place : Nat) : List (String × Json) → Routes × List Part
  | [] => ([], [])
  | (name, value) :: rest =>
    let later := routedMembers (place + 1) rest
    if name = ".auxdata" then (([⟨none, place⟩], value) :: later.1, later.2)
    else if name = ".data" then (under ⟨none, place⟩ (routed value) ++ later.1, later.2)
    else if isNumber name then
      (later.1, ⟨decimal name, place, under ⟨some (decimal name), place⟩ (routed value)⟩ :: later.2)
    else later

end

/-- What is found under a step is what is found behind it. -/
theorem map_snd_under (step : Step) (found : Routes) :
    (under step found).map Prod.snd = found.map Prod.snd := by
  rw [under, List.map_map]
  rfl

/-- A route under a step is that step and a route behind it. -/
theorem mem_under {step : Step} {found : Routes} {route : List Step} {auxdata : Json} :
    (route, auxdata) ∈ under step found ↔
      ∃ onward, (onward, auxdata) ∈ found ∧ route = step :: onward := by
  rw [under, List.mem_map]
  constructor
  · rintro ⟨⟨onward, held⟩, member, same⟩
    obtain ⟨rfl, rfl⟩ := Prod.mk.inj same
    exact ⟨onward, member, rfl⟩
  · rintro ⟨onward, member, rfl⟩
    exact ⟨(onward, auxdata), member, rfl⟩

/-- What the walk finds in place in one member. -/
def ownAt (row : (String × Json) × Nat) : Routes :=
  if row.1.1 = ".auxdata" then [([⟨none, row.2⟩], row.1.2)]
  else if row.1.1 = ".data" then under ⟨none, row.2⟩ (routed row.1.2)
  else []

/-- The numbered part that one member is, if it is one. -/
def partAt? (row : (String × Json) × Nat) : Option Part :=
  if isNumber row.1.1 then
    some ⟨decimal row.1.1, row.2, under ⟨some (decimal row.1.1), row.2⟩ (routed row.1.2)⟩
  else none

/-- The walk over members takes each by itself. -/
theorem routedMembers_eq (place : Nat) (members : List (String × Json)) :
    routedMembers place members =
      ((members.zipIdx place).flatMap ownAt, (members.zipIdx place).filterMap partAt?) := by
  induction members generalizing place with
  | nil => rfl
  | cons row rest inductive_hypothesis =>
    obtain ⟨name, value⟩ := row
    rw [routedMembers, inductive_hypothesis, List.zipIdx_cons, List.flatMap_cons,
      List.filterMap_cons]
    by_cases auxdata : name = ".auxdata"
    · simp [ownAt, partAt?, auxdata, isNumber_own.1]
    · by_cases data : name = ".data"
      · simp [ownAt, partAt?, data, isNumber_own.2]
      · by_cases numeric : isNumber name = true
        · simp [ownAt, partAt?, auxdata, data, numeric]
        · simp [ownAt, partAt?, auxdata, data, numeric]

/-- What the walk finds in place, by the members that it comes from. -/
theorem mem_own {members : List (String × Json)} {route : List Step} {auxdata : Json} :
    (route, auxdata) ∈ (routedMembers 0 members).1 ↔
      (∃ place, members[place]? = some (".auxdata", auxdata) ∧ route = [⟨none, place⟩]) ∨
      ∃ place part onward, members[place]? = some (".data", part) ∧
        (onward, auxdata) ∈ routed part ∧ route = ⟨none, place⟩ :: onward := by
  rw [routedMembers_eq, List.mem_flatMap]
  constructor
  · rintro ⟨⟨⟨name, value⟩, place⟩, member, found⟩
    have listed : members[place]? = some (name, value) := List.mem_zipIdx_iff_getElem?.mp member
    rw [ownAt] at found
    split at found
    · rename_i named
      obtain ⟨same, held⟩ := Prod.mk.inj (List.mem_singleton.mp found)
      have there : members[place]? = some (".auxdata", auxdata) := by
        rw [listed, held, show name = ".auxdata" from named]
      exact .inl ⟨place, there, same⟩
    · split at found
      · rename_i named
        obtain ⟨onward, beneath, same⟩ := mem_under.mp found
        have there : members[place]? = some (".data", value) := by
          rw [listed, show name = ".data" from named]
        exact .inr ⟨place, value, onward, there, beneath, same⟩
      · exact absurd found List.not_mem_nil
  · rintro (⟨place, there, rfl⟩ | ⟨place, part, onward, there, beneath, rfl⟩)
    · refine ⟨((".auxdata", auxdata), place), List.mem_zipIdx_iff_getElem?.mpr there, ?_⟩
      rw [ownAt, if_pos rfl]
      exact List.mem_singleton_self _
    · refine ⟨((".data", part), place), List.mem_zipIdx_iff_getElem?.mpr there, ?_⟩
      rw [ownAt, if_neg (by simp), if_pos rfl]
      exact mem_under.mpr ⟨onward, beneath, rfl⟩

/-- The numbered parts, by the members that they are. -/
theorem mem_numbered {members : List (String × Json)} {part : Part} :
    part ∈ (routedMembers 0 members).2 ↔
      ∃ place name value, members[place]? = some (name, value) ∧ isNumber name = true ∧
        part = ⟨decimal name, place, under ⟨some (decimal name), place⟩ (routed value)⟩ := by
  rw [routedMembers_eq, List.mem_filterMap]
  constructor
  · rintro ⟨⟨⟨name, value⟩, place⟩, member, found⟩
    rw [partAt?] at found
    split at found
    · rename_i numeric
      exact ⟨place, name, value, List.mem_zipIdx_iff_getElem?.mp member, numeric,
        (Option.some.inj found).symm⟩
    · cases found
  · rintro ⟨place, name, value, there, numeric, rfl⟩
    refine ⟨((name, value), place), List.mem_zipIdx_iff_getElem?.mpr there, ?_⟩
    rw [partAt?, if_pos numeric]

/-- The routes of a record: to its own auxdata, through its data, and through its numbered parts. -/
theorem mem_routed_record {members : List (String × Json)} {route : List Step} {auxdata : Json} :
    (route, auxdata) ∈ routed (.record members) ↔
      (∃ place, members[place]? = some (".auxdata", auxdata) ∧ route = [⟨none, place⟩]) ∨
      (∃ place part onward, members[place]? = some (".data", part) ∧
        (onward, auxdata) ∈ routed part ∧ route = ⟨none, place⟩ :: onward) ∨
      ∃ place name part onward, members[place]? = some (name, part) ∧ isNumber name = true ∧
        (onward, auxdata) ∈ routed part ∧ route = ⟨some (decimal name), place⟩ :: onward := by
  rw [routed, List.mem_append, mem_own, or_assoc]
  refine or_congr_right (or_congr_right ?_)
  rw [List.mem_flatMap]
  constructor
  · rintro ⟨part, member, found⟩
    obtain ⟨place, name, value, there, numeric, rfl⟩ :=
      mem_numbered.mp (List.mem_mergeSort.mp member)
    obtain ⟨onward, beneath, same⟩ := mem_under.mp found
    exact ⟨place, name, value, onward, there, numeric, beneath, same⟩
  · rintro ⟨place, name, value, onward, there, numeric, beneath, rfl⟩
    exact ⟨_, List.mem_mergeSort.mpr (mem_numbered.mpr ⟨place, name, value, there, numeric, rfl⟩),
      mem_under.mpr ⟨onward, beneath, rfl⟩⟩

/-- The auxdatas of a record by the first step to them. -/
theorem holds_record_iff {members : List (String × Json)} {route : List Step} {auxdata : Json} :
    Holds (.record members) route auxdata ↔
      (∃ place, members[place]? = some (".auxdata", auxdata) ∧ route = [⟨none, place⟩]) ∨
      (∃ place part onward, members[place]? = some (".data", part) ∧
        Holds part onward auxdata ∧ route = ⟨none, place⟩ :: onward) ∨
      ∃ place name part onward, members[place]? = some (name, part) ∧ isNumber name = true ∧
        Holds part onward auxdata ∧ route = ⟨some (decimal name), place⟩ :: onward := by
  constructor
  · rintro ⟨way, last, place, reached, named, rfl⟩
    cases reached with
    | here => exact .inl ⟨place, named, rfl⟩
    | data outer onward =>
      exact .inr (.inl ⟨_, _, _, outer, ⟨_, last, place, onward, named, rfl⟩, rfl⟩)
    | numbered outer numeric onward =>
      exact .inr (.inr ⟨_, _, _, _, outer, numeric, ⟨_, last, place, onward, named, rfl⟩, rfl⟩)
  · rintro (⟨place, named, rfl⟩ | ⟨place, part, onward, outer, held, rfl⟩ |
      ⟨place, name, part, onward, outer, numeric, held, rfl⟩)
    · exact ⟨[], members, place, .here _, named, rfl⟩
    · obtain ⟨way, last, final, reached, named, rfl⟩ := held
      exact ⟨_, last, final, .data outer reached, named, rfl⟩
    · obtain ⟨way, last, final, reached, named, rfl⟩ := held
      exact ⟨_, last, final, .numbered outer numeric reached, named, rfl⟩

/-- What holds of a record if it holds of the values in it, and of all that is no record, holds of
every value. -/
@[elab_as_elim]
theorem record_induction {motive : Json → Prop} (value : Json)
    (record : ∀ members, (∀ row ∈ members, motive row.2) → motive (.record members))
    (other : ∀ value, (∀ members, value ≠ .record members) → motive value) : motive value := by
  cases value with
  | record members =>
    refine record members fun row listed => ?_
    have inside : sizeOf row < sizeOf members := List.sizeOf_lt_of_mem listed
    exact record_induction row.2 record other
  | _ => exact other _ nofun
termination_by sizeOf value
decreasing_by
  obtain ⟨name, value⟩ := row
  simp only [Prod.mk.sizeOf_spec] at inside
  simp only [Json.record.sizeOf_spec]
  omega

/-- The walk finds nothing in what is no record. -/
theorem routed_of_no_record {value : Json} (shape : ∀ members, value ≠ .record members) :
    routed value = [] := by
  cases value with
  | record members => exact absurd rfl (shape members)
  | _ => rfl

/-- Nothing is found in what is no record. -/
theorem not_holds {listing auxdata : Json} {route : List Step}
    (other : ∀ members, listing ≠ .record members) : ¬ Holds listing route auxdata := by
  rintro ⟨way, members, place, reached, -, -⟩
  cases reached with
  | here => exact other members rfl
  | data => exact other _ rfl
  | numbered => exact other _ rfl

/-- The walk finds the auxdata at the end of each route, and nothing else. -/
theorem mem_routed_iff {listing auxdata : Json} {route : List Step} :
    (route, auxdata) ∈ routed listing ↔ Holds listing route auxdata := by
  induction route generalizing listing with
  | nil =>
    cases listing with
    | record members =>
      rw [mem_routed_record, holds_record_iff]
      simp
    | _ => exact iff_of_false List.not_mem_nil (not_holds nofun)
  | cons step onward inductive_hypothesis =>
    cases listing with
    | record members =>
      rw [mem_routed_record, holds_record_iff]
      simp [← inductive_hypothesis]
    | _ => exact iff_of_false List.not_mem_nil (not_holds nofun)

/-! ### The order of the walk -/

/-- What is ordered by a number is ordered transitively. -/
theorem ascending_trans {α : Type} (number : α → Nat) (a b c : α)
    (first : decide (number a ≤ number b) = true) (second : decide (number b ≤ number c) = true) :
    decide (number a ≤ number c) = true := by
  rw [decide_eq_true_eq] at first second ⊢
  exact Nat.le_trans first second

/-- What is ordered by a number is ordered totally. -/
theorem ascending_total {α : Type} (number : α → Nat) (a b : α) :
    (decide (number a ≤ number b) || decide (number b ≤ number a)) = true := by
  rw [Bool.or_eq_true, decide_eq_true_eq, decide_eq_true_eq]
  exact Nat.le_total (number a) (number b)

/-- Parts that are listed in their places are sorted by their numbers and keep their places among
those of one number. -/
theorem sorted_pairwise {parts : List Part} (placed : parts.Pairwise (·.place < ·.place)) :
    (sorted parts).Pairwise fun first second =>
      first.number < second.number ∨
        first.number = second.number ∧ first.place < second.place := by
  have transitive := ascending_trans Part.number
  have total := ascending_total Part.number
  induction parts with
  | nil => rw [sorted, List.mergeSort_nil]; exact .nil
  | cons part rest inductive_hypothesis =>
    obtain ⟨earlier, later⟩ := List.pairwise_cons.mp placed
    obtain ⟨low, high, whole, others, below⟩ := List.mergeSort_cons transitive total part rest
    have kept := inductive_hypothesis later
    rw [sorted, others] at kept
    have ascending := List.pairwise_mergeSort transitive total (part :: rest)
    rw [whole] at ascending
    rw [sorted, whole]
    obtain ⟨lows, highs, across⟩ := List.pairwise_append.mp kept
    refine List.pairwise_append.mpr ⟨lows, List.pairwise_cons.mpr ⟨fun other above => ?_, highs⟩,
      fun other beneath next above => ?_⟩
    · have listed : other ∈ rest := by
        rw [← List.mem_mergeSort, others]
        exact List.mem_append_right low above
      have least : part.number ≤ other.number := by
        have ordered := (List.pairwise_append.mp ascending).2.1
        exact of_decide_eq_true ((List.pairwise_cons.mp ordered).1 other above)
      have place : part.place < other.place := earlier other listed
      rcases Nat.lt_or_eq_of_le least with less | same
      · exact .inl less
      · exact .inr ⟨same, place⟩
    · rcases List.mem_cons.mp above with rfl | later
      · have less := below other beneath
        rw [Bool.not_eq_true', decide_eq_false_iff_not, Nat.not_le] at less
        exact .inl less
      · exact across other beneath next later

/-- Routes in their order. -/
abbrev Ordered (found : Routes) : Prop := found.Pairwise fun first second =>
  RouteBefore first.1 second.1

/-- Routes in their order are in it behind one step more. -/
theorem ordered_under (step : Step) {found : Routes} (ordered : Ordered found) :
    Ordered (under step found) := by
  rw [Ordered, under, List.pairwise_map]
  exact ordered.imp fun before => .cons before

/-- What is found in place in a member is found by a step to that member. -/
theorem step_of_mem_ownAt {row : (String × Json) × Nat} {entry : List Step × Json}
    (found : entry ∈ ownAt row) : ∃ onward, entry.1 = ⟨none, row.2⟩ :: onward := by
  rw [ownAt] at found
  split at found
  · exact ⟨[], congrArg Prod.fst (List.mem_singleton.mp found)⟩
  · split at found
    · obtain ⟨onward, -, same⟩ := mem_under.mp found
      exact ⟨onward, same⟩
    · exact absurd found List.not_mem_nil

/-- What is found in a numbered part is found by the step to it. -/
theorem step_of_mem_found {members : List (String × Json)} {part : Part}
    {entry : List Step × Json} (listed : part ∈ (routedMembers 0 members).2)
    (found : entry ∈ part.found) :
    ∃ onward, entry.1 = ⟨some part.number, part.place⟩ :: onward := by
  obtain ⟨place, name, value, -, -, rfl⟩ := mem_numbered.mp listed
  obtain ⟨onward, -, same⟩ := mem_under.mp found
  exact ⟨onward, same⟩

/-- Members stand in their places. -/
theorem zipIdx_pairwise (members : List (String × Json)) :
    members.zipIdx.Pairwise (·.2 < ·.2) := by
  have places : (members.zipIdx.map Prod.snd).Pairwise (· < ·) := by
    rw [List.zipIdx_map_snd]
    exact List.pairwise_lt_range'
  exact List.pairwise_map.mp places

/-- What is found in place is found in the order of the routes. -/
theorem ordered_own {members : List (String × Json)}
    (each : ∀ row ∈ members, Ordered (routed row.2)) :
    Ordered (routedMembers 0 members).1 := by
  rw [Ordered, routedMembers_eq, List.pairwise_flatMap]
  constructor
  · intro row listed
    have part := each row.1 (List.fst_mem_of_mem_zipIdx listed)
    rw [ownAt]
    split
    · exact List.pairwise_singleton _ _
    · split
      · exact ordered_under _ part
      · exact .nil
  · refine (zipIdx_pairwise members).imp fun earlier entry found next after => ?_
    obtain ⟨onward, first⟩ := step_of_mem_ownAt found
    obtain ⟨further, second⟩ := step_of_mem_ownAt after
    rw [first, second]
    exact .rel (.listed earlier)

/-- What is found in the numbered parts is found in the order of the routes. -/
theorem ordered_numbered {members : List (String × Json)}
    (each : ∀ row ∈ members, Ordered (routed row.2)) :
    Ordered ((sorted (routedMembers 0 members).2).flatMap Part.found) := by
  have placed : (routedMembers 0 members).2.Pairwise (·.place < ·.place) := by
    rw [routedMembers_eq, List.pairwise_filterMap]
    refine (zipIdx_pairwise members).imp fun earlier part taken next found => ?_
    rw [partAt?, Option.ite_none_right_eq_some] at taken found
    rw [← Option.some.inj taken.2, ← Option.some.inj found.2]
    exact earlier
  rw [Ordered, List.pairwise_flatMap]
  constructor
  · intro part listed
    obtain ⟨place, name, value, there, -, rfl⟩ := mem_numbered.mp (List.mem_mergeSort.mp listed)
    exact ordered_under _ (each (name, value) (List.mem_of_getElem? there))
  · refine (sorted_pairwise placed).imp_of_mem fun one other before entry found next after => ?_
    obtain ⟨onward, first⟩ := step_of_mem_found (List.mem_mergeSort.mp one) found
    obtain ⟨further, second⟩ := step_of_mem_found (List.mem_mergeSort.mp other) after
    rw [first, second]
    rcases before with less | ⟨same, earlier⟩
    · exact .rel (.ascending less _ _)
    · rw [same]
      exact .rel (.repeated _ earlier)

/-- The walk finds auxdatas in the order of their routes. -/
theorem ordered_routed (listing : Json) : Ordered (routed listing) := by
  induction listing using record_induction with
  | record members each =>
    rw [routed]
    refine List.pairwise_append.mpr ⟨ordered_own each, ordered_numbered each,
      fun entry found next after => ?_⟩
    rw [routedMembers_eq] at found
    obtain ⟨row, -, inside⟩ := List.mem_flatMap.mp found
    obtain ⟨part, listed, beneath⟩ := List.mem_flatMap.mp after
    obtain ⟨onward, first⟩ := step_of_mem_ownAt inside
    obtain ⟨further, second⟩ := step_of_mem_found (List.mem_mergeSort.mp listed) beneath
    rw [first, second]
    exact .rel (.numberedLater _ _ _)
  | other value shape =>
    rw [routed_of_no_record shape]
    exact .nil

end Attest.Assembly
