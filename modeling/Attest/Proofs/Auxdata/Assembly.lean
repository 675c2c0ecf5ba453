import Attest.Proofs.Auxdata.Rearranged

/-!
# Auxdatas in an assembly listing, in their order

A listing gives the auxdata of each of its routes once, in the order of the routes, and the same
auxdatas with numbered parts in other places. So two listings with the same routes pair up, auxdata
by auxdata (`auxdatas_routed`).
-/
namespace Attest.Assembly

/-- Whether the numbers of all parts that are reached in a listing are plain. -/
def PlainlyNumbered (listing : Json) : Prop :=
  ∀ (route : List Step) (members : List (String × Json)),
    Reaches listing route (.record members) → ∀ row ∈ members, isNumber row.1 = true → Plain row.1

/-! ### The walk gives what its routes lead to -/

/-- What is plainly numbered has plain numbers at its root and is plainly numbered beneath it. -/
theorem plainlyNumbered_record_iff {members : List (String × Json)} :
    PlainlyNumbered (.record members) ↔
      (∀ row ∈ members, isNumber row.1 = true → Plain row.1) ∧
        ∀ row ∈ members, row.1 = ".data" ∨ isNumber row.1 = true → PlainlyNumbered row.2 := by
  constructor
  · refine fun plain => ⟨plain [] members (.here _), fun row listed taken route inner reached => ?_⟩
    obtain ⟨name, value⟩ := row
    obtain ⟨place, there⟩ := List.getElem?_of_mem listed
    rcases taken with data | numeric
    · obtain rfl : name = ".data" := data
      exact plain _ inner (.data there reached)
    · exact plain _ inner (.numbered there numeric reached)
  · rintro ⟨own, beneath⟩ route inner reached
    cases reached with
    | here => exact own
    | data named onward =>
      exact beneath _ (List.mem_of_getElem? named) (.inl rfl) _ inner onward
    | numbered named numeric onward =>
      exact beneath _ (List.mem_of_getElem? named) (.inr numeric) _ inner onward

/-- What is no record is plainly numbered. -/
theorem plainlyNumbered_of_no_record {value : Json} (shape : ∀ members, value ≠ .record members) :
    PlainlyNumbered value := by
  intro route members reached
  cases reached with
  | here => exact absurd rfl (shape members)
  | data => exact absurd rfl (shape _)
  | numbered => exact absurd rfl (shape _)

/-- The auxdatas of members are those on the routes through them, if that holds of each part. -/
theorem memberAuxdatas_eq {members : List (String × Json)} (place : Nat)
    (plain : ∀ row ∈ members, isNumber row.1 = true → Plain row.1)
    (each : ∀ row ∈ members, row.1 = ".data" ∨ isNumber row.1 = true →
      auxdatas row.2 = .ok ((routed row.2).map Prod.snd)) :
    memberAuxdatas members = .ok ((routedMembers place members).1.map Prod.snd,
      (routedMembers place members).2.map fun part => (part.number, part.found.map Prod.snd)) := by
  induction members generalizing place with
  | nil => rfl
  | cons row rest inductive_hypothesis =>
    obtain ⟨name, value⟩ := row
    have later := inductive_hypothesis (place + 1) (fun row listed => plain row (.tail _ listed))
      fun row listed => each row (.tail _ listed)
    have first := each (name, value) List.mem_cons_self
    rw [memberAuxdatas]
    refine Result.bind_eq_ok.mpr ⟨_, later, ?_⟩
    dsimp only [routedMembers]
    by_cases auxdata : name = ".auxdata"
    · rw [if_pos auxdata, if_pos auxdata]
      rfl
    · rw [if_neg auxdata, if_neg auxdata]
      by_cases data : name = ".data"
      · rw [if_pos data, if_pos data, List.map_append, map_snd_under]
        exact Result.bind_eq_ok.mpr ⟨_, first (.inl data), rfl⟩
      · rw [if_neg data, if_neg data]
        by_cases numeric : isNumber name = true
        · rw [if_pos numeric, if_pos numeric,
            readNat?_decimal numeric (plain (name, value) List.mem_cons_self numeric),
            List.map_cons, map_snd_under]
          exact Result.bind_eq_ok.mpr ⟨_, first (.inr numeric), rfl⟩
        · rw [if_neg numeric, if_neg numeric]
          rfl

/-- Lists by ascending number are those of the parts by ascending number. -/
theorem inOrder_eq (parts : List Part) :
    inOrder (parts.map fun part => (part.number, part.found.map Prod.snd)) =
      ((sorted parts).flatMap Part.found).map Prod.snd := by
  have kept : (sorted parts).map (fun part => (part.number, part.found.map Prod.snd)) =
      (parts.map fun part => (part.number, part.found.map Prod.snd)).mergeSort
        fun a b => a.1 ≤ b.1 :=
    List.map_mergeSort fun _ _ _ _ => rfl
  rw [inOrder, ← kept, List.flatMap_map, List.map_flatMap]

/-- The auxdatas of a listing are those at the ends of its routes. -/
theorem auxdatas_eq {listing : Json} (plain : PlainlyNumbered listing) :
    auxdatas listing = .ok ((routed listing).map Prod.snd) := by
  induction listing using record_induction with
  | record members each =>
    obtain ⟨own, beneath⟩ := plainlyNumbered_record_iff.mp plain
    have listed := memberAuxdatas_eq 0 own fun row listed taken =>
      each row listed (beneath row listed taken)
    rw [auxdatas]
    refine Result.bind_eq_ok.mpr ⟨_, listed, ?_⟩
    dsimp only
    rw [routed, List.map_append, inOrder_eq]
    rfl
  | other value shape =>
    rw [routed_of_no_record shape]
    cases value with
    | record members => exact absurd rfl (shape members)
    | _ => rfl

/-! ### Two listings with the same routes -/

/-- Whether two listings have their auxdatas at the ends of the same routes. -/
def SameRoutes (listing other : Json) : Prop :=
  ∀ route, (∃ auxdata, Holds listing route auxdata) ↔ ∃ auxdata, Holds other route auxdata

/-- Listings have the same routes exactly if they are walked along the same routes. -/
theorem sameRoutes_iff {listing other : Json} :
    SameRoutes listing other ↔
      (routed listing).map Prod.fst = (routed other).map Prod.fst := by
  have ordered (value : Json) : ((routed value).map Prod.fst).Pairwise RouteBefore :=
    List.pairwise_map.mpr (ordered_routed value)
  have distinct (value : Json) : ((routed value).map Prod.fst).Nodup :=
    (ordered value).imp fun {first second} before equal => by
      rw [equal] at before
      exact before.asymm before
  have listed (value : Json) (route : List Step) :
      route ∈ (routed value).map Prod.fst ↔ ∃ auxdata, Holds value route auxdata := by
    simp only [List.mem_map, Prod.exists, mem_routed_iff, exists_eq_right, exists_and_right]
  constructor
  · intro same
    have alike : ((routed listing).map Prod.fst).Perm ((routed other).map Prod.fst) := by
      rw [List.perm_ext_iff_of_nodup (distinct listing) (distinct other)]
      intro route
      rw [listed, listed]
      exact same route
    exact alike.eq_of_pairwise (fun _ _ _ _ before after => absurd after before.asymm)
      (ordered listing) (ordered other)
  · intro same route
    rw [← listed, ← listed, same]

/-- The auxdatas of listings with the same routes pair up, each with that at the end of its
route. -/
theorem paired_of_sameRoutes {listing other : Json} (same : SameRoutes listing other) :
    List.Forall₂ (fun auxdata paired => ∃ route, Holds listing route auxdata ∧
      Holds other route paired) ((routed listing).map Prod.snd) ((routed other).map Prod.snd) := by
  have routes := sameRoutes_iff.mp same
  rw [← List.forall₂_eq_eq_eq, List.forall₂_map_left_iff, List.forall₂_map_right_iff,
    List.forall₂_iff_zip] at routes
  rw [List.forall₂_map_left_iff, List.forall₂_map_right_iff, List.forall₂_iff_zip]
  refine ⟨routes.1, fun {first second} paired => ⟨first.1, ?_, ?_⟩⟩
  · exact mem_routed_iff.mp (List.of_mem_zip paired).1
  · rw [routes.2 paired]
    exact mem_routed_iff.mp (List.of_mem_zip paired).2

/-- A plainly numbered listing gives the auxdata at the end of each of its routes, once and in the
order of the routes, and gives the same with numbered parts in other places. With a listing that has
the same routes it pairs up, auxdata by auxdata, wherever the numbered parts of that one stand. -/
theorem auxdatas_routed {listing : Json} (plain : PlainlyNumbered listing) :
    ∃ found : Routes, auxdatas listing = .ok (found.map Prod.snd) ∧ Ordered found ∧
      (∀ route auxdata, (route, auxdata) ∈ found ↔ Holds listing route auxdata) ∧
      (∀ other, Reordered listing other → auxdatas other = .ok (found.map Prod.snd)) ∧
      ∀ edited other, PlainlyNumbered edited → SameRoutes listing edited →
        Reordered edited other → ∃ changed, auxdatas other = .ok changed ∧
          List.Forall₂ (fun auxdata change => ∃ route, Holds listing route auxdata ∧
            Holds edited route change) (found.map Prod.snd) changed := by
  have read := auxdatas_eq plain
  refine ⟨routed listing, read, ordered_routed listing, fun _ _ => mem_routed_iff,
    fun other reordered => ?_, fun edited other numbered same reordered => ?_⟩
  · rw [auxdatas_of_reordered reordered, read]
  · refine ⟨(routed edited).map Prod.snd, ?_, paired_of_sameRoutes same⟩
    rw [auxdatas_of_reordered reordered, auxdatas_eq numbered]

/-- A part with one auxdata. -/
def samplePart (auxdata : String) : Json := .record [(".auxdata", .text auxdata)]

/-- The members of the data in a sample. -/
def sampleData (ninth tenth : String) : List (String × Json) :=
  [("10", samplePart tenth), (".data", .null), ("9", samplePart ninth)]

/-- The same members in another order. -/
def movedData (ninth tenth : String) : List (String × Json) :=
  [("9", samplePart ninth), ("10", samplePart tenth), (".data", .null)]

/-- A listing with an auxdata that no route leads to, two in its data and one of its own. -/
def sampleListing (data : List (String × Json)) (own : String) : Json :=
  .record [(".code", samplePart "00"), (".data", .record data), (".auxdata", .text own)]

/-- The routes of a sample, the ninth part before the tenth. -/
theorem routed_sample (ninth tenth own : String) :
    routed (sampleListing (sampleData ninth tenth) own) =
      [([⟨none, 1⟩, ⟨some 9, 2⟩, ⟨none, 0⟩], .text ninth),
        ([⟨none, 1⟩, ⟨some 10, 0⟩, ⟨none, 0⟩], .text tenth), ([⟨none, 2⟩], .text own)] := by
  have names : isNumber "9" = true ∧ isNumber "10" = true ∧ isNumber ".code" = false := by
    decide +kernel
  have values : decimal "9" = 9 ∧ decimal "10" = 10 := by
    decide +kernel
  have empty : sorted [] = [] := by
    rw [sorted, List.mergeSort_nil]
  have order (first second : Part) (less : second.number < first.number) :
      sorted [first, second] = [second, first] := by
    simp [sorted, List.mergeSort, List.MergeSort.Internal.splitInTwo, less]
  simp [sampleListing, sampleData, samplePart, routed, routedMembers, empty, order, under, names,
    values]

/-- A sample is plainly numbered. -/
theorem plainlyNumbered_sample (ninth tenth own : String) :
    PlainlyNumbered (sampleListing (sampleData ninth tenth) own) := by
  have names : isNumber ".code" = false ∧ Plain "9" ∧ Plain "10" := by
    decide +kernel
  have part (auxdata : String) : PlainlyNumbered (samplePart auxdata) :=
    plainlyNumbered_record_iff.mpr ⟨by simp [isNumber_own], by simp [isNumber_own]⟩
  have data : PlainlyNumbered (.record (sampleData ninth tenth)) :=
    plainlyNumbered_record_iff.mpr ⟨by simp [sampleData, isNumber_own, names],
      by simp [sampleData, part, plainlyNumbered_of_no_record]⟩
  exact plainlyNumbered_record_iff.mpr ⟨by simp [isNumber_own, names],
    by simp [names, data, isNumber_own]⟩

/-- A sample with the numbered parts of its data in another order. -/
theorem reordered_sample (ninth tenth own : String) :
    Reordered (sampleListing (sampleData ninth tenth) own)
      (sampleListing (movedData ninth tenth) own) := by
  have names : isNumber "9" = true ∧ isNumber "10" = true ∧ Plain "9" ∧ Plain "10" ∧
      decimal "9" = 9 ∧ decimal "10" = 10 := by
    decide +kernel
  have rearranged : Rearranged (sampleData ninth tenth) (movedData ninth tenth) := {
    numbered := by simpa [sampleData, movedData, isNumber_own, names] using List.Perm.swap _ _ _
    rest := by simp [sampleData, movedData, isNumber_own, names]
    plain := by simp [sampleData, isNumber_own, names]
    different := by simp [sampleData, isNumber_own, names] }
  exact @Reordered.member [(".code", samplePart "00")] [(".auxdata", .text own)] ".data" _ _
    (by simp) (.record rearranged)

/-- A sample pairs up with one of other auxdatas, the numbered parts of which stand in another
order. -/
theorem auxdatas_of_sample :
    PlainlyNumbered (sampleListing (sampleData "a1" "a2") "a3") ∧
      auxdatas (sampleListing (sampleData "a1" "a2") "a3") =
        .ok [.text "a1", .text "a2", .text "a3"] ∧
      auxdatas (sampleListing (movedData "b1" "b2") "b3") =
        .ok [.text "b1", .text "b2", .text "b3"] ∧
      List.Forall₂ (fun auxdata change => ∃ route,
        Holds (sampleListing (sampleData "a1" "a2") "a3") route auxdata ∧
          Holds (sampleListing (sampleData "b1" "b2") "b3") route change)
        [.text "a1", .text "a2", .text "a3"] [.text "b1", .text "b2", .text "b3"] := by
  have plain (ninth tenth own : String) := plainlyNumbered_sample ninth tenth own
  have read (ninth tenth own : String) :
      auxdatas (sampleListing (sampleData ninth tenth) own) =
        .ok [.text ninth, .text tenth, .text own] := by
    rw [auxdatas_eq (plain ninth tenth own), routed_sample]
    rfl
  have same : SameRoutes (sampleListing (sampleData "a1" "a2") "a3")
      (sampleListing (sampleData "b1" "b2") "b3") :=
    sameRoutes_iff.mpr (by rw [routed_sample, routed_sample]; rfl)
  obtain ⟨found, given, -, -, -, paired⟩ := auxdatas_routed (plain "a1" "a2" "a3")
  obtain ⟨changed, moved, pairs⟩ :=
    paired _ _ (plain "b1" "b2" "b3") same (reordered_sample "b1" "b2" "b3")
  have first := Except.ok.inj (given.symm.trans (read "a1" "a2" "a3"))
  have second : changed = [.text "b1", .text "b2", .text "b3"] := by
    have kept := auxdatas_of_reordered (reordered_sample "b1" "b2" "b3")
    exact Except.ok.inj (moved.symm.trans (kept.trans (read "b1" "b2" "b3")))
  rw [second] at moved
  rw [first, second] at pairs
  exact ⟨plain _ _ _, read _ _ _, moved, pairs⟩

end Attest.Assembly
