import Mathlib.Data.List.Infix
import Mathlib.Data.List.TakeWhile
import Attest.Chain.Provider

/-!
# The words for a provider and the place for its key

A provider is known by its address without the query. What a key fills in front of the query is in
these words and what it fills in the query is not (`front_fillKeys`). So the words for a provider
are the same under every key exactly if its address has no place for one in front of the query
(`wordsUnder_differ_iff`).
-/
namespace Attest.Provider

/-- The part of an address in front of its query. -/
def front (address : List Char) : List Char := address.takeWhile (· != '?')

/-- An address with a key in each place for one. -/
def filled (key : String) (template : List Char) : String :=
  String.ofList (fillKeys key.toList template.length template)

/-- The words for a provider in whose address a key is filled. -/
def wordsUnder (key : String) (template : List Char) : String :=
  describe { url := filled key template }

/-- Providers are known by the same words if their addresses are the same in front of the query. -/
theorem describe_eq_iff (one other : Provider) :
    one.describe = other.describe ↔ front one.url.toList = front other.url.toList := by
  rw [describe, describe, ← String.toList_inj]
  simp [front]

/-- The front of an address is its own front. -/
theorem front_front (address : List Char) : front (front address) = front address :=
  List.takeWhile_idem

/-- There is no query in a front. -/
theorem front_eq_self {address : List Char} (plain : '?' ∉ address) : front address = address := by
  refine List.takeWhile_eq_self_iff.mpr fun c member => ?_
  rw [bne_iff_ne]
  rintro rfl
  exact plain member

/-- No character of a front begins a query. -/
theorem not_mem_front (address : List Char) : '?' ∉ front address := by
  intro member
  have plain := List.mem_takeWhile_imp member
  simp at plain

/-- A place for a key does not begin the query. -/
theorem front_keyPlace_append (rest : List Char) :
    front (keyPlace ++ rest) = keyPlace ++ front rest :=
  List.takeWhile_append_of_pos (by simp [keyPlace])

/-- A front begins with a place for a key if the address does. -/
theorem prefix_front_iff (address : List Char) :
    keyPlace <+: front address ↔ keyPlace <+: address := by
  constructor
  · exact fun here => here.trans (List.takeWhile_prefix _)
  · rintro ⟨rest, rfl⟩
    rw [front_keyPlace_append]
    exact List.prefix_append _ _

section Filling

variable (key : List Char) (fuel : Nat)

/-- A place for a key is filled. -/
theorem fillKeys_keyPlace_append (rest : List Char) :
    fillKeys key (fuel + 1) (keyPlace ++ rest) = key ++ fillKeys key fuel rest := by
  have here : keyPlace.isPrefixOf (keyPlace ++ rest) = true :=
    List.isPrefixOf_iff_prefix.mpr (List.prefix_append _ _)
  change (if keyPlace.isPrefixOf (keyPlace ++ rest) then
    key ++ fillKeys key fuel ((keyPlace ++ rest).drop keyPlace.length) else _) = _
  rw [if_pos here, List.drop_left]

/-- A character that begins no place for a key stays. -/
theorem fillKeys_cons {c : Char} {rest : List Char} (elsewhere : ¬ keyPlace <+: c :: rest) :
    fillKeys key (fuel + 1) (c :: rest) = c :: fillKeys key fuel rest := by
  rw [fillKeys, if_neg (mt List.isPrefixOf_iff_prefix.mp elsewhere)]

/-- Of a filled address the front is that of the filled front. -/
theorem front_fillKeys (address : List Char) :
    front (fillKeys key fuel address) = front (fillKeys key fuel (front address)) := by
  induction fuel generalizing address with
  | zero =>
    have unfilled (text : List Char) : fillKeys key 0 text = text := by cases text <;> rfl
    rw [unfilled, unfilled, front_front]
  | succ fuel inductive_hypothesis =>
    by_cases here : keyPlace <+: address
    · obtain ⟨rest, rfl⟩ := here
      rw [front_keyPlace_append, fillKeys_keyPlace_append, fillKeys_keyPlace_append, front, front,
        List.takeWhile_append, List.takeWhile_append]
      have behind := inductive_hypothesis rest
      rw [front, front] at behind
      rw [behind]
    · cases address with
      | nil => rfl
      | cons c rest =>
        by_cases query : c = '?'
        · rw [fillKeys_cons key fuel here, query]
          rfl
        · have kept (text : List Char) : front (c :: text) = c :: front text := by
            simp [front, query]
          have elsewhere : ¬ keyPlace <+: c :: front rest := by
            rw [← kept]
            exact mt (prefix_front_iff _).mp here
          rw [kept, fillKeys_cons key fuel here, fillKeys_cons key fuel elsewhere, kept, kept,
            inductive_hypothesis]

/-- An address without a place for a key stays as it is. -/
theorem fillKeys_of_no_place {address : List Char} (placeless : ¬ keyPlace <:+: address) :
    fillKeys key fuel address = address := by
  induction fuel generalizing address with
  | zero => cases address <;> rfl
  | succ fuel inductive_hypothesis =>
    cases address with
    | nil => rfl
    | cons c rest =>
      rw [fillKeys_cons key fuel (mt List.IsPrefix.isInfix placeless),
        inductive_hypothesis (mt List.infix_cons placeless)]

/-- What is in a filled address is in the key or in the address. -/
theorem mem_of_mem_fillKeys {address : List Char} {c : Char}
    (member : c ∈ fillKeys key fuel address) : c ∈ key ∨ c ∈ address := by
  induction fuel generalizing address with
  | zero => cases address <;> exact .inr member
  | succ fuel inductive_hypothesis =>
    by_cases here : keyPlace <+: address
    · obtain ⟨rest, rfl⟩ := here
      rw [fillKeys_keyPlace_append] at member
      rcases List.mem_append.mp member with of_key | behind
      · exact .inl of_key
      · exact (inductive_hypothesis behind).imp_right (List.mem_append_right _)
    · cases address with
      | nil => exact .inr member
      | cons first rest =>
        rw [fillKeys_cons key fuel here] at member
        rcases List.mem_cons.mp member with rfl | behind
        · exact .inr List.mem_cons_self
        · exact (inductive_hypothesis behind).imp_right (List.mem_cons_of_mem _)

end Filling

/-- An address with a place for a key is another one under keys that begin otherwise. -/
theorem fillKeys_ne {address : List Char} {fuel : Nat} (enough : address.length ≤ fuel)
    (place : keyPlace <:+: address) {a b : Char} (other : a ≠ b) (key key' : List Char) :
    fillKeys (a :: key) fuel address ≠ fillKeys (b :: key') fuel address := by
  induction fuel generalizing address with
  | zero =>
    obtain rfl := List.eq_nil_of_length_eq_zero (Nat.le_zero.mp enough)
    exact absurd (List.infix_nil.mp place) (by decide)
  | succ fuel inductive_hypothesis =>
    by_cases here : keyPlace <+: address
    · obtain ⟨rest, rfl⟩ := here
      rw [fillKeys_keyPlace_append, fillKeys_keyPlace_append]
      exact fun same => other (List.cons.inj same).1
    · cases address with
      | nil => exact absurd (List.infix_nil.mp place) (by decide)
      | cons c rest =>
        have behind : keyPlace <:+: rest := (List.infix_cons_iff.mp place).resolve_left here
        rw [fillKeys_cons _ _ here, fillKeys_cons _ _ here]
        intro same
        exact inductive_hypothesis (Nat.le_of_succ_le_succ enough) behind (List.cons.inj same).2

/-- The words for a provider are the same under two keys if its address with one filled in is the
same in front of the query as with the other. -/
theorem wordsUnder_eq_iff (key key' : String) (template : List Char) :
    wordsUnder key template = wordsUnder key' template ↔
      front (fillKeys key.toList template.length template) =
        front (fillKeys key'.toList template.length template) := by
  rw [wordsUnder, wordsUnder, describe_eq_iff]
  simp only [filled, String.toList_ofList]

/-- The words for a provider are the same under all keys if its address has no place for one in
front of the query. -/
theorem wordsUnder_eq {template : List Char} (placeless : ¬ keyPlace <:+: front template)
    (key key' : String) : wordsUnder key template = wordsUnder key' template := by
  rw [wordsUnder_eq_iff, front_fillKeys, front_fillKeys key'.toList,
    fillKeys_of_no_place _ _ placeless, fillKeys_of_no_place _ _ placeless]

/-- The words for a provider differ under two keys exactly if its address has a place for one in
front of the query. -/
theorem wordsUnder_differ_iff (template : List Char) :
    (∃ key key' : String, key ≠ "" ∧ key' ≠ "" ∧
      wordsUnder key template ≠ wordsUnder key' template) ↔ keyPlace <:+: front template := by
  constructor
  · rintro ⟨key, key', -, -, differ⟩
    by_contra placeless
    exact differ (wordsUnder_eq placeless key key')
  · intro place
    refine ⟨"a", "b", by decide, by decide, ?_⟩
    have filled {key : List Char} (plain : '?' ∉ key) :
        front (fillKeys key template.length template) =
          fillKeys key template.length (front template) := by
      rw [front_fillKeys]
      refine front_eq_self fun member => ?_
      exact (mem_of_mem_fillKeys key _ member).elim plain (not_mem_front template)
    have shorter : (front template).length ≤ template.length := (List.takeWhile_prefix _).length_le
    have differ := fillKeys_ne shorter place (show 'a' ≠ 'b' by decide) [] []
    rw [← filled (by decide), ← filled (by decide)] at differ
    exact mt (wordsUnder_eq_iff "a" "b" template).mp differ

end Attest.Provider
