import Attest.Text.Case

/-!
# Small letters stay small

Lowering a text a second time changes nothing (`lower_lower`), because no run of capitals holds the
small form of a capital. Runs are compared in pairs: the small forms of one run end before another
run, begin after it, or fall between the letters of another run of every second letter.
-/
namespace Attest.Text

/-- A text that lowering leaves as it is, character by character. -/
def Small (text : List Char) : Prop := ∀ c ∈ text, lowerChar c = [c]

instance (text : List Char) : Decidable (Small text) :=
  List.decidableBAll (fun c => lowerChar c = [c]) text

/-- Two small texts make a small one. -/
theorem Small.append {front back : List Char} (small : Small front) (small_back : Small back) :
    Small (front ++ back) :=
  List.forall_mem_append.mpr ⟨small, small_back⟩

/-- A run of capitals: first and last code point, step, and distance to the small letters. -/
abbrev CapitalRun := Nat × Nat × Nat × Int

namespace CapitalRun

/-- Whether a run holds a code point. -/
def Holds (run : CapitalRun) (point : Nat) : Prop :=
  run.1 ≤ point ∧ point ≤ run.2.1 ∧ (point - run.1) % run.2.2.1 = 0

/-- The small letter of a capital of a run. -/
def small (run : CapitalRun) (point : Nat) : Nat := (point + run.2.2.2).toNat

/-- Whether the small letters from one code point to another in steps miss a run. The operations are
those that evaluate at once. -/
def misses (low high step : Nat) (run : CapitalRun) : Bool :=
  Nat.blt high run.1 || (Nat.blt run.2.1 low ||
    ((Nat.beq step 2 || Nat.beq low high) && (Nat.beq run.2.2.1 2 &&
      Nat.beq ((low + run.1) % 2) 1)))

/-- Whether the small letters of a run miss a run. -/
def smallMisses (run other : CapitalRun) : Bool :=
  misses (run.small run.1) (run.small run.2.1) run.2.2.1 other

/-- A small letter is in no run that the small letters of its run miss. -/
theorem not_holds_small {run other : CapitalRun} (positive : 0 ≤ run.1 + run.2.2.2)
    (missed : run.smallMisses other = true) {point : Nat} (held : run.Holds point) :
    ¬ other.Holds (run.small point) := by
  obtain ⟨first, last, step, distance⟩ := run
  obtain ⟨low, high, stride, other⟩ := other
  simp only [smallMisses, misses, small, Bool.or_eq_true, Bool.and_eq_true, Nat.beq_eq,
    Nat.blt_eq] at missed
  simp only [Holds, small] at held positive ⊢
  rintro ⟨after, before, stepped⟩
  rcases missed with ends | begins | ⟨double | single, rfl, odd⟩
  · omega
  · omega
  · subst double
    omega
  · omega

end CapitalRun

/-- The runs of capitals with one small letter each, those of the first alphabet included. -/
def letterRuns : List CapitalRun := (0x41, 0x5a, 1, 32) :: capitalRuns

/-- All runs of capitals. The dotted I is a run of its own. -/
def allRuns : List CapitalRun := (0x130, 0x130, 1, 0) :: letterRuns

/-- The small letters of every run miss all runs. -/
theorem smallMisses_allRuns :
    (letterRuns.all fun run => allRuns.all run.smallMisses) = true := by
  decide +kernel

/-- No small letter lies before the first code point. -/
theorem small_letterRuns_nonneg : ∀ run ∈ letterRuns, 0 ≤ run.1 + run.2.2.2 := by
  decide +kernel

/-- A character made of a code point has it, or is the first character if there is no such code
point. -/
theorem toNat_ofNat_or (point : Nat) :
    (Char.ofNat point).toNat = point ∨ (Char.ofNat point).toNat = 0 := by
  by_cases valid : point.isValidChar
  · rw [show Char.ofNat point = _ from dif_pos valid]
    exact .inl rfl
  · rw [show Char.ofNat point = _ from dif_neg valid]
    exact .inr rfl

/-- The small letter of a capital of the first alphabet, by code point. -/
theorem toLower_eq (c : Char) :
    c.toLower = if 0x41 ≤ c.toNat ∧ c.toNat ≤ 0x5a then Char.ofNat (c.toNat + 32) else c := by
  have bounds : (c.val ≥ 'A'.val ∧ c.val ≤ 'Z'.val) ↔ 0x41 ≤ c.toNat ∧ c.toNat ≤ 0x5a := Iff.rfl
  by_cases capital : 0x41 ≤ c.toNat ∧ c.toNat ≤ 0x5a
  · have point : c.toLower.toNat = c.toNat + 32 := by
      have bound : c.val.toNat ≤ 0x5a := capital.2
      rw [show c.toLower = _ from dif_pos (bounds.mpr capital), Char.toNat_mk, UInt32.toNat_add]
      change (c.val.toNat + 32) % 2 ^ 32 = c.val.toNat + 32
      omega
    rw [if_pos capital, ← point, Char.ofNat_toNat]
  · rw [if_neg capital]
    exact dif_neg fun found => capital (bounds.mp found)

/-- A character in no run is small. -/
theorem lowerChar_of_not_holds {c : Char}
    (free : ∀ run ∈ allRuns, ¬ CapitalRun.Holds run c.toNat) : lowerChar c = [c] := by
  have latin := free (0x41, 0x5a, 1, 32) (by simp [allRuns, letterRuns])
  have dotted := free (0x130, 0x130, 1, 0) (by simp [allRuns])
  simp only [CapitalRun.Holds] at latin dotted
  unfold lowerChar
  by_cases first : c.toNat < 0x80
  · simp only [first, ↓reduceIte, toLower_eq]
    rw [if_neg (by omega)]
  · have other : c.toNat ≠ 0x130 := by omega
    simp only [first, other, ↓reduceIte, beq_iff_eq]
    split
    · rename_i found
      have held := List.find?_some found
      have member := List.mem_of_find?_eq_some found
      refine absurd ?_ (free _ (List.mem_cons_of_mem _ (List.mem_cons_of_mem _ member)))
      simpa [CapitalRun.Holds, and_assoc] using held
    · rfl

/-- A character is small, or the dotted I, or becomes the small letter of a run that holds it. -/
theorem lowerChar_cases (c : Char) :
    lowerChar c = [c] ∨ lowerChar c = ['i', Char.ofNat 0x307] ∨
      ∃ run ∈ letterRuns, CapitalRun.Holds run c.toNat ∧
        lowerChar c = [Char.ofNat (CapitalRun.small run c.toNat)] := by
  by_cases first : c.toNat < 0x80
  · by_cases capital : 0x41 ≤ c.toNat ∧ c.toNat ≤ 0x5a
    · right; right
      refine ⟨(0x41, 0x5a, 1, 32), by simp [letterRuns], ⟨capital.1, capital.2, ?_⟩, ?_⟩
      · exact Nat.mod_one _
      · simp only [lowerChar, first, ↓reduceIte, toLower_eq, if_pos capital]
        rfl
    · left
      simp only [lowerChar, first, ↓reduceIte, toLower_eq, if_neg capital]
  by_cases dotted : c.toNat = 0x130
  · right; left
    simp [lowerChar, dotted]
  simp only [lowerChar, first, dotted, ↓reduceIte, beq_iff_eq]
  split
  · rename_i found
    right; right
    have holds := List.find?_some found
    have member := List.mem_of_find?_eq_some found
    refine ⟨_, List.mem_cons_of_mem _ member, ?_, rfl⟩
    simpa [CapitalRun.Holds, and_assoc] using holds
  · exact .inl rfl

/-- What a character becomes is small. -/
theorem small_lowerChar (c : Char) : Small (lowerChar c) := by
  rcases lowerChar_cases c with same | dotted | ⟨run, member, held, becomes⟩
  · intro d listed
    rw [same, List.mem_singleton] at listed
    rw [listed, same]
  · rw [dotted]
    decide +kernel
  · intro d listed
    rw [becomes, List.mem_singleton] at listed
    apply lowerChar_of_not_holds
    intro other present holds
    rw [listed] at holds
    rcases toNat_ofNat_or (CapitalRun.small run c.toNat) with point | point
    · rw [point] at holds
      have missed := List.all_eq_true.mp smallMisses_allRuns run member
      exact CapitalRun.not_holds_small (small_letterRuns_nonneg run member)
        (List.all_eq_true.mp missed other present) held holds
    · have positive : ∀ run ∈ allRuns, 0 < run.1 := by decide +kernel
      have after : other.1 ≤ 0 := point ▸ holds.1
      exact absurd after (Nat.not_le.mpr (positive other present))

/-- A lowered text is small. -/
theorem small_lower (text : List Char) : Small (lower text) := by
  intro c member
  obtain ⟨d, -, listed⟩ := List.mem_flatMap.mp member
  exact small_lowerChar d c listed

/-- Lowering leaves a small text as it is. -/
theorem lower_of_small {text : List Char} (small : Small text) : lower text = text := by
  induction text with
  | nil => rfl
  | cons c rest inductive_hypothesis =>
    rw [lower, List.flatMap_cons, small c List.mem_cons_self]
    exact congrArg (c :: ·)
      (inductive_hypothesis fun d member => small d (List.mem_cons_of_mem _ member))

/-- Lowering a text a second time changes nothing. -/
theorem lower_lower (text : List Char) : lower (lower text) = lower text :=
  lower_of_small (small_lower text)

/-- The small form of the capital dotted I has two characters, and is the only one that does. -/
theorem lowerChar_eq_singleton {c : Char} (plain : c.toNat ≠ 0x130) : ∃ d, lowerChar c = [d] := by
  unfold lowerChar
  simp only [beq_iff_eq, plain, ↓reduceIte]
  split
  · exact ⟨_, rfl⟩
  · split <;> exact ⟨_, rfl⟩

/-- No character vanishes. -/
theorem lowerChar_ne_nil (c : Char) : lowerChar c ≠ [] := by
  rcases lowerChar_cases c with same | dotted | ⟨run, -, -, becomes⟩
  · rw [same]
    exact List.cons_ne_nil c []
  · rw [dotted]
    exact List.cons_ne_nil 'i' _
  · rw [becomes]
    exact List.cons_ne_nil _ []

/-- Only the empty text becomes empty. -/
theorem lower_eq_nil_iff {text : List Char} : lower text = [] ↔ text = [] := by
  cases text with
  | nil => exact Iff.rfl
  | cons c rest =>
    rw [lower, List.flatMap_cons, List.append_eq_nil_iff]
    exact iff_of_false (fun both => lowerChar_ne_nil c both.1) (List.cons_ne_nil c rest)

/-- A lowered text is no shorter. -/
theorem length_le_lower (text : List Char) : text.length ≤ (lower text).length := by
  induction text with
  | nil => exact Nat.le_refl 0
  | cons c rest inductive_hypothesis =>
    have kept := List.length_pos_iff.mpr (lowerChar_ne_nil c)
    rw [lower, List.flatMap_cons, List.length_append, List.length_cons]
    rw [lower] at inductive_hypothesis
    omega

/-- A character that is small is not the capital dotted I. -/
theorem toNat_ne_of_small {c : Char} (small : lowerChar c = [c]) : c.toNat ≠ 0x130 := by
  intro dotted
  simp [lowerChar, dotted] at small

/-- Lowering a text without a capital dotted I lowers character for character. -/
theorem map_lower {text : List Char} (plain : ∀ c ∈ text, c.toNat ≠ 0x130) :
    (lower text).map (fun c => [c]) = text.map lowerChar := by
  induction text with
  | nil => rfl
  | cons c rest inductive_hypothesis =>
    obtain ⟨d, single⟩ := lowerChar_eq_singleton (plain c List.mem_cons_self)
    have later := inductive_hypothesis fun e member => plain e (List.mem_cons_of_mem _ member)
    rw [List.map_cons, ← later, lower, List.flatMap_cons, single]
    rfl

end Attest.Text
