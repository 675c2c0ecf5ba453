import Attest.Text.Utf8

/-!
# Reading what was written in UTF-8

The strict reader gives back every text that is written (`Utf8.decode_encode`): the first byte of a
character's encoding tells how many follow, and each range of code points has its own form.
-/
namespace Attest.Utf8

/-- A byte between two others. -/
theorem between_iff {low high byte : UInt8} :
    (decide (low ≤ byte) && decide (byte ≤ high)) = true ↔
      low.toNat ≤ byte.toNat ∧ byte.toNat ≤ high.toNat := by
  rw [Bool.and_eq_true, decide_eq_true_eq, decide_eq_true_eq, UInt8.le_iff_toNat_le,
    UInt8.le_iff_toNat_le]

/-- A byte past a bound is not below it. -/
theorem not_lt_of_le {bound byte : UInt8} (past : bound.toNat ≤ byte.toNat) : ¬ byte < bound :=
  fun less => Nat.not_lt.mpr past (UInt8.lt_iff_toNat_lt.mp less)

/-- A byte past two others is not between them. -/
theorem not_between_of_lt {low high byte : UInt8} (past : high.toNat < byte.toNat) :
    ¬ (decide (low ≤ byte) && decide (byte ≤ high)) = true :=
  fun inside => Nat.not_lt.mpr (between_iff.mp inside).2 past

section

variable {lead second third fourth : UInt8}

/-- A byte that continues an encoding. -/
theorem continues_of (low : 0x80 ≤ second.toNat) (high : second.toNat ≤ 0xbf) :
    continues second = true :=
  between_iff.mpr ⟨low, high⟩

/-- A byte that continues an encoding follows the first of a longer one, if it makes no short form, no
surrogate and no code point past the last. -/
theorem follows_of (low : 0x80 ≤ second.toNat) (high : second.toNat ≤ 0xbf)
    (long : lead.toNat = 0xe0 → 0xa0 ≤ second.toNat)
    (longer : lead.toNat = 0xf0 → 0x90 ≤ second.toNat)
    (plain : lead.toNat = 0xed → second.toNat ≤ 0x9f)
    (inside : lead.toNat = 0xf4 → second.toNat ≤ 0x8f) : follows lead second = true := by
  have told : ∀ byte : UInt8, (lead == byte) = true ↔ lead.toNat = byte.toNat := fun byte => by
    rw [beq_iff_eq, UInt8.toNat_inj]
  simp only [follows, between_iff, told]
  constructor
  · split
    · rename_i same
      exact long same
    · split
      · rename_i same
        exact longer same
      · exact low
  · split
    · rename_i same
      exact plain same
    · split
      · rename_i same
        exact inside same
      · exact high

/-- A byte below 0x80 is a character of its own. -/
theorem first_one (low : lead.toNat < 0x80) (rest : List UInt8) :
    first lead rest = (Char.ofNat lead.toNat, 0) ∧ width lead = 1 := by
  have single : lead < 0x80 := UInt8.lt_iff_toNat_lt.mpr low
  unfold first width
  rw [if_pos single, if_pos single]
  exact ⟨rfl, rfl⟩

/-- A byte from 0xc2 to 0xdf begins two. -/
theorem first_two (low : 0xc2 ≤ lead.toNat) (high : lead.toNat ≤ 0xdf)
    (continued : continues second = true) (rest : List UInt8) :
    first lead (second :: rest) = (Char.ofNat (lead.toNat % 0x20 * 0x40 + tail second), 1) ∧
      width lead = 2 := by
  have single : ¬ lead < 0x80 := not_lt_of_le (Nat.le_trans (by decide) low)
  have two : (decide (0xc2 ≤ lead) && decide (lead ≤ 0xdf)) = true :=
    between_iff.mpr ⟨low, high⟩
  unfold first width
  rw [if_neg single, if_neg single, if_pos two, if_pos two]
  exact ⟨if_pos continued, rfl⟩

/-- A byte from 0xe0 to 0xef begins three. -/
theorem first_three (low : 0xe0 ≤ lead.toNat) (high : lead.toNat ≤ 0xef)
    (followed : follows lead second = true) (continued : continues third = true)
    (rest : List UInt8) :
    first lead (second :: third :: rest) =
        (Char.ofNat (lead.toNat % 0x10 * 0x1000 + tail second * 0x40 + tail third), 2) ∧
      width lead = 3 := by
  have single : ¬ lead < 0x80 := not_lt_of_le (Nat.le_trans (by decide) low)
  have two : ¬ (decide (0xc2 ≤ lead) && decide (lead ≤ 0xdf)) = true :=
    not_between_of_lt (Nat.lt_of_lt_of_le (by decide) low)
  have three : (decide (0xe0 ≤ lead) && decide (lead ≤ 0xef)) = true :=
    between_iff.mpr ⟨low, high⟩
  unfold first width
  rw [if_neg single, if_neg single, if_neg two, if_neg two, if_pos three, if_pos three]
  simp [followed, continued]

/-- A byte from 0xf0 to 0xf4 begins four. -/
theorem first_four (low : 0xf0 ≤ lead.toNat) (high : lead.toNat ≤ 0xf4)
    (followed : follows lead second = true) (continued : continues third = true)
    (ended : continues fourth = true) (rest : List UInt8) :
    first lead (second :: third :: fourth :: rest) =
        (Char.ofNat (lead.toNat % 0x08 * 0x40000 + tail second * 0x1000 + tail third * 0x40 +
          tail fourth), 3) ∧
      width lead = 4 := by
  have single : ¬ lead < 0x80 := not_lt_of_le (Nat.le_trans (by decide) low)
  have two : ¬ (decide (0xc2 ≤ lead) && decide (lead ≤ 0xdf)) = true :=
    not_between_of_lt (Nat.lt_of_lt_of_le (by decide) low)
  have three : ¬ (decide (0xe0 ≤ lead) && decide (lead ≤ 0xef)) = true :=
    not_between_of_lt (Nat.lt_of_lt_of_le (by decide) low)
  have four : (decide (0xf0 ≤ lead) && decide (lead ≤ 0xf4)) = true :=
    between_iff.mpr ⟨low, high⟩
  unfold first width
  rw [if_neg single, if_neg single, if_neg two, if_neg two, if_neg three, if_neg three,
    if_pos four, if_pos four]
  simp [followed, continued, ended]

end

/-- The first byte of a character's encoding and the bytes that follow it. -/
structure Spells (c : Char) (lead : UInt8) (more : List UInt8) : Prop where
  /-- They are what is written for the character. -/
  written : String.utf8EncodeChar c = lead :: more
  /-- The first byte tells how many follow. -/
  width : width lead = more.length + 1
  /-- The character is read whatever comes behind them. -/
  first : ∀ rest, first lead (more ++ rest) = (c, more.length)

/-- The code point of a character is in one of two ranges. -/
theorem toNat_bounds (c : Char) :
    c.toNat < 0xd800 ∨ 0xdfff < c.toNat ∧ c.toNat < 0x110000 := by
  have valid := c.valid
  rcases valid with low | high
  · exact .inl low
  · exact .inr high

/-- A byte stands for the number that it is made of. -/
theorem toNat_byte {number : Nat} (small : number < 256) :
    (UInt8.ofNat number).toNat = number := by
  rw [UInt8.toNat_ofNat', Nat.mod_eq_of_lt small]

/-- A byte that continues an encoding has the six bits that it is made of. -/
theorem tail_byte {number : Nat} (small : number < 64) :
    tail (UInt8.ofNat (number + 128)) = number := by
  rw [tail, toNat_byte (by omega)]
  omega

/-- Six bits make a byte that continues an encoding. -/
theorem continues_byte {number : Nat} (small : number < 64) :
    continues (UInt8.ofNat (number + 128)) = true := by
  have byte : (UInt8.ofNat (number + 128)).toNat = number + 128 := toNat_byte (by omega)
  exact continues_of (by omega) (by omega)

section

variable {c : Char}

/-- A character up to 0x7f is one byte. -/
theorem spells_one (one : c.toNat ≤ 0x7f) : Spells c (UInt8.ofNat c.toNat) [] := by
  have lead : (UInt8.ofNat c.toNat).toNat = c.toNat := toNat_byte (by omega)
  have parts := @first_one (UInt8.ofNat c.toNat) (by omega)
  refine ⟨?_, (parts []).2, fun rest => ?_⟩
  · simp [String.utf8EncodeChar, one]
  · rw [List.nil_append, (parts rest).1, lead, Char.ofNat_toNat]
    rfl

/-- A character past 0x7f and up to 0x7ff is two bytes. -/
theorem spells_two (one : ¬ c.toNat ≤ 0x7f) (two : c.toNat ≤ 0x7ff) :
    Spells c (UInt8.ofNat (c.toNat / 64 % 32 + 192)) [UInt8.ofNat (c.toNat % 64 + 128)] := by
  have lead : (UInt8.ofNat (c.toNat / 64 % 32 + 192)).toNat = c.toNat / 64 % 32 + 192 :=
    toNat_byte (by omega)
  have second : c.toNat % 64 < 64 := by omega
  have parts := first_two (show 0xc2 ≤ (UInt8.ofNat (c.toNat / 64 % 32 + 192)).toNat by omega)
    (by omega) (continues_byte second)
  refine ⟨?_, (parts []).2, fun rest => ?_⟩
  · simp [String.utf8EncodeChar, one, two]
  · refine (parts rest).1.trans ?_
    rw [lead, tail_byte second]
    refine congrArg (·, 1) (Eq.trans (congrArg Char.ofNat ?_) (Char.ofNat_toNat c))
    omega

/-- A character past 0x7ff and up to 0xffff is three bytes. -/
theorem spells_three (one : ¬ c.toNat ≤ 0x7f) (two : ¬ c.toNat ≤ 0x7ff) (three : c.toNat ≤ 0xffff) :
    Spells c (UInt8.ofNat (c.toNat / 4096 % 16 + 224))
      [UInt8.ofNat (c.toNat / 64 % 64 + 128), UInt8.ofNat (c.toNat % 64 + 128)] := by
  have bounds := toNat_bounds c
  have lead : (UInt8.ofNat (c.toNat / 4096 % 16 + 224)).toNat = c.toNat / 4096 % 16 + 224 :=
    toNat_byte (by omega)
  have middle : (UInt8.ofNat (c.toNat / 64 % 64 + 128)).toNat = c.toNat / 64 % 64 + 128 :=
    toNat_byte (by omega)
  have second : c.toNat / 64 % 64 < 64 := by omega
  have third : c.toNat % 64 < 64 := by omega
  -- Surrogates are no characters, so the second byte is one that may follow.
  have followed : follows (UInt8.ofNat (c.toNat / 4096 % 16 + 224))
      (UInt8.ofNat (c.toNat / 64 % 64 + 128)) = true :=
    follows_of (by omega) (by omega) (by omega) (by omega) (by omega) (by omega)
  have parts := first_three (by omega) (by omega) followed (continues_byte third)
  refine ⟨?_, (parts []).2, fun rest => ?_⟩
  · simp [String.utf8EncodeChar, one, two, three]
  · refine (parts rest).1.trans ?_
    rw [lead, tail_byte second, tail_byte third]
    refine congrArg (·, 2) (Eq.trans (congrArg Char.ofNat ?_) (Char.ofNat_toNat c))
    omega

/-- A character past 0xffff is four bytes. -/
theorem spells_four (one : ¬ c.toNat ≤ 0x7f) (two : ¬ c.toNat ≤ 0x7ff)
    (three : ¬ c.toNat ≤ 0xffff) :
    Spells c (UInt8.ofNat (c.toNat / 262144 % 8 + 240))
      [UInt8.ofNat (c.toNat / 4096 % 64 + 128), UInt8.ofNat (c.toNat / 64 % 64 + 128),
        UInt8.ofNat (c.toNat % 64 + 128)] := by
  have bounds := toNat_bounds c
  have lead : (UInt8.ofNat (c.toNat / 262144 % 8 + 240)).toNat = c.toNat / 262144 % 8 + 240 :=
    toNat_byte (by omega)
  have middle : (UInt8.ofNat (c.toNat / 4096 % 64 + 128)).toNat = c.toNat / 4096 % 64 + 128 :=
    toNat_byte (by omega)
  have second : c.toNat / 4096 % 64 < 64 := by omega
  have third : c.toNat / 64 % 64 < 64 := by omega
  have fourth : c.toNat % 64 < 64 := by omega
  -- No character lies past the last plane, so the second byte is one that may follow.
  have followed : follows (UInt8.ofNat (c.toNat / 262144 % 8 + 240))
      (UInt8.ofNat (c.toNat / 4096 % 64 + 128)) = true :=
    follows_of (by omega) (by omega) (by omega) (by omega) (by omega) (by omega)
  have parts := first_four (by omega) (by omega) followed (continues_byte third)
    (continues_byte fourth)
  refine ⟨?_, (parts []).2, fun rest => ?_⟩
  · simp [String.utf8EncodeChar, one, two, three]
  · refine (parts rest).1.trans ?_
    rw [lead, tail_byte second, tail_byte third, tail_byte fourth]
    refine congrArg (·, 3) (Eq.trans (congrArg Char.ofNat ?_) (Char.ofNat_toNat c))
    omega

end

/-- Every character has an encoding of one to four bytes that is read. -/
theorem exists_spells (c : Char) : ∃ lead more, Spells c lead more := by
  by_cases one : c.toNat ≤ 0x7f
  · exact ⟨_, _, spells_one one⟩
  by_cases two : c.toNat ≤ 0x7ff
  · exact ⟨_, _, spells_two one two⟩
  by_cases three : c.toNat ≤ 0xffff
  · exact ⟨_, _, spells_three one two three⟩
  · exact ⟨_, _, spells_four one two three⟩

/-- A text that is written is read. -/
theorem decode_encode (text : List Char) : decode (encode text) = .ok text := by
  have read : ∀ place, errorFrom place (encode text) = none ∧
      decodeLenient (encode text) = text := by
    induction text with
    | nil => exact fun place => ⟨by simp [encode, errorFrom], by simp [encode, decodeLenient]⟩
    | cons c rest inductive_hypothesis =>
      intro place
      obtain ⟨lead, more, spells⟩ := exists_spells c
      have whole : encode (c :: rest) = lead :: (more ++ encode rest) := by
        rw [encode, List.flatMap_cons, spells.written]
        rfl
      rw [whole, errorFrom, decodeLenient, spells.first, if_pos spells.width.symm]
      simp only [List.drop_left]
      exact ⟨(inductive_hypothesis _).1, by rw [(inductive_hypothesis 0).2]⟩
  rw [decode, (read 0).1, (read 0).2]

end Attest.Utf8
