import Attest.Abi.TypeName
import Attest.Proofs.Abi.Encoding
import Mathlib.Data.List.TakeWhile
import Mathlib.Data.Option.Basic

/-!
# Reading the names of types

A text within the grammar of names stays there when its words are expanded
(`TypeName.exists_of_expand`). A name is read from the front of a text, so that the induction that
follows it speaks of texts whose rest begins where a name may end (`Ends`). A word is all letters and
numbers of a name (`IsCore`), and is expanded to others apart from what stands around it.
-/
namespace Attest

namespace TypeName

/-- A text that begins with no character of a kind. -/
def Apart (kind : Char → Bool) (text : List Char) : Prop := ∀ c ∈ text.head?, kind c = false

section

variable {kind : Char → Bool} {word rest : List Char}

/-- The characters of a kind at the front of a text end where it goes on with another. -/
theorem takeWhile_append_apart (each : ∀ c ∈ word, kind c = true) (apart : Apart kind rest) :
    (word ++ rest).takeWhile kind = word ∧ (word ++ rest).dropWhile kind = rest := by
  rw [List.takeWhile_append_of_pos each, List.dropWhile_append_of_pos each]
  cases rest with
  | nil => simp
  | cons c behind =>
    have other := apart c rfl
    simp [other]

/-- What is left behind the characters of a kind begins with another. -/
theorem apart_dropWhile (text : List Char) : Apart kind (text.dropWhile kind) := by
  intro c first
  have other := List.head?_dropWhile_not kind text
  rw [Option.mem_def] at first
  rw [first] at other
  simpa using other

end

/-- Digits that are read as a number wherever no further digit follows. -/
def IsNumeral (digits : List Char) (number : Nat) : Prop :=
  (∀ c ∈ digits, isDigit c = true) ∧ digits ≠ [] ∧ 0 < number ∧
    ∀ rest, Apart isDigit rest → readNumber? (digits ++ rest) = some (number, rest)

/-- Further digits make a number no smaller. -/
theorem le_foldl_digits (digits : List Char) (value : Nat) :
    value ≤ digits.foldl (fun value c => 10 * value + (c.toNat - '0'.toNat)) value := by
  induction digits generalizing value with
  | nil => exact Nat.le_refl _
  | cons c rest inductive_hypothesis =>
    have least : value ≤ 10 * value + (c.toNat - '0'.toNat) := by omega
    exact Nat.le_trans least (inductive_hypothesis _)

/-- A number that is read from the front of a text is a numeral there. -/
theorem numeral_of_readNumber? {source rest : List Char} {number : Nat}
    (read : readNumber? source = some (number, rest)) :
    ∃ digits, source = digits ++ rest ∧ IsNumeral digits number ∧ Apart isDigit rest := by
  cases source with
  | nil => contradiction
  | cons first behind =>
    simp only [readNumber?] at read
    split at read
    · rename_i digit
      simp only [Option.some.injEq, Prod.mk.injEq] at read
      obtain ⟨rfl, rfl⟩ := read
      have bounds : '1'.toNat ≤ first.toNat ∧ first.toNat ≤ '9'.toNat := by
        rw [Bool.and_eq_true, decide_eq_true_eq, decide_eq_true_eq] at digit
        exact digit
      have zero : '0'.toNat = 48 := rfl
      have one : '1'.toNat = 49 := rfl
      refine ⟨first :: behind.takeWhile isDigit, ?_, ⟨?_, List.cons_ne_nil _ _, ?_, ?_⟩,
        apart_dropWhile behind⟩
      · rw [List.cons_append, List.takeWhile_append_dropWhile]
      · refine List.forall_mem_cons.mpr ⟨?_, fun c member => List.mem_takeWhile_imp member⟩
        have low : '0'.toNat ≤ first.toNat := by omega
        rw [isDigit, Bool.and_eq_true, decide_eq_true_eq, decide_eq_true_eq]
        exact ⟨low, bounds.2⟩
      · rw [List.foldl_cons]
        exact Nat.lt_of_lt_of_le (by omega) (le_foldl_digits _ _)
      · intro rest apart
        obtain ⟨taken, dropped⟩ := takeWhile_append_apart
          (fun c (member : c ∈ behind.takeWhile isDigit) => List.mem_takeWhile_imp member) apart
        rw [List.cons_append, readNumber?, if_pos digit, taken, dropped]
    · contradiction

/-- Letters and numbers that are read as the core of a name wherever no word goes on behind them. -/
def IsCore (word letters : List Char) (size : TypeSize) : Prop :=
  (∀ c ∈ word, isWordChar c = true) ∧ letters ≠ [] ∧ ∀ rest, Apart isWordChar rest →
    (word ++ rest).takeWhile isLetter = letters ∧
      readSize ((word ++ rest).dropWhile isLetter) = (size, rest)

/-- A letter is a character of a word. -/
theorem isWordChar_of_isLetter {c : Char} (letter : isLetter c = true) : isWordChar c = true := by
  rw [isWordChar, letter, Bool.true_or]

/-- A digit is a character of a word. -/
theorem isWordChar_of_isDigit {c : Char} (digit : isDigit c = true) : isWordChar c = true := by
  rw [isWordChar, digit, Bool.or_true]

/-- A text that begins no word begins with no letter and no digit. -/
theorem Apart.letter_digit {text : List Char} (apart : Apart isWordChar text) :
    Apart isLetter text ∧ Apart isDigit text := by
  constructor
  · intro c first
    exact Bool.eq_false_iff.mpr fun letter =>
      Bool.eq_false_iff.mp (apart c first) (isWordChar_of_isLetter letter)
  · intro c first
    exact Bool.eq_false_iff.mpr fun digit =>
      Bool.eq_false_iff.mp (apart c first) (isWordChar_of_isDigit digit)

/-- A text that begins no word begins with no number. -/
theorem readNumber?_of_apart {text : List Char} (apart : Apart isDigit text) :
    readNumber? text = none := by
  cases read : readNumber? text with
  | none => rfl
  | some parts =>
    obtain ⟨digits, rfl, ⟨each, filled, -, -⟩, -⟩ := numeral_of_readNumber? read
    obtain ⟨first, more, rfl⟩ := List.exists_cons_of_ne_nil filled
    have other := apart first rfl
    rw [each first List.mem_cons_self] at other
    contradiction

/-- A number with the letter between two numbers behind it is the first of two if another follows. -/
theorem readSize_of_letter {source behind : List Char} {number : Nat}
    (read : readNumber? source = some (number, 'x' :: behind)) :
    readSize source = match readNumber? behind with
      | none => (.one number, 'x' :: behind)
      | some (second, rest) => (.two number second, rest) := by
  rw [readSize, read]
  rfl

/-- A number without that letter behind it stands alone. -/
theorem readSize_of_other {source rest : List Char} {number : Nat}
    (read : readNumber? source = some (number, rest)) (other : ∀ more, rest ≠ 'x' :: more) :
    readSize source = (.one number, rest) := by
  rw [readSize, read]
  split
  · contradiction
  · rename_i same
    obtain ⟨-, rfl⟩ := Prod.mk.inj (Option.some.inj same)
    exact absurd rfl (other _)
  · rename_i same
    obtain ⟨rfl, rfl⟩ := Prod.mk.inj (Option.some.inj same)
    rfl

/-- What begins no word does not go on with the letter between two numbers. -/
theorem Apart.ne_letter {rest : List Char} (apart : Apart isWordChar rest) (more : List Char) :
    rest ≠ 'x' :: more := by
  rintro rfl
  have other := apart 'x' rfl
  contradiction

/-- A size that is read from the front of a text where no word goes on behind it is read wherever none
does. -/
theorem size_of_readSize {source bare : List Char} {size : TypeSize}
    (read : readSize source = (size, bare)) (apart : Apart isWordChar bare) :
    ∃ text, source = text ++ bare ∧ (∀ c ∈ text, isWordChar c = true) ∧
      ∀ rest, Apart isWordChar rest → readSize (text ++ rest) = (size, rest) := by
  cases first : readNumber? source with
  | none =>
    rw [readSize, first] at read
    obtain ⟨rfl, rfl⟩ := Prod.mk.inj read
    refine ⟨[], rfl, by simp, fun rest apart => ?_⟩
    rw [List.nil_append, readSize, readNumber?_of_apart apart.letter_digit.2]
  | some parts =>
    obtain ⟨number, behind⟩ := parts
    obtain ⟨digits, rfl, numeral, -⟩ := numeral_of_readNumber? first
    have word_digits : ∀ c ∈ digits, isWordChar c = true :=
      fun c member => isWordChar_of_isDigit (numeral.1 c member)
    by_cases pair : ∃ more, behind = 'x' :: more
    · obtain ⟨more, rfl⟩ := pair
      rw [readSize_of_letter first] at read
      cases second : readNumber? more with
      | none =>
        rw [second] at read
        obtain ⟨-, rfl⟩ := Prod.mk.inj read
        exact absurd rfl (apart.ne_letter more)
      | some parts =>
        rw [second] at read
        obtain ⟨rfl, rfl⟩ := Prod.mk.inj read
        obtain ⟨further, rfl, following, -⟩ := numeral_of_readNumber? second
        refine ⟨digits ++ 'x' :: further, by simp, ?_, fun rest apart => ?_⟩
        · intro c member
          rcases List.mem_append.mp member with front | back
          · exact word_digits c front
          · rcases List.mem_cons.mp back with rfl | back
            · rfl
            · exact isWordChar_of_isDigit (following.1 c back)
        · have letter : Apart isDigit ('x' :: (further ++ rest)) := by
            rintro c ⟨⟩
            rfl
          rw [List.append_assoc, List.cons_append, readSize_of_letter (numeral.2.2.2 _ letter),
            following.2.2.2 _ apart.letter_digit.2]
    · have alone := readSize_of_other first fun more same => pair ⟨more, same⟩
      obtain ⟨rfl, rfl⟩ := Prod.mk.inj (alone.symm.trans read)
      refine ⟨digits, rfl, word_digits, fun rest apart => ?_⟩
      exact readSize_of_other (numeral.2.2.2 _ apart.letter_digit.2) apart.ne_letter

/-- Letters and a size that are read from the front of a text where no word goes on behind them are the
core of a name. -/
theorem core_of_readSize {source bare : List Char} {size : TypeSize}
    (filled : source.takeWhile isLetter ≠ [])
    (read : readSize (source.dropWhile isLetter) = (size, bare))
    (apart : Apart isWordChar bare) :
    ∃ word, source = word ++ bare ∧ IsCore word (source.takeWhile isLetter) size := by
  obtain ⟨text, parts, word_text, reads⟩ := size_of_readSize read apart
  have letters : ∀ c ∈ source.takeWhile isLetter, isLetter c = true :=
    fun c member => List.mem_takeWhile_imp member
  refine ⟨source.takeWhile isLetter ++ text, ?_, ?_, filled, fun rest apart => ?_⟩
  · rw [List.append_assoc, ← parts, List.takeWhile_append_dropWhile]
  · intro c member
    rcases List.mem_append.mp member with front | back
    · exact isWordChar_of_isLetter (letters c front)
    · exact word_text c back
  · have ends : Apart isLetter (text ++ rest) := by
      cases text with
      | nil => exact apart.letter_digit.1
      | cons first more =>
        have other : Apart isLetter (source.dropWhile isLetter) := apart_dropWhile source
        rw [parts] at other
        exact other
    obtain ⟨taken, dropped⟩ := takeWhile_append_apart letters ends
    rw [List.append_assoc, taken, dropped]
    exact ⟨rfl, reads rest apart⟩

/-- A text that begins with a character that is in no word. -/
theorem apart_cons {kind : Char → Bool} {c : Char} {rest : List Char} (other : kind c = false) :
    Apart kind (c :: rest) := by
  rintro _ ⟨⟩
  exact other

/-- Where a name may end: at the end of the text, or before a comma or a closing bracket. -/
inductive Ends : List Char → Prop
  | nil : Ends []
  | comma {rest : List Char} : Ends (',' :: rest)
  | bracket {rest : List Char} : Ends (')' :: rest)

section

variable {total fuel : Nat} {source rest : List Char}

/-- The sizes of arrays where there is no list and no array. -/
theorem readArrays_of_ends (ends : Ends source) : readArrays fuel source = ([], source) := by
  cases fuel <;> cases ends <;> rfl

/-- The sizes of arrays behind those of a list. -/
theorem readArrays_list : readArrays (fuel + 1) ('[' :: ']' :: source) =
    (none :: (readArrays fuel source).1, (readArrays fuel source).2) := by
  rw [readArrays, if_pos rfl]

/-- The sizes of arrays behind that of an array. -/
theorem readArrays_array {digits : List Char} {size : Nat} (numeral : IsNumeral digits size) :
    readArrays (fuel + 1) ('[' :: (digits ++ ']' :: source)) =
      (some size :: (readArrays fuel source).1, (readArrays fuel source).2) := by
  have read := numeral.2.2.2 (']' :: source) (apart_cons rfl)
  rw [readArrays, if_pos rfl]
  · rw [read]
    rfl
  · rintro _ - same -
    obtain ⟨each, filled, -⟩ := numeral
    obtain ⟨first, more, rfl⟩ := List.exists_cons_of_ne_nil filled
    obtain ⟨rfl, -⟩ := List.cons.inj same
    exact absurd (each _ List.mem_cons_self) (by decide)

/-- The sizes of arrays that are read are none, or one and those behind it. -/
theorem readArrays_cases {arrays : List (Option Nat)}
    (read : readArrays (fuel + 1) source = (arrays, rest)) :
    (source = rest ∧ arrays = []) ∨
      (∃ behind, source = '[' :: ']' :: behind ∧
        ∃ more, readArrays fuel behind = (more, rest) ∧ arrays = none :: more) ∨
      ∃ digits size behind, source = '[' :: (digits ++ ']' :: behind) ∧ IsNumeral digits size ∧
        ∃ more, readArrays fuel behind = (more, rest) ∧ arrays = some size :: more := by
  cases source with
  | nil =>
    obtain ⟨rfl, rfl⟩ := Prod.mk.inj read
    exact .inl ⟨rfl, rfl⟩
  | cons first behind =>
    by_cases opens : first = '['
    · subst opens
      by_cases closed : ∃ more, behind = ']' :: more
      · obtain ⟨more, rfl⟩ := closed
        rw [readArrays_list] at read
        obtain ⟨rfl, rfl⟩ := Prod.mk.inj read
        exact .inr (.inl ⟨more, rfl, _, rfl, rfl⟩)
      · rw [readArrays, if_pos rfl] at read
        · split at read
          · rename_i size more number
            obtain ⟨rfl, rfl⟩ := Prod.mk.inj read
            obtain ⟨digits, rfl, numeral, -⟩ := numeral_of_readNumber? number
            exact .inr (.inr ⟨digits, size, more, rfl, numeral, _, rfl, rfl⟩)
          · obtain ⟨rfl, rfl⟩ := Prod.mk.inj read
            exact .inl ⟨rfl, rfl⟩
        · rintro more - same -
          exact closed ⟨more, same⟩
    · rw [readArrays.eq_def] at read
      dsimp only at read
      rw [if_neg opens] at read
      obtain ⟨rfl, rfl⟩ := Prod.mk.inj read
      exact .inl ⟨rfl, rfl⟩

/-- Where a name may end no word goes on. -/
theorem Ends.apart (ends : Ends source) : Apart isWordChar source := by
  cases ends with
  | nil => nofun
  | comma | bracket => exact apart_cons rfl

/-- What the sizes of arrays are read from up to where a name may end begins with no word. -/
theorem apart_of_readArrays {arrays : List (Option Nat)}
    (read : readArrays fuel source = (arrays, rest)) (ends : Ends rest) :
    Apart isWordChar source := by
  cases fuel with
  | zero =>
    obtain ⟨-, rfl⟩ := Prod.mk.inj read
    exact ends.apart
  | succ fuel =>
    rcases readArrays_cases read with ⟨rfl, -⟩ | ⟨_, rfl, -⟩ | ⟨_, _, _, rfl, -⟩
    · exact ends.apart
    · exact apart_cons rfl
    · exact apart_cons rfl

/-- Names in brackets are read one after another, and then their arrays. -/
theorem read_bracket_eq_some {name : TypeName} :
    read total (fuel + 1) ('(' :: source) = some (name, rest) ↔
      ∃ first behind, read total fuel source = some (first, behind) ∧
        ∃ more bare, readMore total fuel behind = some (more, bare) ∧
          ∃ arrays, readArrays bare.length bare = (arrays, rest) ∧
            name = .tuple (first :: more) arrays := by
  simp only [read, Option.bind_eq_bind, Option.bind_eq_some_iff, Option.pure_def,
    Option.some.injEq, Prod.mk.injEq, Prod.exists]
  constructor
  · rintro ⟨first, behind, head, more, bare, others, rfl, rfl⟩
    exact ⟨first, behind, head, more, bare, others, _, rfl, rfl⟩
  · rintro ⟨first, behind, head, more, bare, others, arrays, sizes, rfl⟩
    exact ⟨first, behind, head, more, bare, others, by rw [sizes], by rw [sizes]⟩

/-- Letters are read with their size and arrays. -/
theorem read_letters_eq_some {name : TypeName} (other : ∀ behind, source ≠ '(' :: behind) :
    read total (fuel + 1) source = some (name, rest) ↔
      source.takeWhile isLetter ≠ [] ∧
        ∃ size bare, readSize (source.dropWhile isLetter) = (size, bare) ∧
          ∃ arrays, readArrays bare.length bare = (arrays, rest) ∧
            name = .basic (source.takeWhile isLetter) size (upTo source bare) (upTo source rest)
              (total - source.length + 1) arrays := by
  rw [read]
  · simp only [Option.bind_eq_bind, Option.bind_eq_some_iff, Option.pure_def,
      Option.some.injEq, Prod.mk.injEq, Option.guard_eq_some', Bool.not_eq_true',
      List.isEmpty_eq_false_iff]
    constructor
    · rintro ⟨_, filled, rfl, rfl⟩
      exact ⟨filled, _, _, rfl, _, rfl, rfl⟩
    · rintro ⟨filled, size, bare, core, arrays, sizes, rfl⟩
      exact ⟨(), filled, by rw [core, sizes], by rw [core, sizes]⟩
  · exact other

/-- Further names are read while commas stand before them. -/
theorem readMore_comma_eq_some {names : List TypeName} :
    readMore total (fuel + 1) (',' :: source) = some (names, rest) ↔
      ∃ next behind, read total fuel source = some (next, behind) ∧
        ∃ more, readMore total fuel behind = some (more, rest) ∧ names = next :: more := by
  simp only [readMore, Option.bind_eq_bind, Option.bind_eq_some_iff, Option.pure_def,
    Option.some.injEq, Prod.mk.injEq, Prod.exists]
  constructor
  · rintro ⟨next, behind, head, more, _, others, rfl, rfl⟩
    exact ⟨next, behind, head, more, others, rfl⟩
  · rintro ⟨next, behind, head, more, others, rfl⟩
    exact ⟨next, behind, head, more, rest, others, rfl, rfl⟩

/-- Where further names are read, the one before them may end. -/
theorem ends_of_readMore {names : List TypeName}
    (read : readMore total fuel source = some (names, rest)) : Ends source := by
  cases fuel with
  | zero => contradiction
  | succ fuel =>
    rw [readMore.eq_def] at read
    split at read
    · contradiction
    · exact .comma
    · exact .bracket
    · contradiction

/-- What begins with a letter begins with no bracket. -/
theorem ne_bracket (filled : source.takeWhile isLetter ≠ []) (behind : List Char) :
    source ≠ '(' :: behind := by
  rintro rfl
  exact filled rfl

end

section

/-- A word that stands for a longer name is that name. -/
theorem expandWord_cases (word : List Char) :
    expandWord word = word ∨
      ∃ row ∈ shorthands, row.1.toList = word ∧ expandWord word = row.2.toList := by
  rw [expandWord]
  split
  · rename_i row found
    exact .inr ⟨row, List.mem_of_find?_eq_some found, by simpa using List.find?_some found, rfl⟩
  · exact .inl rfl

/-- A word and a text where no word goes on are expanded apart. -/
theorem expandFrom_append {word rest : List Char} (each : ∀ c ∈ word, isWordChar c = true)
    (apart : Apart isWordChar rest) (before : List Char) :
    expandFrom before (word ++ rest) = expandWord (before.reverse ++ word) ++ expand rest := by
  induction word generalizing before with
  | nil =>
    rw [List.nil_append, List.append_nil]
    cases rest with
    | nil => exact (List.append_nil _).symm
    | cons c behind =>
      rw [expand, expandFrom, expandFrom, if_neg (by rw [apart c rfl]; decide),
        if_neg (by rw [apart c rfl]; decide)]
      rfl
  | cons c word inductive_hypothesis =>
    rw [List.cons_append, expandFrom, if_pos (each c List.mem_cons_self),
      inductive_hypothesis fun c member => each c (.tail _ member)]
    simp

/-- A word at the front of a text is expanded apart from what stands behind it. -/
theorem expand_append {word rest : List Char} (each : ∀ c ∈ word, isWordChar c = true)
    (apart : Apart isWordChar rest) : expand (word ++ rest) = expandWord word ++ expand rest :=
  expandFrom_append each apart []

/-- A character that is in no word stays where it is. -/
theorem expand_cons {c : Char} {rest : List Char} (other : isWordChar c = false) :
    expand (c :: rest) = c :: expand rest := by
  rw [expand, expandFrom, if_neg (by rw [other]; decide)]
  rfl

/-- A text that begins no word begins none when its words are expanded. -/
theorem apart_expand {text : List Char} (apart : Apart isWordChar text) :
    Apart isWordChar (expand text) := by
  cases text with
  | nil => exact apart
  | cons c rest =>
    rw [expand_cons (apart c rfl)]
    exact apart_cons (apart c rfl)

/-- No word is expanded where a name may end. -/
theorem Ends.expanded {text : List Char} (ends : Ends text) : Ends (expand text) := by
  cases ends with
  | nil => exact .nil
  | comma =>
    rw [expand_cons rfl]
    exact .comma
  | bracket =>
    rw [expand_cons rfl]
    exact .bracket

/-- A number stands for no longer name. -/
theorem IsNumeral.expandWord_eq {digits : List Char} {number : Nat}
    (numeral : IsNumeral digits number) : expandWord digits = digits := by
  rcases expandWord_cases digits with same | ⟨row, member, rfl, -⟩
  · exact same
  · have letter : ∀ row ∈ shorthands, (row.1.toList.any fun c => !isDigit c) = true := by decide
    obtain ⟨c, inside, other⟩ := List.any_eq_true.mp (letter row member)
    rw [numeral.1 c inside] at other
    contradiction

/-- The longer names are cores of names. -/
theorem isCore_of_mem_shorthands : ∀ row ∈ shorthands, ∃ letters size,
    IsCore row.2.toList letters size := by
  intro row member
  have filled : ∀ row ∈ shorthands, row.2.toList.takeWhile isLetter ≠ [] := by decide
  have whole : ∀ row ∈ shorthands, (readSize (row.2.toList.dropWhile isLetter)).2 = [] := by decide
  have read : readSize (row.2.toList.dropWhile isLetter) =
      ((readSize (row.2.toList.dropWhile isLetter)).1, []) := Prod.ext rfl (whole row member)
  obtain ⟨word, parts, core⟩ := core_of_readSize (filled row member) read Ends.nil.apart
  rw [List.append_nil] at parts
  rw [← parts] at core
  exact ⟨_, _, core⟩

/-- The core of a name is expanded to one. -/
theorem IsCore.expanded {word letters : List Char} {size : TypeSize}
    (core : IsCore word letters size) : ∃ letters size, IsCore (expandWord word) letters size := by
  rcases expandWord_cases word with same | ⟨row, member, -, long⟩
  · rw [same]
    exact ⟨letters, size, core⟩
  · rw [long]
    exact isCore_of_mem_shorthands row member

/-- The sizes of arrays up to where a name may end are read from the expanded text as well. -/
theorem readArrays_expand {fuel : Nat} {source rest : List Char} {arrays : List (Option Nat)}
    (read : readArrays fuel source = (arrays, rest)) (enough : source.length ≤ fuel)
    (ends : Ends rest) : (expand rest).length ≤ (expand source).length ∧
      ∀ fuel, (expand source).length ≤ fuel →
        readArrays fuel (expand source) = (arrays, expand rest) := by
  induction fuel generalizing source arrays with
  | zero =>
    obtain rfl := List.length_eq_zero_iff.mp (Nat.le_zero.mp enough)
    obtain ⟨rfl, rfl⟩ := Prod.mk.inj read
    exact ⟨Nat.le_refl _, fun fuel _ => readArrays_of_ends ends.expanded⟩
  | succ fuel inductive_hypothesis =>
    rcases readArrays_cases read with
      ⟨rfl, rfl⟩ | ⟨behind, rfl, more, later, rfl⟩ |
        ⟨digits, size, behind, rfl, numeral, more, later, rfl⟩
    · exact ⟨Nat.le_refl _, fun fuel _ => readArrays_of_ends ends.expanded⟩
    · simp only [List.length_cons] at enough
      obtain ⟨shorter, reads⟩ := inductive_hypothesis later (by omega)
      rw [expand_cons rfl, expand_cons rfl]
      simp only [List.length_cons]
      refine ⟨by omega, fun fuel most => ?_⟩
      obtain ⟨fuel, rfl⟩ := Nat.exists_eq_add_one_of_ne_zero (n := fuel) (by omega)
      rw [readArrays_list, reads fuel (by omega)]
    · simp only [List.length_cons, List.length_append] at enough
      obtain ⟨shorter, reads⟩ := inductive_hypothesis later (by omega)
      have each : ∀ c ∈ digits, isWordChar c = true :=
        fun c member => isWordChar_of_isDigit (numeral.1 c member)
      rw [expand_cons rfl, expand_append each (apart_cons rfl), numeral.expandWord_eq,
        expand_cons rfl]
      simp only [List.length_cons, List.length_append]
      refine ⟨by omega, fun fuel most => ?_⟩
      obtain ⟨fuel, rfl⟩ := Nat.exists_eq_add_one_of_ne_zero (n := fuel) (by omega)
      rw [readArrays_array numeral, reads fuel (by omega)]

/-- A core of a name is read with the arrays behind it. -/
theorem IsCore.read_eq {total fuel : Nat} {word letters bare rest : List Char} {size : TypeSize}
    {arrays : List (Option Nat)} (core : IsCore word letters size) (apart : Apart isWordChar bare)
    (sizes : readArrays bare.length bare = (arrays, rest)) :
    ∃ name, read total (fuel + 1) (word ++ bare) = some (name, rest) := by
  obtain ⟨-, filled, reads⟩ := core
  obtain ⟨taken, sized⟩ := reads bare apart
  rw [← taken] at filled
  exact ⟨_, (read_letters_eq_some (ne_bracket filled)).mpr
    ⟨filled, size, bare, sized, arrays, sizes, rfl⟩⟩

/-- One of the readers of names leaves the same rest of a text once words are expanded in both, for
which its steps need only be more than the expanded text is long. -/
def ReadsExpanded {α : Type} (reader : Nat → Nat → List Char → Option (α × List Char))
    (source rest : List Char) : Prop :=
  (expand rest).length ≤ (expand source).length ∧
    ∀ total fuel, (expand source).length < fuel →
      ∃ result, reader total fuel (expand source) = some (result, expand rest)

/-- A tuple is read from the expanded text as well. -/
theorem ReadsExpanded.bracket {source behind bare rest : List Char} {arrays : List (Option Nat)}
    (head : ReadsExpanded read source behind) (others : ReadsExpanded readMore behind bare)
    (sizes : readArrays bare.length bare = (arrays, rest)) (ends : Ends rest) :
    ReadsExpanded read ('(' :: source) rest := by
  obtain ⟨shorter_head, reads_head⟩ := head
  obtain ⟨shorter_others, reads_others⟩ := others
  obtain ⟨shorter_sizes, reads_sizes⟩ := readArrays_expand sizes (Nat.le_refl _) ends
  rw [ReadsExpanded, expand_cons rfl]
  simp only [List.length_cons]
  refine ⟨by omega, fun total fuel most => ?_⟩
  obtain ⟨fuel, rfl⟩ := Nat.exists_eq_add_one_of_ne_zero (n := fuel) (by omega)
  obtain ⟨first, head⟩ := reads_head total fuel (by omega)
  obtain ⟨more, others⟩ := reads_others total fuel (by omega)
  exact ⟨_, read_bracket_eq_some.mpr
    ⟨first, _, head, more, _, others, _, reads_sizes _ (Nat.le_refl _), rfl⟩⟩

/-- A core is read from the expanded text as well, with the arrays behind it. -/
theorem IsCore.readsExpanded {word letters bare rest : List Char} {size : TypeSize}
    {arrays : List (Option Nat)} (core : IsCore word letters size)
    (sizes : readArrays bare.length bare = (arrays, rest)) (ends : Ends rest) :
    ReadsExpanded read (word ++ bare) rest := by
  have apart := apart_of_readArrays sizes ends
  obtain ⟨shorter, reads⟩ := readArrays_expand sizes (Nat.le_refl _) ends
  obtain ⟨letters, long_size, long⟩ := core.expanded
  rw [ReadsExpanded, expand_append core.1 apart, List.length_append]
  refine ⟨by omega, fun total fuel most => ?_⟩
  obtain ⟨fuel, rfl⟩ := Nat.exists_eq_add_one_of_ne_zero (n := fuel) (by omega)
  exact long.read_eq (apart_expand apart) (reads _ (Nat.le_refl _))

/-- A further name is read from the expanded text as well, with those behind it. -/
theorem ReadsExpanded.comma {source behind rest : List Char}
    (head : ReadsExpanded read source behind) (others : ReadsExpanded readMore behind rest) :
    ReadsExpanded readMore (',' :: source) rest := by
  obtain ⟨shorter_head, reads_head⟩ := head
  obtain ⟨shorter_others, reads_others⟩ := others
  rw [ReadsExpanded, expand_cons rfl]
  simp only [List.length_cons]
  refine ⟨by omega, fun total fuel most => ?_⟩
  obtain ⟨fuel, rfl⟩ := Nat.exists_eq_add_one_of_ne_zero (n := fuel) (by omega)
  obtain ⟨next, head⟩ := reads_head total fuel (by omega)
  obtain ⟨more, others⟩ := reads_others total fuel (by omega)
  exact ⟨_, readMore_comma_eq_some.mpr ⟨next, _, head, more, others, rfl⟩⟩

/-- The end of the further names of a tuple is read from the expanded text as well. -/
theorem readsExpanded_close (rest : List Char) : ReadsExpanded readMore (')' :: rest) rest := by
  rw [ReadsExpanded, expand_cons rfl]
  simp only [List.length_cons]
  refine ⟨by omega, fun total fuel most => ?_⟩
  obtain ⟨fuel, rfl⟩ := Nat.exists_eq_add_one_of_ne_zero (n := fuel) (by omega)
  exact ⟨[], rfl⟩

/-- Names up to where they may end are read from the expanded text as well. The induction is on the
steps that reading them takes, and speaks of one name and of further ones behind it at once. -/
theorem read_expand (fuel total : Nat) :
    (∀ {source rest : List Char} {name : TypeName}, read total fuel source = some (name, rest) →
      Ends rest → ReadsExpanded read source rest) ∧
    ∀ {source rest : List Char} {names : List TypeName},
      readMore total fuel source = some (names, rest) → ReadsExpanded readMore source rest := by
  induction fuel with
  | zero => exact ⟨nofun, nofun⟩
  | succ fuel inductive_hypothesis =>
    obtain ⟨one, further⟩ := inductive_hypothesis
    constructor
    · intro source rest name read_name ends
      by_cases bracket : ∃ behind, source = '(' :: behind
      · obtain ⟨source, rfl⟩ := bracket
        obtain ⟨first, behind, head, more, bare, others, arrays, sizes, rfl⟩ :=
          read_bracket_eq_some.mp read_name
        exact (one head (ends_of_readMore others)).bracket (further others) sizes ends
      · obtain ⟨filled, size, bare, core, arrays, sizes, rfl⟩ :=
          (read_letters_eq_some fun behind same => bracket ⟨behind, same⟩).mp read_name
        obtain ⟨word, parts, is_core⟩ :=
          core_of_readSize filled core (apart_of_readArrays sizes ends)
        rw [parts]
        exact is_core.readsExpanded sizes ends
    · intro source rest names read_names
      cases ends_of_readMore read_names with
      | nil => contradiction
      | comma =>
        obtain ⟨next, behind, head, more, others, rfl⟩ := readMore_comma_eq_some.mp read_names
        exact (one head (ends_of_readMore others)).comma (further others)
      | bracket =>
        obtain ⟨-, rfl⟩ := Prod.mk.inj (Option.some.inj read_names)
        exact readsExpanded_close _

/-- A text within the grammar stays there when its words are expanded. -/
theorem exists_of_expand {text : List Char} {name : TypeName} (named : ofText? text = some name) :
    ∃ name, ofText? (expand text) = some name := by
  rw [ofText?] at named
  split at named
  · rename_i read_name
    obtain ⟨-, reads⟩ := (read_expand _ _).1 read_name .nil
    obtain ⟨long, read_long⟩ := reads (expand text).length _ (Nat.lt_succ_self _)
    refine ⟨long, ?_⟩
    rw [ofText?, read_long]
    rfl
  · contradiction

end

end TypeName

end Attest
