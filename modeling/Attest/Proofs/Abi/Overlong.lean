import Attest.Proofs.Abi.Decoding

/-!
# Counts that no length can have

A count of bytes may be larger than every length that can be stored. Reading comes to it in the order
in which it reads: once the pointers to the items before it are checked and these items are read. It
ends there for that reason and for no other (`Sound.decodeAt_oversized_iff`).
-/
namespace Attest

/-- An error of the data in which a value is read, other than a count past every length. -/
inductive AbiError.InData : AbiError → Prop
  | shortWord {found : Nat} : InData (shortWord found)
  | shortBytes {wanted found : Nat} : InData (shortBytes wanted found)
  | padding {found : List UInt8} : InData (padding found)
  | notBool {found : List UInt8} : InData (notBool found)
  | pointer {inTuple : Bool} {place : Nat} : InData (pointer inTuple place)
  | notUtf8 {error : Utf8.Error} : InData (notUtf8 error)

namespace AbiType

mutual

/-- Reading a value at a place comes to a count of bytes past every length that can be stored. -/
inductive Overlong (data : List UInt8) : AbiType → Nat → Prop
  | bytes {place size : Nat} (counts : numberAt data place = .ok size)
      (past : mostBytes < wholeWords size) : Overlong data bytes place
  | string {place size : Nat} (counts : numberAt data place = .ok size)
      (past : mostBytes < wholeWords size) : Overlong data string place
  | array {item : AbiType} {size start : Nat} (pointed : item.isDynamic = true)
      (checked : checkEach data start (start + wordBytes * size) (List.replicate size item) start =
        .ok ())
      (among : OverlongAmong data start (List.replicate size item) start) :
    Overlong data (array item size) start
  | list {item : AbiType} {size place : Nat} (counts : numberAt data place = .ok size)
      (pointed : item.isDynamic = true)
      (checked : checkEach data (place + wordBytes) (place + wordBytes + wordBytes * size)
        (List.replicate size item) (place + wordBytes) = .ok ())
      (among : OverlongAmong data (place + wordBytes) (List.replicate size item)
        (place + wordBytes)) :
    Overlong data (list item) place
  | tuple {items : List AbiType} {start : Nat}
      (checked : checkEach data start (start + wordBytes * (items.map reckoned).sum) items start =
        .ok ())
      (among : OverlongAmong data start items start) : Overlong data (tuple items) start

/-- Reading items from a place on comes to such a count in one that is pointed to, and the items
before it are read. -/
inductive OverlongAmong (data : List UInt8) : Nat → List AbiType → Nat → Prop
  | here {start place number : Nat} {item : AbiType} {rest : List AbiType}
      (pointed : item.isDynamic = true) (points : numberAt data place = .ok number)
      (there : Overlong data item (start + number)) : OverlongAmong data start (item :: rest) place
  | inline {start place : Nat} {item : AbiType} {rest : List AbiType} {value : AbiValue}
      (inline : item.isDynamic = false) (read : decodeAt data item place = .ok value)
      (behind : OverlongAmong data start rest (place + wordBytes * item.words)) :
    OverlongAmong data start (item :: rest) place
  | pointed {start place number : Nat} {item : AbiType} {rest : List AbiType} {value : AbiValue}
      (pointed : item.isDynamic = true) (points : numberAt data place = .ok number)
      (read : decodeAt data item (start + number) = .ok value)
      (behind : OverlongAmong data start rest (place + wordBytes)) :
    OverlongAmong data start (item :: rest) place

end

mutual

/-- Only what is behind a pointer holds a count. -/
theorem Overlong.isDynamic {data : List UInt8} {type : AbiType} {place : Nat} :
    Overlong data type place → type.isDynamic = true
  | .bytes .. | .string .. | .list .. => rfl
  | .array pointed .. => pointed
  | .tuple _ among => among.anyDynamic

/-- Only items that are pointed to hold a count. -/
theorem OverlongAmong.anyDynamic {data : List UInt8} {types : List AbiType} {start place : Nat} :
    OverlongAmong data start types place → anyDynamic types = true
  | .here pointed .. => by rw [AbiType.anyDynamic, pointed, Bool.true_or]
  | .pointed pointed .. => by rw [AbiType.anyDynamic, pointed, Bool.true_or]
  | .inline _ _ behind => by rw [AbiType.anyDynamic, behind.anyDynamic, Bool.or_true]

end

section

variable {data : List UInt8} {types : List AbiType} {start place : Nat}

/-- A word is at a place, or the data ends before. -/
theorem wordAt_inData : Result.FailsOnly AbiError.InData (wordAt data place) := by
  rw [wordAt]
  split
  · exact Result.failsOnly_ok _
  · exact Result.failsOnly_error (by constructor)

/-- The number in a word has no length. -/
theorem numberAt_inData : Result.FailsOnly AbiError.InData (numberAt data place) := by
  intro error failed
  exact wordAt_inData error (Result.map_eq_error.mp failed)

/-- What is padded has no length. -/
theorem padded_inData {α : Type} {value : α} {padding : List UInt8} {condition : Prop}
    [Decidable condition] :
    Result.FailsOnly AbiError.InData
      (if condition then pure value else .error (.padding padding) : Except AbiError α) := by
  split
  · exact Result.failsOnly_ok _
  · exact Result.failsOnly_error (by constructor)

/-- A natural number has no length. -/
theorem unsignedAt_inData {size : Nat} :
    Result.FailsOnly AbiError.InData (unsignedAt data place size) := by
  rw [unsignedAt]
  exact wordAt_inData.bind fun _ => padded_inData

/-- An integer has no length. -/
theorem signedAt_inData {size : Nat} :
    Result.FailsOnly AbiError.InData (signedAt data place size) := by
  rw [signedAt]
  exact wordAt_inData.bind fun _ => padded_inData

/-- So many bytes are never too many. -/
theorem octetsAt_inData {size : Nat} :
    Result.FailsOnly AbiError.InData (octetsAt data place size) := by
  rw [octetsAt]
  exact wordAt_inData.bind fun _ => padded_inData

/-- A truth value has no length. -/
theorem boolAt_inData : Result.FailsOnly AbiError.InData (boolAt data place) := by
  rw [boolAt]
  refine wordAt_inData.bind fun _ => ?_
  dsimp only
  split
  · exact Result.failsOnly_error (by constructor)
  · exact padded_inData

/-- A pointer has no length. -/
theorem checkPointer_inData {inTuple : Bool} {start limit : Nat} :
    Result.FailsOnly AbiError.InData (checkPointer data inTuple start limit place) := by
  rw [checkPointer]
  refine numberAt_inData.bind fun _ => ?_
  dsimp only
  split
  · exact Result.failsOnly_error (by constructor)
  · exact Result.failsOnly_ok _

/-- A step behind one that fails for other reasons ends for a count. -/
theorem oversized_bind_iff {α β : Type} {first : Except AbiError α} {next : α → Except AbiError β}
    (fails : Result.FailsOnly AbiError.InData first) :
    (first >>= next) = .error .oversized ↔
      ∃ value, first = .ok value ∧ next value = .error .oversized := by
  rw [Result.bind_eq_error]
  exact or_iff_right fun failed => nomatch fails _ failed

/-- Counting bytes ends for their count exactly if it is past every length. -/
theorem countedAt_oversized_iff : countedAt data place = .error .oversized ↔
    ∃ size, numberAt data place = .ok size ∧ mostBytes < wholeWords size := by
  rw [countedAt, oversized_bind_iff numberAt_inData]
  refine exists_congr fun size => and_congr_right fun _ => ?_
  dsimp only
  split
  · rename_i past
    exact iff_of_true rfl past
  · rename_i stored
    refine iff_of_false (fun failed => ?_) stored
    split at failed
    · cases failed
    · cases padded_inData _ failed

/-- Reading a text ends for a count exactly if counting its bytes does. -/
theorem charsAt_oversized_iff : charsAt data place = .error .oversized ↔
    countedAt data place = .error .oversized := by
  rw [charsAt, Result.bind_eq_error]
  refine or_iff_left ?_
  rintro ⟨octets, -, failed⟩
  obtain ⟨_, -, same⟩ := Result.mapError_eq_error.mp failed
  contradiction

/-- A result that is taken further without a step ends for the same reasons. -/
theorem map_oversized_iff {α β : Type} {first : Except AbiError α} {change : α → β} :
    (first >>= fun value => pure (change value)) = .error .oversized ↔
      first = .error .oversized := by
  rw [Result.bind_eq_error]
  exact or_iff_left fun ⟨_, _, failed⟩ => nomatch failed

/-- Steps at places fail as is allowed if each does. -/
theorem atEach_failsOnly {α : Type} {allowed : AbiError → Prop} {step : Nat → Except AbiError α}
    (each : ∀ place, Result.FailsOnly allowed (step place)) (stride count : Nat) :
    Result.FailsOnly allowed (atEach step stride count place) := by
  induction count generalizing place with
  | zero => exact Result.failsOnly_ok _
  | succ count inductive_hypothesis =>
    rw [atEach]
    exact (each place).bind fun _ => inductive_hypothesis.bind fun _ => Result.failsOnly_ok _

/-- Checking items fails as is allowed if pointers do and reading static ones does. -/
theorem checkEach_failsOnly {allowed : AbiError → Prop}
    (pointers : ∀ error, error.InData → allowed error)
    (each : ∀ item ∈ types, item.isDynamic = false → ∀ place,
      Result.FailsOnly allowed (decodeAt data item place)) {limit : Nat} :
    Result.FailsOnly allowed (checkEach data start limit types place) := by
  induction types generalizing place with
  | nil => exact Result.failsOnly_ok _
  | cons item rest inductive_hypothesis =>
    have behind := fun {place} =>
      @inductive_hypothesis place fun item member => each item (.tail _ member)
    rw [checkEach]
    cases pointed : item.isDynamic with
    | true => exact (checkPointer_inData.mono pointers).bind fun _ => behind
    | false => exact (each item List.mem_cons_self pointed _).bind fun _ => behind

/-- Reading items fails as is allowed if pointers do and reading each item does. -/
theorem decodeEach_failsOnly {allowed : AbiError → Prop}
    (pointers : ∀ error, error.InData → allowed error)
    (each : ∀ item ∈ types, ∀ place, Result.FailsOnly allowed (decodeAt data item place)) :
    Result.FailsOnly allowed (decodeEach data start types place) := by
  induction types generalizing place with
  | nil => exact Result.failsOnly_ok _
  | cons item rest inductive_hypothesis =>
    have first := each item List.mem_cons_self
    have behind := fun {place} =>
      @inductive_hypothesis place fun item member => each item (.tail _ member)
    rw [decodeEach]
    split
    · exact (numberAt_inData.mono pointers).bind fun _ => (first _).bind fun _ =>
        behind.bind fun _ => Result.failsOnly_ok _
    · exact (first _).bind fun _ => behind.bind fun _ => Result.failsOnly_ok _

/-- An error of reading: one of the data, or a count past every length. -/
def InReading (error : AbiError) : Prop := error.InData ∨ error = .oversized

/-- Counting bytes fails for the data or ends for their count. -/
theorem countedAt_inReading : Result.FailsOnly InReading (countedAt data place) := by
  rw [countedAt]
  refine (numberAt_inData.mono fun _ => .inl).bind fun _ => ?_
  dsimp only
  split
  · exact Result.failsOnly_error (.inr rfl)
  · split
    · exact Result.failsOnly_error (.inl .shortBytes)
    · exact padded_inData.mono fun _ => .inl

/-- Reading items of one type fails as is allowed if pointers do and reading an item does. -/
theorem itemsAt_failsOnly {allowed : AbiError → Prop} {item : AbiType} {count : Nat}
    (pointers : ∀ error, error.InData → allowed error)
    (each : ∀ place, Result.FailsOnly allowed (decodeAt data item place)) :
    Result.FailsOnly allowed (itemsAt data item count start) := by
  unfold itemsAt
  split
  · refine (atEach_failsOnly (fun _ => checkPointer_inData.mono pointers) _ _).bind fun _ => ?_
    exact (atEach_failsOnly (fun _ => (numberAt_inData.mono pointers).bind fun _ => each _) _ _).bind
      fun _ => Result.failsOnly_ok _
  · exact (atEach_failsOnly each _ _).bind fun _ => Result.failsOnly_ok _

/-- Reading a value of a sound type fails for the data or ends for a count. -/
theorem Sound.decodeAt_inReading {type : AbiType} (sound : Sound type) :
    Result.FailsOnly InReading (decodeAt data type place) := by
  have pointers : ∀ error : AbiError, error.InData → InReading error := fun _ => .inl
  induction sound generalizing place with
  | uint | ufixed | address =>
    exact (unsignedAt_inData.mono pointers).bind fun _ => Result.failsOnly_ok _
  | int | fixed => exact (signedAt_inData.mono pointers).bind fun _ => Result.failsOnly_ok _
  | word => exact (octetsAt_inData.mono pointers).bind fun _ => Result.failsOnly_ok _
  | bool => exact (boolAt_inData.mono pointers).bind fun _ => Result.failsOnly_ok _
  | bytes => exact countedAt_inReading.bind fun _ => Result.failsOnly_ok _
  | string =>
    rw [decodeAt_string, charsAt]
    refine (countedAt_inReading.bind fun _ => ?_).bind fun _ => Result.failsOnly_ok _
    exact Result.FailsOnly.of_mapError (fun _ => .inl .notUtf8) _
  | array _ _ fails =>
    rw [decodeAt_array]
    exact itemsAt_failsOnly pointers fun _ => fails
  | list _ fails =>
    rw [decodeAt_list]
    exact (numberAt_inData.mono pointers).bind fun _ => itemsAt_failsOnly pointers fun _ => fails
  | tuple _ _ fails =>
    rw [decodeAt_tuple]
    refine (checkEach_failsOnly pointers fun item member _ _ => fails item member).bind fun _ => ?_
    exact (decodeEach_failsOnly pointers fun item member _ => fails item member).bind
      fun _ => Result.failsOnly_ok _

/-- Reading a value of a type ends for a count exactly if it comes to one past every length. -/
def Stops (data : List UInt8) (type : AbiType) : Prop :=
  ∀ place : Nat, decodeAt data type place = .error .oversized ↔ Overlong data type place

/-- Reading a value of a static type fails for the data. -/
theorem Stops.inData {type : AbiType} (stops : Stops data type) (sound : Sound type)
    (inline : type.isDynamic = false) :
    Result.FailsOnly AbiError.InData (decodeAt data type place) := by
  intro error failed
  refine (sound.decodeAt_inReading error failed).resolve_right ?_
  rintro rfl
  rw [((stops place).mp failed).isDynamic] at inline
  contradiction

/-- A static type that is read without a count holds none. -/
theorem stops_of_inData {type : AbiType} (inline : type.isDynamic = false)
    (fails : Result.FailsOnly AbiError.InData (decodeAt data type place)) :
    decodeAt data type place = .error .oversized ↔ Overlong data type place := by
  refine iff_of_false (fun failed => nomatch fails _ failed) fun there => ?_
  rw [there.isDynamic] at inline
  contradiction

/-- Reading items ends for a count exactly if it comes to one among them. -/
theorem decodeEach_oversized_iff (sound : ∀ item ∈ types, Sound item)
    (stops : ∀ item ∈ types, Stops data item) :
    decodeEach data start types place = .error .oversized ↔
      OverlongAmong data start types place := by
  induction types generalizing place with
  | nil => exact ⟨nofun, nofun⟩
  | cons item rest inductive_hypothesis =>
    have behind := fun {place} =>
      @inductive_hypothesis place (fun item member => sound item (.tail _ member))
        fun item member => stops item (.tail _ member)
    have first := stops item List.mem_cons_self
    have early_or_late : ∀ place (next : AbiValue → Except AbiError (List AbiValue)),
        (decodeAt data item place >>= next) = .error .oversized ↔ _ :=
      fun place next => Result.bind_eq_error
    rw [decodeEach, stride]
    cases pointed : item.isDynamic with
    | true =>
      simp only [↓reduceIte, oversized_bind_iff numberAt_inData, map_oversized_iff, behind,
        early_or_late, first _]
      constructor
      · rintro ⟨number, points, there | ⟨value, read, among⟩⟩
        · exact .here pointed points there
        · exact .pointed pointed points read among
      · rintro (⟨-, points, there⟩ | ⟨inline, -⟩ | ⟨-, points, read, among⟩)
        · exact ⟨_, points, .inl there⟩
        · rw [pointed] at inline
          contradiction
        · exact ⟨_, points, .inr ⟨_, read, among⟩⟩
    | false =>
      simp only [Bool.false_eq_true, ↓reduceIte, map_oversized_iff, behind,
        oversized_bind_iff (first.inData (sound item List.mem_cons_self) pointed)]
      constructor
      · rintro ⟨value, read, among⟩
        exact .inline pointed read among
      · rintro (⟨dynamic, -⟩ | ⟨-, read, among⟩ | ⟨dynamic, -⟩)
        · rw [pointed] at dynamic
          contradiction
        · exact ⟨_, read, among⟩
        · rw [pointed] at dynamic
          contradiction

/-- Reading items of one type ends for a count exactly if there are pointers, all of them right, and
it comes to one among the items. -/
theorem itemsAt_oversized_iff {item : AbiType} (sound : Sound item) (stops : Stops data item)
    {count : Nat} :
    itemsAt data item count start = .error .oversized ↔
      item.isDynamic = true ∧ checkEach data start (start + wordBytes * count)
          (List.replicate count item) start = .ok () ∧
        OverlongAmong data start (List.replicate count item) start := by
  unfold itemsAt
  have sounds : ∀ type ∈ List.replicate count item, Sound type :=
    fun type member => List.eq_of_mem_replicate member ▸ sound
  have each : ∀ type ∈ List.replicate count item, Stops data type :=
    fun type member => List.eq_of_mem_replicate member ▸ stops
  cases pointed : item.isDynamic with
  | true =>
    rw [if_pos rfl, ← atEach_checkPointer_isOk_iff pointed false,
      ← decodeEach_oversized_iff sounds each, decodeEach_replicate_dynamic pointed,
      oversized_bind_iff (atEach_failsOnly (fun _ => checkPointer_inData) _ _)]
    simp only [map_oversized_iff, exists_and_right, true_and]
  | false =>
    refine iff_of_false ?_ (by simp)
    rw [if_neg Bool.false_ne_true, map_oversized_iff]
    exact fun failed => nomatch atEach_failsOnly (fun _ => stops.inData sound pointed) _ _ _ failed

/-- Reading a value of a sound type ends for a count exactly if it comes to one past every length. -/
theorem Sound.decodeAt_oversized_iff {type : AbiType} (sound : Sound type) : Stops data type := by
  intro place
  induction sound generalizing place with
  | uint | ufixed | address =>
    exact stops_of_inData rfl (unsignedAt_inData.bind fun _ => Result.failsOnly_ok _)
  | int | fixed => exact stops_of_inData rfl (signedAt_inData.bind fun _ => Result.failsOnly_ok _)
  | word => exact stops_of_inData rfl (octetsAt_inData.bind fun _ => Result.failsOnly_ok _)
  | bool => exact stops_of_inData rfl (boolAt_inData.bind fun _ => Result.failsOnly_ok _)
  | bytes =>
    rw [decodeAt_bytes, map_oversized_iff, countedAt_oversized_iff]
    constructor
    · rintro ⟨size, counts, past⟩
      exact .bytes counts past
    · rintro ⟨⟩
      exact ⟨_, ‹_›, ‹_›⟩
  | string =>
    rw [decodeAt_string, map_oversized_iff, charsAt_oversized_iff, countedAt_oversized_iff]
    constructor
    · rintro ⟨size, counts, past⟩
      exact .string counts past
    · rintro ⟨⟩
      exact ⟨_, ‹_›, ‹_›⟩
  | array _ sound stops =>
    rw [decodeAt_array, itemsAt_oversized_iff sound stops]
    constructor
    · rintro ⟨pointed, checked, among⟩
      exact .array pointed checked among
    · rintro ⟨⟩
      exact ⟨‹_›, ‹_›, ‹_›⟩
  | list sound stops =>
    rw [decodeAt_list, oversized_bind_iff numberAt_inData]
    constructor
    · rintro ⟨size, counts, failed⟩
      obtain ⟨pointed, checked, among⟩ := (itemsAt_oversized_iff sound stops).mp failed
      exact .list counts pointed checked among
    · rintro ⟨⟩
      exact ⟨_, ‹_›, (itemsAt_oversized_iff sound stops).mpr ⟨‹_›, ‹_›, ‹_›⟩⟩
  | tuple _ sounds stops =>
    have checks := fun {start limit place} =>
      @checkEach_failsOnly data _ start place _ (fun _ => id) (fun item member inline _ =>
        Stops.inData (stops item member) (sounds item member) inline) limit
    rw [decodeAt_tuple, oversized_bind_iff checks]
    simp only [map_oversized_iff, decodeEach_oversized_iff sounds stops]
    constructor
    · rintro ⟨_, checked, among⟩
      exact .tuple checked among
    · rintro ⟨⟩
      exact ⟨(), ‹_›, ‹_›⟩

end

end AbiType

end Attest
