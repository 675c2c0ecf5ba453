import Attest.Proofs.Abi.Encoding

/-!
# Reading is the inverse of encoding

The standard encoding of a value is read as that value wherever it stands (`Sound.decodeAt_eq`), and a
value that is read has the encoding that is written for it for a standard one
(`Sound.encodes_of_decodeAt`). Reading is lenient, so the second says nothing about the bytes that
were read: they are the encoding only if writing the value gives them again.
-/
namespace Attest.AbiType

section

variable {data : List UInt8} {start limit place : Nat} {item : AbiType}

/-- Items of one type from a place on. -/
def itemsAt (data : List UInt8) (item : AbiType) (count start : Nat) : Except AbiError AbiValue :=
  if item.isDynamic then do
    let _ ← atEach (checkPointer data false start (start + wordBytes * count)) wordBytes count start
    return .items (← atEach (fun place => do
      decodeAt data item (start + (← numberAt data place))) wordBytes count start)
  else
    return .items (← atEach (fun place => decodeAt data item place) item.stride count start)

/-- A natural number is the value of a word. -/
theorem decodeAt_uint {bits : Nat} : decodeAt data (uint bits) place =
    (do return .number (← unsignedAt data place (bits / 8))) := rfl

/-- An integer is the value of a word. -/
theorem decodeAt_int {bits : Nat} : decodeAt data (int bits) place =
    (do return .number (← signedAt data place (bits / 8))) := rfl

/-- So many bytes are the value of a word. -/
theorem decodeAt_word {size : Nat} : decodeAt data (word size) place =
    (do return .octets (← octetsAt data place size)) := rfl

/-- A truth value is the value of a word. -/
theorem decodeAt_bool : decodeAt data bool place = (do return .flag (← boolAt data place)) := rfl

/-- An address is a natural number. -/
theorem decodeAt_address : decodeAt data address place =
    (do return .number (← unsignedAt data place 20)) := rfl

/-- Bytes are counted. -/
theorem decodeAt_bytes : decodeAt data bytes place =
    (do return .octets (← countedAt data place)) := rfl

/-- A text is counted. -/
theorem decodeAt_string : decodeAt data string place =
    (do return .chars (← charsAt data place)) := rfl

/-- An array has the items from its place on. -/
theorem decodeAt_array {size : Nat} :
    decodeAt data (array item size) start = itemsAt data item size start := rfl

/-- A list has the items behind the word of their number. -/
theorem decodeAt_list : decodeAt data (list item) place =
    (do itemsAt data item (← numberAt data place) (place + wordBytes)) := rfl

/-- A tuple is checked and has the items from its place on. -/
theorem decodeAt_tuple {items : List AbiType} : decodeAt data (tuple items) start =
    (do
      checkEach data start (start + wordBytes * (items.map reckoned).sum) items start
      return .items (← decodeEach data start items start)) := rfl

/-- A value is read as it is encoded where it stands. -/
def Exact (data : List UInt8) (type : AbiType) : Prop :=
  ∀ {value : AbiValue} {place : Nat}, decodeAt data type place = .ok value ↔
    ∃ body, Encodes type value body ∧ StandsAt data place body

/-- The bits of a number as the bytes of which it is read. -/
theorem IsWidth.whole {bits : Nat} (width : IsWidth bits) :
    0 < bits / 8 ∧ bits / 8 ≤ wordBytes ∧ 8 * (bits / 8) = bits := by
  obtain ⟨pos, le, bytes⟩ := width
  omega

/-- The numbers below a power of two are those of so many bytes. -/
theorem IsWidth.power {bits : Nat} (width : IsWidth bits) : 256 ^ (bits / 8) = 2 ^ bits := by
  obtain ⟨-, -, whole⟩ := width.whole
  rw [show 256 = 2 ^ 8 from rfl, ← Nat.pow_mul, whole]

/-- Natural numbers are read as they are encoded. -/
theorem exact_uint {bits : Nat} (width : IsWidth bits) : Exact data (uint bits) := by
  intro value place
  simp only [decodeAt_uint, Result.bind_eq_ok, Result.pure_eq_ok, unsignedAt_eq_ok width.whole.2.1,
    width.power]
  constructor
  · rintro ⟨number, ⟨bound, word, stood, stands⟩, rfl⟩
    exact ⟨word, .uint bound stood, stands⟩
  · rintro ⟨word, encodes, stands⟩
    cases encodes with
    | uint bound stood => exact ⟨_, ⟨bound, word, stood, stands⟩, rfl⟩

/-- Integers are read as they are encoded. -/
theorem exact_int {bits : Nat} (width : IsWidth bits) : Exact data (int bits) := by
  obtain ⟨positive, fits, whole⟩ := width.whole
  intro value place
  simp only [decodeAt_int, Result.bind_eq_ok, Result.pure_eq_ok, signedAt_eq_ok positive fits,
    whole]
  constructor
  · rintro ⟨number, ⟨bounds, word, stood, stands⟩, rfl⟩
    exact ⟨word, .int bounds stood, stands⟩
  · rintro ⟨word, encodes, stands⟩
    cases encodes with
    | int bounds stood => exact ⟨_, ⟨bounds, word, stood, stands⟩, rfl⟩

/-- Natural numbers of units are encoded as natural numbers. -/
theorem encodes_ufixed_iff {bits places : Nat} {value : AbiValue} {body : List UInt8} :
    Encodes (ufixed bits places) value body ↔ Encodes (uint bits) value body := by
  constructor
  · rintro ⟨⟩
    exact .uint ‹_› ‹_›
  · rintro ⟨⟩
    exact .ufixed ‹_› ‹_›

/-- Integers of units are encoded as integers. -/
theorem encodes_fixed_iff {bits places : Nat} {value : AbiValue} {body : List UInt8} :
    Encodes (fixed bits places) value body ↔ Encodes (int bits) value body := by
  constructor
  · rintro ⟨⟩
    exact .int ‹_› ‹_›
  · rintro ⟨⟩
    exact .fixed ‹_› ‹_›

/-- Natural numbers of units are read as they are encoded. -/
theorem exact_ufixed {bits places : Nat} (width : IsWidth bits) :
    Exact data (ufixed bits places) := by
  intro value place
  simp only [encodes_ufixed_iff, ← exact_uint width]
  rfl

/-- Integers of units are read as they are encoded. -/
theorem exact_fixed {bits places : Nat} (width : IsWidth bits) :
    Exact data (fixed bits places) := by
  intro value place
  simp only [encodes_fixed_iff, ← exact_int width]
  rfl

/-- Addresses are read as they are encoded. -/
theorem exact_address : Exact data address := by
  intro value place
  simp only [decodeAt_address, Result.bind_eq_ok, Result.pure_eq_ok,
    unsignedAt_eq_ok (show 20 ≤ wordBytes by decide), show 256 ^ 20 = 2 ^ 160 from rfl]
  constructor
  · rintro ⟨number, ⟨bound, word, stood, stands⟩, rfl⟩
    exact ⟨word, .address bound stood, stands⟩
  · rintro ⟨word, encodes, stands⟩
    cases encodes with
    | address bound stood => exact ⟨_, ⟨bound, word, stood, stands⟩, rfl⟩

/-- So many bytes are read as they are encoded. -/
theorem exact_word {size : Nat} (positive : 0 < size) (fits : size ≤ wordBytes) :
    Exact data (word size) := by
  intro value place
  simp only [decodeAt_word, Result.bind_eq_ok, Result.pure_eq_ok, octetsAt_eq_ok positive fits]
  constructor
  · rintro ⟨octets, ⟨length, body, padded, stands⟩, rfl⟩
    exact ⟨body, .word length padded, stands⟩
  · rintro ⟨body, encodes, stands⟩
    cases encodes with
    | word length padded => exact ⟨_, ⟨length, body, padded, stands⟩, rfl⟩

/-- Truth values are read as they are encoded. -/
theorem exact_bool : Exact data bool := by
  intro value place
  simp only [decodeAt_bool, Result.bind_eq_ok, Result.pure_eq_ok, boolAt_eq_ok]
  constructor
  · rintro ⟨flag, ⟨word, stood, stands⟩, rfl⟩
    exact ⟨word, .bool stood, stands⟩
  · rintro ⟨word, encodes, stands⟩
    cases encodes with
    | bool stood => exact ⟨_, ⟨word, stood, stands⟩, rfl⟩

/-- A pointer is right exactly if it leads past the pointers and into the data. -/
theorem checkPointer_eq_ok {inTuple : Bool} :
    checkPointer data inTuple start limit place = .ok () ↔
      ∃ number, numberAt data place = .ok number ∧ limit ≤ start + number ∧
        start + number < data.length := by
  simp only [checkPointer, Result.bind_eq_ok]
  refine exists_congr fun number => and_congr_right fun _ => ?_
  by_cases outside : start + number < limit ∨ data.length ≤ start + number
  · simp only [Bool.or_eq_true, decide_eq_true_eq, outside, ↓reduceIte, reduceCtorEq, false_iff]
    omega
  · simp only [Bool.or_eq_true, decide_eq_true_eq, outside, ↓reduceIte, Result.pure_eq_ok, true_iff]
    omega

/-- A static item is read in its place and the others behind its words. -/
theorem decodeEach_static_eq_ok {items : List AbiType} {results : List AbiValue}
    (inline : item.isDynamic = false) :
    decodeEach data start (item :: items) place = .ok results ↔
      ∃ value, decodeAt data item place = .ok value ∧
        ∃ values, decodeEach data start items (place + wordBytes * item.words) = .ok values ∧
          value :: values = results := by
  simp only [decodeEach, stride, inline, Bool.false_eq_true, ↓reduceIte, Result.bind_eq_ok,
    Result.pure_eq_ok]

/-- A dynamic item is read where its pointer leads and the others behind the pointer. -/
theorem decodeEach_dynamic_eq_ok {items : List AbiType} {results : List AbiValue}
    (pointed : item.isDynamic = true) :
    decodeEach data start (item :: items) place = .ok results ↔
      ∃ number, numberAt data place = .ok number ∧
        ∃ value, decodeAt data item (start + number) = .ok value ∧
          ∃ values, decodeEach data start items (place + wordBytes) = .ok values ∧
            value :: values = results := by
  simp only [decodeEach, stride, pointed, ↓reduceIte, Result.bind_eq_ok,
    Result.pure_eq_ok]

/-- A static item is checked by reading it. -/
theorem checkEach_static_eq_ok {items : List AbiType} (inline : item.isDynamic = false) :
    checkEach data start limit (item :: items) place = .ok () ↔
      (∃ value, decodeAt data item place = .ok value) ∧
        checkEach data start limit items (place + wordBytes * item.words) = .ok () := by
  simp [checkEach, stride, inline, Result.bind_eq_ok]

/-- A dynamic item is checked by checking its pointer. -/
theorem checkEach_dynamic_eq_ok {items : List AbiType} (pointed : item.isDynamic = true) :
    checkEach data start limit (item :: items) place = .ok () ↔
      checkPointer data true start limit place = .ok () ∧
        checkEach data start limit items (place + wordBytes) = .ok () := by
  simp only [checkEach, stride, pointed, ↓reduceIte, Result.bind_eq_ok]
  constructor
  · rintro ⟨_, right⟩
    exact right
  · exact fun right => ⟨(), right⟩

/-- The pointers to items of one type are right exactly if they are right as those of as many
types. -/
theorem atEach_checkPointer_isOk_iff (pointed : item.isDynamic = true) (inTuple : Bool)
    (count : Nat) :
    (∃ checked, atEach (checkPointer data inTuple start limit) wordBytes count place =
        .ok checked) ↔
      checkEach data start limit (List.replicate count item) place = .ok () := by
  induction count generalizing place with
  | zero => exact ⟨fun _ => rfl, fun _ => ⟨[], rfl⟩⟩
  | succ count inductive_hypothesis =>
    have stride : item.stride = wordBytes := by rw [AbiType.stride, if_pos pointed]
    simp only [atEach, List.replicate_succ, checkEach, pointed, ↓reduceIte, Result.bind_eq_ok,
      Result.pure_eq_ok, stride]
    constructor
    · rintro ⟨_, _, first, later, checked, rfl⟩
      exact ⟨(), checkPointer_eq_ok.mpr (checkPointer_eq_ok.mp first),
        inductive_hypothesis.mp ⟨later, checked⟩⟩
    · rintro ⟨_, first, checked⟩
      obtain ⟨later, checked⟩ := inductive_hypothesis.mpr checked
      exact ⟨_, (), checkPointer_eq_ok.mpr (checkPointer_eq_ok.mp first), later, checked, rfl⟩

/-- Dynamic items of one type are read as items of as many types. -/
theorem decodeEach_replicate_dynamic (pointed : item.isDynamic = true) (count : Nat) :
    decodeEach data start (List.replicate count item) place =
      atEach (fun place => do decodeAt data item (start + (← numberAt data place))) wordBytes count
        place := by
  induction count generalizing place with
  | zero => rfl
  | succ count inductive_hypothesis =>
    have stride : item.stride = wordBytes := by rw [AbiType.stride, if_pos pointed]
    rw [List.replicate_succ, decodeEach, if_pos pointed, inductive_hypothesis, stride, atEach,
      bind_assoc]

/-- Static items of one type are read as items of as many types. -/
theorem decodeEach_replicate_static (inline : item.isDynamic = false) (count : Nat) :
    decodeEach data start (List.replicate count item) place =
      atEach (fun place => decodeAt data item place) item.stride count place := by
  induction count generalizing place with
  | zero => rfl
  | succ count inductive_hypothesis =>
    rw [List.replicate_succ, decodeEach, inline, inductive_hypothesis, atEach]
    rfl

/-- Items of one type are read by checking the pointers to them, if there are any, and reading them
as items of as many types. -/
theorem itemsAt_eq_ok {count : Nat} {result : AbiValue} :
    itemsAt data item count start = .ok result ↔
      (item.isDynamic = true → checkEach data start (start + wordBytes * count)
          (List.replicate count item) start = .ok ()) ∧
        ∃ values, decodeEach data start (List.replicate count item) start = .ok values ∧
          result = .items values := by
  unfold itemsAt
  cases pointed : item.isDynamic with
  | true =>
    rw [if_pos rfl, ← atEach_checkPointer_isOk_iff pointed false,
      decodeEach_replicate_dynamic pointed]
    simp only [Result.bind_eq_ok, Result.pure_eq_ok, forall_const]
    constructor
    · rintro ⟨checked, right, values, read, rfl⟩
      exact ⟨⟨checked, right⟩, values, read, rfl⟩
    · rintro ⟨⟨checked, right⟩, values, read, rfl⟩
      exact ⟨checked, right, values, read, rfl⟩
  | false =>
    rw [decodeEach_replicate_static pointed]
    simp only [Bool.false_eq_true, ↓reduceIte, Result.bind_eq_ok, Result.pure_eq_ok, false_implies,
      true_and]
    exact exists_congr fun values => and_congr_right fun _ => eq_comm

/-- The items of an array are read as items of as many types. -/
theorem decodeAt_array_eq_ok {size : Nat} {result : AbiValue} :
    decodeAt data (array item size) start = .ok result ↔
      (item.isDynamic = true → checkEach data start (start + wordBytes * size)
          (List.replicate size item) start = .ok ()) ∧
        ∃ values, decodeEach data start (List.replicate size item) start = .ok values ∧
          result = .items values := by
  rw [decodeAt_array]
  exact itemsAt_eq_ok

/-- The items of a list are read behind the word of their number as items of as many types. -/
theorem decodeAt_list_eq_ok {result : AbiValue} :
    decodeAt data (list item) place = .ok result ↔
      ∃ size, numberAt data place = .ok size ∧
        (item.isDynamic = true → checkEach data (place + wordBytes)
          (place + wordBytes + wordBytes * size) (List.replicate size item) (place + wordBytes) =
            .ok ()) ∧
        ∃ values, decodeEach data (place + wordBytes) (List.replicate size item)
          (place + wordBytes) = .ok values ∧ result = .items values := by
  rw [decodeAt_list, Result.bind_eq_ok]
  exact exists_congr fun size => and_congr_right fun _ => itemsAt_eq_ok

/-- The items of a tuple are read once all are checked. -/
theorem decodeAt_tuple_eq_ok {items : List AbiType} {result : AbiValue} :
    decodeAt data (tuple items) start = .ok result ↔
      checkEach data start (start + wordBytes * (items.map reckoned).sum) items start = .ok () ∧
        ∃ values, decodeEach data start items start = .ok values ∧ result = .items values := by
  simp only [decodeAt_tuple, Result.bind_eq_ok, Result.pure_eq_ok]
  constructor
  · rintro ⟨_, checked, values, read, rfl⟩
    exact ⟨checked, values, read, rfl⟩
  · rintro ⟨checked, values, read, rfl⟩
    exact ⟨(), checked, values, read, rfl⟩

variable {types : List AbiType} {values : List AbiValue} {next : Nat} {front back : List UInt8}

/-- Reading a value of a type gives back every value that stands in its standard encoding. -/
def Reads (data : List UInt8) (type : AbiType) : Prop :=
  ∀ {value : AbiValue} {body : List UInt8} {place : Nat}, Encodes type value body →
    StandsAt data place body → decodeAt data type place = .ok value

/-- Items in two parts are read, the first part from a place on and the second behind the beginning
of the first. -/
theorem EncodesEach.decodeEach_eq (sound : ∀ item ∈ types, Sound item)
    (reads : ∀ item ∈ types, Reads data item)
    (each : EncodesEach types values next front back) (before : StandsAt data place front)
    (behind : StandsAt data (start + next) back) :
    decodeEach data start types place = .ok values := by
  induction types generalizing values next front back place with
  | nil =>
    cases each
    rfl
  | cons item rest inductive_hypothesis =>
    have later := fun {values next front back place} =>
      @inductive_hypothesis place values next front back
        (fun item member => sound item (.tail _ member))
        fun item member => reads item (.tail _ member)
    cases each with
    | static plain encodes rest =>
      obtain ⟨here, following⟩ := standsAt_append.mp before
      rw [(sound item List.mem_cons_self).length_static plain encodes] at following
      exact (decodeEach_static_eq_ok plain).mpr
        ⟨_, reads item List.mem_cons_self encodes here, _, later rest following behind, rfl⟩
    | dynamic pointed encodes points rest =>
      obtain ⟨here, following⟩ := standsAt_append.mp before
      obtain ⟨there, further⟩ := standsAt_append.mp behind
      rw [points.length] at following
      rw [Nat.add_assoc] at further
      exact (decodeEach_dynamic_eq_ok pointed).mpr
        ⟨_, numberAt_eq_ok.mpr ⟨_, points, here⟩, _, reads item List.mem_cons_self encodes there, _,
          later rest following further, rfl⟩

/-- Items in two parts are checked, if what is pointed to begins past the limit. -/
theorem EncodesEach.checkEach_eq (sound : ∀ item ∈ types, Sound item)
    (reads : ∀ item ∈ types, Reads data item)
    (each : EncodesEach types values next front back) (before : StandsAt data place front)
    (behind : StandsAt data (start + next) back) (past : limit ≤ start + next) :
    checkEach data start limit types place = .ok () := by
  induction types generalizing values next front back place with
  | nil =>
    cases each
    rfl
  | cons item rest inductive_hypothesis =>
    have later := fun {values next front back place} =>
      @inductive_hypothesis place values next front back
        (fun item member => sound item (.tail _ member))
        fun item member => reads item (.tail _ member)
    cases each with
    | static plain encodes rest =>
      obtain ⟨here, following⟩ := standsAt_append.mp before
      rw [(sound item List.mem_cons_self).length_static plain encodes] at following
      exact (checkEach_static_eq_ok plain).mpr
        ⟨⟨_, reads item List.mem_cons_self encodes here⟩, later rest following behind past⟩
    | dynamic pointed encodes points rest =>
      obtain ⟨here, following⟩ := standsAt_append.mp before
      obtain ⟨there, further⟩ := standsAt_append.mp behind
      rw [points.length] at following
      rw [Nat.add_assoc] at further
      have held := (sound item List.mem_cons_self).le_length encodes
      have inside := there.length_le
        (List.ne_nil_of_length_pos (Nat.lt_of_lt_of_le (by decide) held))
      have right : checkPointer data true start limit place = .ok () :=
        checkPointer_eq_ok.mpr ⟨next, numberAt_eq_ok.mpr ⟨_, points, here⟩, past,
          Nat.lt_of_lt_of_le (by have size : wordBytes = 32 := rfl; omega) inside⟩
      exact (checkEach_dynamic_eq_ok pointed).mpr
        ⟨right, later rest following further (Nat.le_trans past (by omega))⟩

/-- Bytes that stand in data that can be stored can be counted. -/
theorem countedAt_of_stored (stored : data.length ≤ mostBytes) {value count : List UInt8}
    (counts : IsWord value.length count) (stands : StandsAt data place (count ++ padded value)) :
    countedAt data place = .ok value := by
  have inside := stands.length_le (List.append_ne_nil_of_left_ne_nil
    (List.ne_nil_of_length_pos (by rw [counts.length]; decide)) _)
  rw [List.length_append, length_padded] at inside
  exact countedAt_eq_ok.mpr ⟨by omega, _, counts, stands⟩

/-- Items of one type that stand in two parts are read where they are those of an array. -/
theorem EncodesEach.items_eq (item_sound : Sound item) (reads : Reads data item)
    (each : EncodesEach (List.replicate values.length item) values front.length front back)
    (stands : StandsAt data start (front ++ back)) :
    checkEach data start (start + wordBytes * values.length) (List.replicate values.length item)
        start = .ok () ∧
      decodeEach data start (List.replicate values.length item) start = .ok values := by
  have sound : ∀ type ∈ List.replicate values.length item, Sound type :=
    fun type member => List.eq_of_mem_replicate member ▸ item_sound
  have reads_each : ∀ type ∈ List.replicate values.length item, Reads data type :=
    fun type member => List.eq_of_mem_replicate member ▸ reads
  obtain ⟨before, behind⟩ := standsAt_append.mp stands
  have past := each.length_le_front sound
  rw [List.length_replicate] at past
  exact ⟨each.checkEach_eq sound reads_each before behind (by omega),
    each.decodeEach_eq sound reads_each before behind⟩

/-- The standard encoding of a value of a sound type is read as that value wherever it stands, in data
that can be stored. -/
theorem Sound.decodeAt_eq {type : AbiType} (sound : Sound type) (stored : data.length ≤ mostBytes) :
    Reads data type := by
  intro value body place encodes stands
  induction sound generalizing value body place with
  | uint width => exact (exact_uint width).mpr ⟨body, encodes, stands⟩
  | int width => exact (exact_int width).mpr ⟨body, encodes, stands⟩
  | ufixed width => exact (exact_ufixed width).mpr ⟨body, encodes, stands⟩
  | fixed width => exact (exact_fixed width).mpr ⟨body, encodes, stands⟩
  | word positive fits => exact (exact_word positive fits).mpr ⟨body, encodes, stands⟩
  | bool => exact exact_bool.mpr ⟨body, encodes, stands⟩
  | address => exact exact_address.mpr ⟨body, encodes, stands⟩
  | bytes =>
    cases encodes with
    | bytes counts padded =>
      obtain rfl := isPadded_iff.mp padded
      rw [decodeAt_bytes, countedAt_of_stored stored counts stands]
      rfl
  | string =>
    cases encodes with
    | string counts padded =>
      obtain rfl := isPadded_iff.mp padded
      have read := charsAt_eq_ok.mpr
        ⟨_, countedAt_of_stored stored counts stands, Utf8.decode_encode _⟩
      rw [decodeAt_string, read]
      rfl
  | array filled item_sound reads =>
    cases encodes with
    | array each =>
      obtain ⟨checked, read⟩ := each.items_eq item_sound reads stands
      exact decodeAt_array_eq_ok.mpr ⟨fun _ => checked, _, read, rfl⟩
  | list item_sound reads =>
    cases encodes with
    | list counts each =>
      obtain ⟨before, behind⟩ := standsAt_append.mp stands
      rw [counts.length] at behind
      obtain ⟨checked, read⟩ := each.items_eq item_sound reads behind
      exact decodeAt_list_eq_ok.mpr
        ⟨_, numberAt_eq_ok.mpr ⟨_, counts, before⟩, fun _ => checked, _, read, rfl⟩
  | tuple filled sounds reads =>
    cases encodes with
    | tuple each =>
      obtain ⟨before, behind⟩ := standsAt_append.mp stands
      have past := each.reckoned_le_front sounds
      exact decodeAt_tuple_eq_ok.mpr ⟨each.checkEach_eq sounds reads before behind (by omega), _,
        each.decodeEach_eq sounds reads before behind, rfl⟩

/-- What is written for a value that is read is the standard encoding of it, if it can be stored. -/
def Writes (data : List UInt8) (type : AbiType) : Prop :=
  ∀ {value : AbiValue} {place : Nat}, decodeAt data type place = .ok value →
    (encode type value).length ≤ mostBytes → Encodes type value (encode type value)

/-- A value that is read as it is encoded is written so. -/
theorem Exact.writes {type : AbiType} (exact_type : Exact data type) (sound : Sound type) :
    Writes data type := by
  intro value place read _
  obtain ⟨body, encodes, -⟩ := exact_type.mp read
  rwa [sound.encode_eq encodes]

/-- Each item that is read has a value. -/
theorem length_of_decodeEach (read : decodeEach data start types place = .ok values) :
    values.length = types.length := by
  induction types generalizing values place with
  | nil =>
    rw [← Except.ok.inj read]
    rfl
  | cons item rest inductive_hypothesis =>
    cases pointed : item.isDynamic with
    | true =>
      obtain ⟨_, -, _, -, _, later, rfl⟩ := (decodeEach_dynamic_eq_ok pointed).mp read
      exact congrArg (· + 1) (inductive_hypothesis later)
    | false =>
      obtain ⟨_, -, _, later, rfl⟩ := (decodeEach_static_eq_ok pointed).mp read
      exact congrArg (· + 1) (inductive_hypothesis later)

/-- The two parts that are written for items that are read are those of the standard, if they can be
stored. -/
theorem encodesEach_of_decodeEach (writes : ∀ item ∈ types, Writes data item)
    (read : decodeEach data start types place = .ok values)
    (front_stored : (heads next (encodeEach types values)).length ≤ mostBytes)
    (back_stored : next + (tails (encodeEach types values)).length ≤ mostBytes) :
    EncodesEach types values next (heads next (encodeEach types values))
      (tails (encodeEach types values)) := by
  induction types generalizing values next place with
  | nil =>
    rw [← Except.ok.inj read]
    exact .nil
  | cons item rest inductive_hypothesis =>
    have behind := fun {values next place} =>
      @inductive_hypothesis place values next fun item member => writes item (.tail _ member)
    cases pointed : item.isDynamic with
    | true =>
      obtain ⟨number, -, value, first, later_values, later, rfl⟩ :=
        (decodeEach_dynamic_eq_ok pointed).mp read
      simp only [encodeEach, pointed, heads, tails, List.flatMap_cons, ↓reduceIte,
        List.length_append] at front_stored back_stored ⊢
      refine .dynamic pointed (writes item List.mem_cons_self first (by omega))
        (isWord_wordOf_natCast ?_) (behind later (by omega) ?_)
      · exact Nat.lt_of_le_of_lt (Nat.le_trans (Nat.le_add_right _ _) back_stored) (by decide)
      · rw [tails]
        omega
    | false =>
      obtain ⟨value, first, later_values, later, rfl⟩ := (decodeEach_static_eq_ok pointed).mp read
      simp only [encodeEach, pointed, heads, tails, List.flatMap_cons, Bool.false_eq_true,
        ↓reduceIte, List.length_append, List.nil_append] at front_stored back_stored ⊢
      refine .static pointed (writes item List.mem_cons_self first (by omega))
        (behind later (by omega) ?_)
      rw [tails]
      omega

/-- What is written for items that are read is the standard encoding of them, if it can be stored. -/
theorem encodesEach_joined (writes : ∀ item ∈ types, Writes data item)
    (read : decodeEach data start types place = .ok values)
    (stored : (joined (encodeEach types values)).length ≤ mostBytes) :
    ∃ front back, joined (encodeEach types values) = front ++ back ∧
      EncodesEach types values front.length front back := by
  rw [joined, List.length_append] at stored
  have length := length_heads (headLength (encodeEach types values)) (encodeEach types values)
  refine ⟨_, _, rfl, ?_⟩
  rw [length]
  exact encodesEach_of_decodeEach writes read (by omega) (by omega)

/-- What is written for a value of a sound type that is read is the standard encoding of it, if it can
be stored. -/
theorem Sound.encodes_of_decodeAt {type : AbiType} (sound : Sound type) : Writes data type := by
  intro value place read stored
  induction sound generalizing value place with
  | uint width => exact Exact.writes (exact_uint width) (.uint width) read stored
  | int width => exact Exact.writes (exact_int width) (.int width) read stored
  | ufixed width => exact Exact.writes (exact_ufixed width) (.ufixed width) read stored
  | fixed width => exact Exact.writes (exact_fixed width) (.fixed width) read stored
  | word positive fits =>
    exact Exact.writes (exact_word positive fits) (.word positive fits) read stored
  | bool => exact Exact.writes exact_bool .bool read stored
  | address => exact Exact.writes exact_address .address read stored
  | bytes =>
    rw [decodeAt_bytes, Result.bind_eq_ok] at read
    obtain ⟨octets, counted_there, written⟩ := read
    obtain ⟨-, count, counts, -⟩ := countedAt_eq_ok.mp counted_there
    obtain rfl := Result.pure_eq_ok.mp written
    have encodes := Encodes.bytes counts (isPadded_iff.mpr rfl)
    rwa [Sound.bytes.encode_eq encodes]
  | string =>
    rw [decodeAt_string, Result.bind_eq_ok] at read
    obtain ⟨text, -, written⟩ := read
    obtain rfl := Result.pure_eq_ok.mp written
    rw [encode, counted, List.length_append, length_padded] at stored
    have most := le_wholeWords (Utf8.encode text).length
    have fits : (Utf8.encode text).length < 2 ^ 256 :=
      Nat.lt_of_le_of_lt (m := mostBytes) (by omega) (by decide)
    exact .string (isWord_wordOf_natCast fits) (isPadded_iff.mpr rfl)
  | @array item size filled _ writes =>
    obtain ⟨-, values, each_read, rfl⟩ := decodeAt_array_eq_ok.mp read
    have length := length_of_decodeEach each_read
    rw [List.length_replicate] at length
    obtain rfl := length
    rw [encode, ← encodeEach_replicate] at stored ⊢
    obtain ⟨front, back, parts, each⟩ := encodesEach_joined
      (fun type member => List.eq_of_mem_replicate member ▸ writes) each_read stored
    rw [parts]
    exact .array each
  | @list item _ writes =>
    obtain ⟨size, counts, -, values, each_read, rfl⟩ := decodeAt_list_eq_ok.mp read
    have length := length_of_decodeEach each_read
    rw [List.length_replicate] at length
    obtain rfl := length
    rw [encode, ← encodeEach_replicate] at stored ⊢
    rw [List.length_append] at stored
    obtain ⟨front, back, parts, each⟩ := encodesEach_joined
      (fun type member => List.eq_of_mem_replicate member ▸ writes) each_read (by omega)
    obtain ⟨count, counts, -⟩ := numberAt_eq_ok.mp counts
    rw [parts, counts.eq_wordOf_natCast]
    exact .list counts each
  | tuple _ _ writes =>
    obtain ⟨-, values, each_read, rfl⟩ := decodeAt_tuple_eq_ok.mp read
    rw [encode] at stored ⊢
    obtain ⟨front, back, parts, each⟩ := encodesEach_joined writes each_read stored
    rw [parts]
    exact .tuple each

end

end Attest.AbiType
