import Attest.Proofs.Abi.Padded

/-!
# The standard encoding

The rules of the encoding as a relation between a type, a value of it and bytes, apart from how they
are computed: a number stands in a word, bytes are padded with zeros, and items stand in two parts,
the pointer to a dynamic one giving how far behind the beginning of the first part it begins. The
encoding that is computed follows the rules (`Sound.encode_eq`), and its length shows in the type
where the type is static (`Sound.length_static`).
-/
namespace Attest.AbiType

/-- The number of bits of a number: whole bytes up to a word. -/
structure IsWidth (bits : Nat) : Prop where
  /-- There is a byte. -/
  pos : 0 < bits
  /-- They fit into a word. -/
  le : bits ≤ 8 * wordBytes
  /-- They are whole bytes. -/
  bytes : bits % 8 = 0

/-- A type whose numbers fit into words and which leaves no place for an item that is none. -/
inductive Sound : AbiType → Prop
  | uint {bits : Nat} (width : IsWidth bits) : Sound (uint bits)
  | int {bits : Nat} (width : IsWidth bits) : Sound (int bits)
  | ufixed {bits places : Nat} (width : IsWidth bits) : Sound (ufixed bits places)
  | fixed {bits places : Nat} (width : IsWidth bits) : Sound (fixed bits places)
  | word {size : Nat} (pos : 0 < size) (fits : size ≤ wordBytes) : Sound (word size)
  | bool : Sound bool
  | address : Sound address
  | bytes : Sound bytes
  | string : Sound string
  | array {item : AbiType} {size : Nat} (filled : 0 < size) (item_sound : Sound item) :
    Sound (array item size)
  | list {item : AbiType} (item_sound : Sound item) : Sound (list item)
  | tuple {items : List AbiType} (filled : items ≠ []) (each : ∀ item ∈ items, Sound item) :
    Sound (tuple items)

mutual

/-- A value of a type and the bytes that the standard encodes it in. -/
inductive Encodes : AbiType → AbiValue → List UInt8 → Prop
  | uint {bits number : Nat} {word : List UInt8} (bound : number < 2 ^ bits)
      (stands : IsWord number word) : Encodes (uint bits) (.number number) word
  | int {bits : Nat} {number : Int} {word : List UInt8}
      (bounds : -2 ^ (bits - 1) ≤ number ∧ number < 2 ^ (bits - 1))
      (stands : IsWord (complement number) word) : Encodes (int bits) (.number number) word
  | ufixed {bits places number : Nat} {word : List UInt8} (bound : number < 2 ^ bits)
      (stands : IsWord number word) : Encodes (ufixed bits places) (.number number) word
  | fixed {bits places : Nat} {number : Int} {word : List UInt8}
      (bounds : -2 ^ (bits - 1) ≤ number ∧ number < 2 ^ (bits - 1))
      (stands : IsWord (complement number) word) : Encodes (fixed bits places) (.number number) word
  | word {size : Nat} {value body : List UInt8} (length : value.length = size)
      (padded : IsPadded value body) : Encodes (word size) (.octets value) body
  | bool {value : Bool} {word : List UInt8} (stands : IsWord (if value then 1 else 0) word) :
    Encodes bool (.flag value) word
  | address {number : Nat} {word : List UInt8} (bound : number < 2 ^ 160)
      (stands : IsWord number word) : Encodes address (.number number) word
  | bytes {value count body : List UInt8} (counts : IsWord value.length count)
      (padded : IsPadded value body) : Encodes bytes (.octets value) (count ++ body)
  | string {text : List Char} {count body : List UInt8}
      (counts : IsWord (Utf8.encode text).length count)
      (padded : IsPadded (Utf8.encode text) body) : Encodes string (.chars text) (count ++ body)
  | array {item : AbiType} {values : List AbiValue} {heads tails : List UInt8}
      (each : EncodesEach (List.replicate values.length item) values heads.length heads tails) :
    Encodes (array item values.length) (.items values) (heads ++ tails)
  | list {item : AbiType} {values : List AbiValue} {count heads tails : List UInt8}
      (counts : IsWord values.length count)
      (each : EncodesEach (List.replicate values.length item) values heads.length heads tails) :
    Encodes (list item) (.items values) (count ++ (heads ++ tails))
  | tuple {items : List AbiType} {values : List AbiValue} {heads tails : List UInt8}
      (each : EncodesEach items values heads.length heads tails) :
    Encodes (tuple items) (.items values) (heads ++ tails)

/-- Values of types and the two parts in which they stand, where what is pointed to begins `next`
bytes behind the beginning of the first part. -/
inductive EncodesEach :
    List AbiType → List AbiValue → Nat → List UInt8 → List UInt8 → Prop
  | nil {next : Nat} : EncodesEach [] [] next [] []
  | static {item : AbiType} {items : List AbiType} {value : AbiValue} {values : List AbiValue}
      {next : Nat} {body heads tails : List UInt8} (inline : item.isDynamic = false)
      (encodes : Encodes item value body) (rest : EncodesEach items values next heads tails) :
    EncodesEach (item :: items) (value :: values) next (body ++ heads) tails
  | dynamic {item : AbiType} {items : List AbiType} {value : AbiValue} {values : List AbiValue}
      {next : Nat} {pointer body heads tails : List UInt8} (pointed : item.isDynamic = true)
      (encodes : Encodes item value body) (points : IsWord next pointer)
      (rest : EncodesEach items values (next + body.length) heads tails) :
    EncodesEach (item :: items) (value :: values) next (pointer ++ heads) (body ++ tails)

end

section

variable {types items : List AbiType} {values : List AbiValue} {next : Nat}
  {front back : List UInt8}

/-- A list of types without a dynamic one. -/
theorem anyDynamic_eq_false :
    anyDynamic types = false ↔ ∀ item ∈ types, item.isDynamic = false := by
  induction types with
  | nil => simp [anyDynamic]
  | cons item rest inductive_hypothesis => simp [anyDynamic, inductive_hypothesis]

/-- The words of values of static types are those of each. -/
theorem sumWords_eq (types : List AbiType) : sumWords types = (types.map words).sum := by
  induction types with
  | nil => rfl
  | cons item rest inductive_hypothesis => simp [sumWords, inductive_hypothesis]

/-- A value of a sound type takes a word. -/
theorem Sound.words_pos {type : AbiType} (sound : Sound type) : 0 < type.words := by
  induction sound with
  | array filled _ positive =>
    rw [words]
    exact Nat.mul_pos filled positive
  | @tuple items filled _ positive =>
    rw [words, sumWords_eq]
    obtain ⟨first, rest, rfl⟩ := List.exists_cons_of_ne_nil filled
    have one := positive first List.mem_cons_self
    rw [List.map_cons, List.sum_cons]
    omega
  | _ => simp [words]

/-- A value takes at least the word of a pointer. -/
theorem Sound.le_stride {type : AbiType} (sound : Sound type) : wordBytes ≤ type.stride := by
  rw [stride]
  split
  · exact Nat.le_refl _
  · exact Nat.le_mul_of_pos_right _ sound.words_pos

/-- What a value is reckoned to take is no more than what it takes. -/
theorem Sound.reckoned_le {type : AbiType} (sound : Sound type) :
    wordBytes * type.reckoned ≤ type.stride := by
  have least := sound.le_stride
  cases sound with
  | @array item size filled item_sound =>
    rw [stride, reckoned, isDynamic]
    cases item.isDynamic with
    | true => exact Nat.le_refl _
    | false =>
      have each : size ≤ size * item.words := Nat.le_mul_of_pos_right _ item_sound.words_pos
      simpa [words] using Nat.mul_le_mul_left wordBytes each
  | _ => exact least

/-- The first part takes what its items take. -/
theorem EncodesEach.length_front
    (inline : ∀ item ∈ types, item.isDynamic = false → ∀ {value body},
      Encodes item value body → body.length = wordBytes * item.words)
    (each : EncodesEach types values next front back) : front.length = (types.map stride).sum := by
  induction types generalizing values next front back with
  | nil =>
    cases each
    rfl
  | cons item rest inductive_hypothesis =>
    have behind := fun {values next front back} =>
      @inductive_hypothesis values next front back fun item member => inline item (.tail _ member)
    rw [List.map_cons, List.sum_cons, stride]
    cases each with
    | static plain encodes rest =>
      rw [List.length_append, inline _ List.mem_cons_self plain encodes, behind rest, plain]
      rfl
    | dynamic pointed encodes points rest =>
      rw [List.length_append, points.length, behind rest, if_pos pointed]

/-- Static items leave the second part empty. -/
theorem EncodesEach.back_eq_nil (inline : ∀ item ∈ types, item.isDynamic = false)
    (each : EncodesEach types values next front back) : back = [] := by
  induction types generalizing values next front back with
  | nil =>
    cases each
    rfl
  | cons item rest inductive_hypothesis =>
    cases each with
    | static plain encodes rest =>
      exact inductive_hypothesis (fun item member => inline item (.tail _ member)) rest
    | dynamic pointed encodes points rest =>
      rw [inline item List.mem_cons_self] at pointed
      contradiction

/-- Static types take their words. -/
theorem sum_stride (inline : ∀ item ∈ types, item.isDynamic = false) :
    (types.map stride).sum = wordBytes * sumWords types := by
  induction types with
  | nil => rfl
  | cons item rest inductive_hypothesis =>
    rw [List.map_cons, List.sum_cons, stride, inline item List.mem_cons_self,
      inductive_hypothesis fun item member => inline item (.tail _ member), sumWords,
      Nat.mul_add]
    rfl

/-- Static items take their words. -/
theorem EncodesEach.length_inline (inline : ∀ item ∈ types, item.isDynamic = false)
    (lengths : ∀ item ∈ types, ∀ {value body}, Encodes item value body →
      body.length = wordBytes * item.words)
    (each : EncodesEach types values next front back) :
    (front ++ back).length = wordBytes * sumWords types := by
  rw [each.back_eq_nil inline, List.append_nil,
    each.length_front fun item member _ => lengths item member, sum_stride inline]

/-- A value of a static type is encoded in its words. -/
theorem Sound.length_static {type : AbiType} (sound : Sound type)
    (inline : type.isDynamic = false) {value : AbiValue} {body : List UInt8}
    (encodes : Encodes type value body) : body.length = wordBytes * type.words := by
  induction sound generalizing value body with
  | uint => cases encodes with | uint _ stands => exact stands.length
  | int => cases encodes with | int _ stands => exact stands.length
  | ufixed => cases encodes with | ufixed _ stands => exact stands.length
  | fixed => cases encodes with | fixed _ stands => exact stands.length
  | bool => cases encodes with | bool stands => exact stands.length
  | address => cases encodes with | address _ stands => exact stands.length
  | word positive fits =>
    cases encodes with
    | word length padded =>
      obtain rfl := (isPadded_word (List.length_pos_iff.mp (length ▸ positive))
        (length ▸ fits)).mp padded
      rw [List.length_append, List.length_replicate, length, Nat.add_sub_cancel' fits]
      rfl
  | bytes | string | list => contradiction
  | @array item _ _ _ length_item =>
    cases encodes with
    | @array _ values _ _ each =>
      rw [isDynamic] at inline
      have same : ∀ type ∈ List.replicate values.length item, type = item :=
        fun _ => List.eq_of_mem_replicate
      rw [each.length_inline (fun type member => same type member ▸ inline)
        fun type member => same type member ▸ length_item inline, sumWords_eq, words]
      simp
  | tuple _ _ length_each =>
    cases encodes with
    | tuple each =>
      rw [isDynamic, anyDynamic_eq_false] at inline
      exact each.length_inline inline fun type member =>
        length_each type member (inline type member)

/-- The first part takes at least a word for each item. -/
theorem EncodesEach.length_le_front (sound : ∀ item ∈ types, Sound item)
    (each : EncodesEach types values next front back) :
    wordBytes * types.length ≤ front.length := by
  rw [each.length_front fun item member inline => (sound item member).length_static inline]
  clear each
  induction types with
  | nil => exact Nat.zero_le _
  | cons item rest inductive_hypothesis =>
    have first := (sound item List.mem_cons_self).le_stride
    have later := inductive_hypothesis fun item member => sound item (.tail _ member)
    rw [List.map_cons, List.sum_cons, List.length_cons, Nat.mul_succ]
    omega

/-- The first part takes at least as many words as it is reckoned to take. -/
theorem EncodesEach.reckoned_le_front (sound : ∀ item ∈ types, Sound item)
    (each : EncodesEach types values next front back) :
    wordBytes * (types.map reckoned).sum ≤ front.length := by
  rw [each.length_front fun item member inline => (sound item member).length_static inline]
  clear each
  induction types with
  | nil => exact Nat.zero_le _
  | cons item rest inductive_hypothesis =>
    have first := (sound item List.mem_cons_self).reckoned_le
    have later := inductive_hypothesis fun item member => sound item (.tail _ member)
    rw [List.map_cons, List.map_cons, List.sum_cons, List.sum_cons, Nat.mul_add]
    omega

/-- Every encoding holds a word. -/
theorem Sound.le_length {type : AbiType} (sound : Sound type) {value : AbiValue}
    {body : List UInt8} (encodes : Encodes type value body) : wordBytes ≤ body.length := by
  cases encodes with
  | uint _ stands | int _ stands | ufixed _ stands | fixed _ stands | address _ stands =>
    exact Nat.le_of_eq stands.length.symm
  | bool stands => exact Nat.le_of_eq stands.length.symm
  | word length padded =>
    have held := sound.length_static rfl (.word length padded)
    rw [held]
    exact Nat.le_refl _
  | bytes counts | string counts | list counts =>
    rw [List.length_append, counts.length]
    exact Nat.le_add_right _ _
  | array each =>
    cases sound with
    | array filled item_sound =>
      have least := each.length_le_front fun type member =>
        List.eq_of_mem_replicate member ▸ item_sound
      rw [List.length_replicate] at least
      have one := Nat.le_mul_of_pos_right wordBytes filled
      rw [List.length_append]
      omega
  | tuple each =>
    cases sound with
    | tuple filled parts =>
      have least := each.length_le_front parts
      have one := Nat.le_mul_of_pos_right wordBytes (List.length_pos_iff.mpr filled)
      rw [List.length_append]
      omega

/-- The first part is as long as its items are in it. -/
theorem length_heads (next : Nat) (items : List Encoded) :
    (heads next items).length = headLength items := by
  induction items generalizing next with
  | nil => rfl
  | cons item rest inductive_hypothesis =>
    rw [heads, headLength, List.foldr_cons, Encoded.headBytes]
    split
    · rw [List.length_append, inductive_hypothesis, (isWord_wordOf _).length]
      rfl
    · rw [List.length_append, inductive_hypothesis]
      rfl

/-- Items of one type are encoded as items of as many types. -/
theorem encodeEach_replicate (item : AbiType) (values : List AbiValue) :
    encodeEach (List.replicate values.length item) values =
      values.map fun value => ⟨item.isDynamic, encode item value⟩ := by
  induction values with
  | nil => rfl
  | cons value rest inductive_hypothesis =>
    rw [List.length_cons, List.replicate_succ, encodeEach, inductive_hypothesis, List.map_cons]

/-- A word that stands for the complement of an integer is the one written for it. -/
theorem IsWord.eq_wordOf {number : Int} {word : List UInt8}
    (stands : IsWord (complement number) word) :
    wordOf number = word :=
  (isWord_wordOf number).eq stands

/-- A word that stands for a number is the one written for it. -/
theorem IsWord.eq_wordOf_natCast {number : Nat} {word : List UInt8} (stands : IsWord number word) :
    wordOf number = word := by
  have bound := BigEndian.value_lt word
  rw [stands.value, stands.length] at bound
  exact (isWord_wordOf_natCast bound).eq stands

/-- The two parts of items are those that are written, if what each is encoded in is. -/
theorem EncodesEach.parts_eq
    (written : ∀ item ∈ types, ∀ {value body}, Encodes item value body → encode item value = body)
    (each : EncodesEach types values next front back) :
    heads next (encodeEach types values) = front ∧ tails (encodeEach types values) = back := by
  induction types generalizing values next front back with
  | nil =>
    cases each
    exact ⟨rfl, rfl⟩
  | cons item rest inductive_hypothesis =>
    have behind := fun {values next front back} =>
      @inductive_hypothesis values next front back fun item member => written item (.tail _ member)
    cases each with
    | static plain encodes rest =>
      obtain ⟨front_eq, back_eq⟩ := behind rest
      rw [encodeEach, heads, tails, List.flatMap_cons, written _ List.mem_cons_self encodes, plain]
      exact ⟨congrArg (_ ++ ·) front_eq, back_eq⟩
    | dynamic pointed encodes points rest =>
      obtain ⟨front_eq, back_eq⟩ := behind rest
      rw [encodeEach, heads, tails, List.flatMap_cons, written _ List.mem_cons_self encodes, pointed,
        points.eq_wordOf_natCast]
      exact ⟨congrArg (_ ++ ·) front_eq, congrArg (_ ++ ·) back_eq⟩

/-- Items in two parts are joined as they are written. -/
theorem EncodesEach.joined_eq
    (written : ∀ item ∈ types, ∀ {value body}, Encodes item value body → encode item value = body)
    (each : EncodesEach types values front.length front back) :
    joined (encodeEach types values) = front ++ back := by
  obtain ⟨front_eq, back_eq⟩ := each.parts_eq written
  have length := length_heads front.length (encodeEach types values)
  rw [front_eq] at length
  rw [joined, ← length, front_eq, back_eq]

/-- The standard encoding of a value of a sound type is the one that is written. -/
theorem Sound.encode_eq {type : AbiType} (sound : Sound type) {value : AbiValue}
    {body : List UInt8} (encodes : Encodes type value body) : encode type value = body := by
  induction sound generalizing value body with
  | uint => cases encodes with | uint _ stands => exact stands.eq_wordOf_natCast
  | int => cases encodes with | int _ stands => exact stands.eq_wordOf
  | ufixed => cases encodes with | ufixed _ stands => exact stands.eq_wordOf_natCast
  | fixed => cases encodes with | fixed _ stands => exact stands.eq_wordOf
  | address => cases encodes with | address _ stands => exact stands.eq_wordOf_natCast
  | word => cases encodes with | word _ padded => exact (isPadded_iff.mp padded).symm
  | bool =>
    cases encodes with
    | @bool value _ stands =>
      rw [encode, ← stands.eq_wordOf_natCast]
      cases value <;> rfl
  | bytes =>
    cases encodes with
    | bytes counts padded =>
      rw [encode, counted, counts.eq_wordOf_natCast, isPadded_iff.mp padded]
  | string =>
    cases encodes with
    | string counts padded =>
      rw [encode, counted, counts.eq_wordOf_natCast, isPadded_iff.mp padded]
  | array _ _ written =>
    cases encodes with
    | array each =>
      rw [encode, ← encodeEach_replicate]
      exact each.joined_eq fun type member => List.eq_of_mem_replicate member ▸ written
  | list _ written =>
    cases encodes with
    | list counts each =>
      rw [encode, ← encodeEach_replicate, counts.eq_wordOf_natCast]
      exact congrArg _ (each.joined_eq fun type member => List.eq_of_mem_replicate member ▸ written)
  | tuple _ _ written =>
    cases encodes with
    | tuple each =>
      rw [encode]
      exact each.joined_eq written

end

end Attest.AbiType
