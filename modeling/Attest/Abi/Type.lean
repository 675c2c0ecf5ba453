/-!
# Types of contract arguments

The types of the values that a contract's interface names. A value is encoded in words of
thirty-two bytes: a static one in a fixed number of words, a dynamic one behind a pointer of one
word.
-/
namespace Attest

/-- The type of an argument. -/
inductive AbiType where
  /-- A natural number of so many bits. -/
  | uint (bits : Nat)
  /-- An integer of so many bits. -/
  | int (bits : Nat)
  /-- A natural number of so many bits that counts units of so many decimal places. -/
  | ufixed (bits places : Nat)
  /-- An integer of so many bits that counts units of so many decimal places. -/
  | fixed (bits places : Nat)
  /-- So many bytes. -/
  | word (size : Nat)
  | bool
  | address
  /-- Any number of bytes. -/
  | bytes
  /-- A text. -/
  | string
  /-- So many items of a type. -/
  | array (item : AbiType) (size : Nat)
  /-- Any number of items of a type. -/
  | list (item : AbiType)
  /-- One item of each type. -/
  | tuple (items : List AbiType)

namespace AbiType

/-- The bytes of a word. -/
def wordBytes : Nat := 32

mutual

/-- Whether the number of words of a value depends on the value. -/
def isDynamic : AbiType → Bool
  | bytes => true
  | string => true
  | list _ => true
  | array item _ => item.isDynamic
  | tuple items => anyDynamic items
  | _ => false

/-- Whether one of the types is dynamic. -/
def anyDynamic : List AbiType → Bool
  | [] => false
  | item :: rest => item.isDynamic || anyDynamic rest

end

mutual

/-- The words of a value of a static type. -/
def words : AbiType → Nat
  | array item size => size * item.words
  | tuple items => sumWords items
  | _ => 1

/-- The words of values of static types. -/
def sumWords : List AbiType → Nat
  | [] => 0
  | item :: rest => item.words + sumWords rest

end

/-- The bytes that a value takes among others: those of its words, or of the pointer to it. -/
def stride (type : AbiType) : Nat :=
  if type.isDynamic then wordBytes else wordBytes * type.words

/-- The words that an item of a tuple is reckoned to take when its pointers are checked: a static
array takes one for each of its items, and every other item takes one. -/
def reckoned (type : AbiType) : Nat :=
  match type with
  | array item size => if item.isDynamic then 1 else size
  | _ => 1

end AbiType

end Attest
