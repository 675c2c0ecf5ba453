/-!
# The Keccak-256 digest

The sponge of twenty-five lanes of 64 bits with a rate of 136 bytes and the padding of the first
Keccak submission, whose first padding bit is the only difference to the later standard.
-/
namespace Attest.Keccak

/-- The lanes of the sponge, five rows of five. -/
abbrev State := Array UInt64

/-- A lane, zero outside the state. -/
def lane (state : State) (index : Nat) : UInt64 := state.getD index 0

/-- The constants of the twenty-four rounds. -/
def roundConstants : List UInt64 :=
  [0x0000000000000001, 0x0000000000008082, 0x800000000000808a, 0x8000000080008000,
    0x000000000000808b, 0x0000000080000001, 0x8000000080008081, 0x8000000000008009,
    0x000000000000008a, 0x0000000000000088, 0x0000000080008009, 0x000000008000000a,
    0x000000008000808b, 0x800000000000008b, 0x8000000000008089, 0x8000000000008003,
    0x8000000000008002, 0x8000000000000080, 0x000000000000800a, 0x800000008000000a,
    0x8000000080008081, 0x8000000000008080, 0x0000000080000001, 0x8000000080008008]

/-- How far each lane is turned. -/
def offsets : Array UInt64 :=
  #[0, 1, 62, 28, 27, 36, 44, 6, 55, 20, 3, 10, 43, 25, 39, 41, 45, 15, 21, 8, 18, 2, 61, 56, 14]

/-- A word turned toward its high end. -/
def turn (word amount : UInt64) : UInt64 := (word <<< amount) ||| (word >>> (64 - amount))

/-- Mix into each lane the parity of two columns. -/
def mixColumns (state : State) : State :=
  let parity := Array.ofFn fun x : Fin 5 =>
    (List.range 5).foldl (fun total y => total ^^^ lane state (5 * y + x)) 0
  Array.ofFn fun i : Fin 25 =>
    lane state i ^^^ lane parity ((i + 4) % 5) ^^^ turn (lane parity ((i + 1) % 5)) 1

/-- Turn each lane and move it to its new place. -/
def moveLanes (state : State) : State :=
  Array.ofFn fun i : Fin 25 =>
    let source := 5 * (i.val % 5) + (i.val % 5 + 3 * (i.val / 5)) % 5
    turn (lane state source) (lane offsets source)

/-- Combine each lane with the next two of its row. -/
def mixRows (state : State) : State :=
  Array.ofFn fun i : Fin 25 =>
    let row := 5 * (i.val / 5)
    lane state i ^^^
      (~~~(lane state (row + (i.val + 1) % 5)) &&& lane state (row + (i.val + 2) % 5))

/-- One round. -/
def round (state : State) (constant : UInt64) : State :=
  let mixed := mixRows (moveLanes (mixColumns state))
  mixed.set! 0 (lane mixed 0 ^^^ constant)

/-- All rounds. -/
def permute (state : State) : State := roundConstants.foldl round state

/-- The bytes that the sponge takes in at a time. -/
def rate : Nat := 136

/-- A word of the bytes at its front, the lowest first. -/
def littleWord (bytes : List UInt8) : UInt64 :=
  (bytes.take 8).foldr (fun byte word => (word <<< 8) ||| byte.toUInt64) 0

/-- The bytes of a word, the lowest first. -/
def wordBytes (word : UInt64) : List UInt8 :=
  (List.range 8).map fun i => (word >>> (8 * i).toUInt64).toUInt8

/-- Take in one block. -/
def absorb (state : State) (block : List UInt8) : State :=
  permute (Array.ofFn fun i : Fin 25 =>
    if i.val < rate / 8 then lane state i ^^^ littleWord (block.drop (8 * i)) else lane state i)

/-- Bytes filled up to whole blocks. -/
def pad (bytes : List UInt8) : List UInt8 :=
  let missing := rate - bytes.length % rate
  if missing == 1 then bytes ++ [0x81]
  else bytes ++ 0x01 :: List.replicate (missing - 2) 0x00 ++ [0x80]

/-- The digest of 32 bytes. -/
def digest (bytes : List UInt8) : List UInt8 :=
  let padded := pad bytes
  let blocks := (List.range (padded.length / rate)).map fun i =>
    (padded.drop (rate * i)).take rate
  let final := blocks.foldl absorb (Array.replicate 25 0)
  ((List.range 4).flatMap fun i => wordBytes (lane final i))

end Attest.Keccak
