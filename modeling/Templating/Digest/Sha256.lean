/-!
# SHA-256

The digest of a byte sequence as eight 32-bit words.  The message is padded
with a one bit, zeros and its length in bits to a whole number of 64-byte
blocks, and the blocks are folded into the state one after another.
-/

namespace Templating.Digest

/-- The eight chaining words. -/
structure State where
  a : UInt32
  b : UInt32
  c : UInt32
  d : UInt32
  e : UInt32
  f : UInt32
  g : UInt32
  h : UInt32
  deriving DecidableEq, Repr

/-- The first 32 bits of the fractional parts of the square roots of the first
eight primes. -/
def initial : State where
  a := 0x6a09e667
  b := 0xbb67ae85
  c := 0x3c6ef372
  d := 0xa54ff53a
  e := 0x510e527f
  f := 0x9b05688c
  g := 0x1f83d9ab
  h := 0x5be0cd19

/-- The first 32 bits of the fractional parts of the cube roots of the first
64 primes. -/
def roundConstants : List UInt32 :=
  [0x428a2f98, 0x71374491, 0xb5c0fbcf, 0xe9b5dba5,
    0x3956c25b, 0x59f111f1, 0x923f82a4, 0xab1c5ed5,
    0xd807aa98, 0x12835b01, 0x243185be, 0x550c7dc3,
    0x72be5d74, 0x80deb1fe, 0x9bdc06a7, 0xc19bf174,
    0xe49b69c1, 0xefbe4786, 0x0fc19dc6, 0x240ca1cc,
    0x2de92c6f, 0x4a7484aa, 0x5cb0a9dc, 0x76f988da,
    0x983e5152, 0xa831c66d, 0xb00327c8, 0xbf597fc7,
    0xc6e00bf3, 0xd5a79147, 0x06ca6351, 0x14292967,
    0x27b70a85, 0x2e1b2138, 0x4d2c6dfc, 0x53380d13,
    0x650a7354, 0x766a0abb, 0x81c2c92e, 0x92722c85,
    0xa2bfe8a1, 0xa81a664b, 0xc24b8b70, 0xc76c51a3,
    0xd192e819, 0xd6990624, 0xf40e3585, 0x106aa070,
    0x19a4c116, 0x1e376c08, 0x2748774c, 0x34b0bcb5,
    0x391c0cb3, 0x4ed8aa4a, 0x5b9cca4f, 0x682e6ff3,
    0x748f82ee, 0x78a5636f, 0x84c87814, 0x8cc70208,
    0x90befffa, 0xa4506ceb, 0xbef9a3f7, 0xc67178f2]

/-- Rotates a word to the right. -/
def rotate (word : UInt32) (count : UInt32) : UInt32 :=
  (word >>> count) ||| (word <<< (32 - count))

/-- The word that the sixteen latest schedule words, newest first, give rise
to. -/
def scheduleWord (latest : List UInt32) : UInt32 :=
  let early := latest.getD 14 0
  let late := latest.getD 1 0
  let first := rotate early 7 ^^^ rotate early 18 ^^^ (early >>> 3)
  let second := rotate late 17 ^^^ rotate late 19 ^^^ (late >>> 10)
  latest.getD 15 0 + first + latest.getD 6 0 + second

/-- Extends a schedule, newest word first, by `count` words. -/
def extendSchedule : Nat → List UInt32 → List UInt32
  | 0, words => words
  | count + 1, words => extendSchedule count (scheduleWord words :: words)

/-- One round. -/
def round (state : State) (constant word : UInt32) : State :=
  let mixedE := rotate state.e 6 ^^^ rotate state.e 11 ^^^ rotate state.e 25
  let choice := (state.e &&& state.f) ^^^ (~~~state.e &&& state.g)
  let first := state.h + mixedE + choice + constant + word
  let mixedA := rotate state.a 2 ^^^ rotate state.a 13 ^^^ rotate state.a 22
  let majority :=
    (state.a &&& state.b) ^^^ (state.a &&& state.c) ^^^ (state.b &&& state.c)
  ⟨first + (mixedA + majority), state.a, state.b, state.c,
    state.d + first, state.e, state.f, state.g⟩

/-- Adds two states word by word. -/
def State.add (left right : State) : State :=
  ⟨left.a + right.a, left.b + right.b, left.c + right.c, left.d + right.d,
    left.e + right.e, left.f + right.f, left.g + right.g, left.h + right.h⟩

/-- Folds one block of sixteen words into the state. -/
def compress (state : State) (block : List UInt32) : State :=
  let schedule := (extendSchedule 48 block.reverse).reverse
  state.add <|
    (roundConstants.zip schedule).foldl
      (fun running (constant, word) => round running constant word)
      state

/-- Bytes as big-endian words; an incomplete word at the end is dropped. -/
def words : List UInt8 → List UInt32
  | first :: second :: third :: fourth :: rest =>
      ((first.toUInt32 <<< 24) ||| (second.toUInt32 <<< 16) |||
        (third.toUInt32 <<< 8) ||| fourth.toUInt32) :: words rest
  | _ => []

/-- The eight bytes of a 64-bit length, most significant first. -/
def lengthBytes (length : Nat) : List UInt8 :=
  [56, 48, 40, 32, 24, 16, 8, 0].map fun shift =>
    UInt8.ofNat (length >>> shift)

/-- The message followed by a one bit, zeros and its length in bits. -/
def padded (message : List UInt8) : List UInt8 :=
  let zeros := (119 - message.length % 64) % 64
  message ++ 0x80 :: List.replicate zeros 0 ++ lengthBytes (8 * message.length)

/-- Folds `count` blocks of sixteen words into the state. -/
def compressBlocks : Nat → State → List UInt32 → State
  | 0, state, _ => state
  | count + 1, state, remaining =>
      compressBlocks count (compress state (remaining.take 16))
        (remaining.drop 16)

/-- The digest of a message. -/
def sha256 (message : List UInt8) : State :=
  let blocks := words (padded message)
  compressBlocks (blocks.length / 16) initial blocks

/-- The lower-case hexadecimal digit of a value below sixteen. -/
def hexDigit (value : UInt32) : Char :=
  Nat.digitChar value.toNat

/-- The eight hexadecimal digits of a word, most significant first. -/
def hexWord (word : UInt32) : List Char :=
  ([28, 24, 20, 16, 12, 8, 4, 0] : List UInt32).map fun shift =>
    hexDigit ((word >>> shift) &&& 15)

/-- The words of a state in order. -/
def State.toList (state : State) : List UInt32 :=
  [state.a, state.b, state.c, state.d, state.e, state.f, state.g, state.h]

/-- A state as 64 hexadecimal digits. -/
def State.hex (state : State) : List Char :=
  state.toList.flatMap hexWord

@[simp]
theorem length_hex (state : State) : state.hex.length = 64 := rfl

end Templating.Digest
