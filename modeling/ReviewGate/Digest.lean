/-!
# Digests

SHA-256 of the UTF-8 bytes of a text, written in hexadecimal.
-/

namespace ReviewGate.Digest

/-- The eight words of the running state. -/
structure State where
  a : UInt32
  b : UInt32
  c : UInt32
  d : UInt32
  e : UInt32
  f : UInt32
  g : UInt32
  h : UInt32
  deriving DecidableEq

/-- Fractions of the square roots of the first eight primes. -/
def start : State :=
  ⟨0x6a09e667, 0xbb67ae85, 0x3c6ef372, 0xa54ff53a, 0x510e527f, 0x9b05688c, 0x1f83d9ab, 0x5be0cd19⟩

/-- Fractions of the cube roots of the first sixty-four primes. -/
def roundConstants : List UInt32 :=
  [0x428a2f98, 0x71374491, 0xb5c0fbcf, 0xe9b5dba5, 0x3956c25b, 0x59f111f1, 0x923f82a4, 0xab1c5ed5,
   0xd807aa98, 0x12835b01, 0x243185be, 0x550c7dc3, 0x72be5d74, 0x80deb1fe, 0x9bdc06a7, 0xc19bf174,
   0xe49b69c1, 0xefbe4786, 0x0fc19dc6, 0x240ca1cc, 0x2de92c6f, 0x4a7484aa, 0x5cb0a9dc, 0x76f988da,
   0x983e5152, 0xa831c66d, 0xb00327c8, 0xbf597fc7, 0xc6e00bf3, 0xd5a79147, 0x06ca6351, 0x14292967,
   0x27b70a85, 0x2e1b2138, 0x4d2c6dfc, 0x53380d13, 0x650a7354, 0x766a0abb, 0x81c2c92e, 0x92722c85,
   0xa2bfe8a1, 0xa81a664b, 0xc24b8b70, 0xc76c51a3, 0xd192e819, 0xd6990624, 0xf40e3585, 0x106aa070,
   0x19a4c116, 0x1e376c08, 0x2748774c, 0x34b0bcb5, 0x391c0cb3, 0x4ed8aa4a, 0x5b9cca4f, 0x682e6ff3,
   0x748f82ee, 0x78a5636f, 0x84c87814, 0x8cc70208, 0x90befffa, 0xa4506ceb, 0xbef9a3f7, 0xc67178f2]

def rotateRight (word : UInt32) (count : UInt32) : UInt32 :=
  (word >>> count) ||| (word <<< (32 - count))

/-- Words 16 to 63 of a block follow from the sixteen before them, which are kept newest first. -/
def extend : Nat → List UInt32 → List UInt32
  | 0, words => words.reverse
  | count + 1, words =>
      let early := words.getD 14 0
      let late := words.getD 1 0
      let mixedEarly := rotateRight early 7 ^^^ rotateRight early 18 ^^^ (early >>> 3)
      let mixedLate := rotateRight late 17 ^^^ rotateRight late 19 ^^^ (late >>> 10)
      extend count ((words.getD 15 0 + mixedEarly + words.getD 6 0 + mixedLate) :: words)

def round (state : State) (word constant : UInt32) : State :=
  let mixedHigh := rotateRight state.e 6 ^^^ rotateRight state.e 11 ^^^ rotateRight state.e 25
  let choice := (state.e &&& state.f) ^^^ (~~~state.e &&& state.g)
  let first := state.h + mixedHigh + choice + constant + word
  let mixedLow := rotateRight state.a 2 ^^^ rotateRight state.a 13 ^^^ rotateRight state.a 22
  let majority := (state.a &&& state.b) ^^^ (state.a &&& state.c) ^^^ (state.b &&& state.c)
  ⟨first + (mixedLow + majority), state.a, state.b, state.c, state.d + first, state.e, state.f,
    state.g⟩

/-- One block of sixteen words. -/
def absorb (state : State) (block : List UInt32) : State :=
  let words := extend 48 block.reverse
  let mixed := (words.zip roundConstants).foldl
    (fun state pair => round state pair.1 pair.2) state
  ⟨state.a + mixed.a, state.b + mixed.b, state.c + mixed.c, state.d + mixed.d, state.e + mixed.e,
    state.f + mixed.f, state.g + mixed.g, state.h + mixed.h⟩

/-- Four bytes to a word, highest first. -/
def wordsOf : List UInt8 → List UInt32
  | a :: b :: c :: d :: rest =>
      ((a.toUInt32 <<< 24) ||| (b.toUInt32 <<< 16) ||| (c.toUInt32 <<< 8) ||| d.toUInt32) ::
        wordsOf rest
  | _ => []

/-- The message, a one bit, zeros up to a multiple of 64 bytes, and its length in bits. -/
def padded (message : List UInt8) : List UInt8 :=
  let length := message.length
  let zeros := (119 - length % 64) % 64
  let bits := 8 * length
  message ++ 0x80 :: List.replicate zeros 0 ++
    (List.range 8).map fun index => (bits / Nat.pow 256 (7 - index)).toUInt8

/-- The words are taken sixteen at a time. -/
def absorbAll : Nat → State → List UInt32 → State
  | 0, state, _ => state
  | count + 1, state, words => absorbAll count (absorb state (words.take 16)) (words.drop 16)

/-- SHA-256 of some bytes. -/
def sha256 (message : List UInt8) : State :=
  let words := wordsOf (padded message)
  absorbAll (words.length / 16) start words

private def wordText (word : UInt32) : List Char :=
  (List.range 8).map fun index => Nat.digitChar (word.toNat / Nat.pow 16 (7 - index) % 16)

def State.toText (state : State) : String :=
  String.ofList ([state.a, state.b, state.c, state.d, state.e, state.f, state.g, state.h].flatMap
    wordText)

/-- The digest of a text. -/
def ofText (text : String) : String := (sha256 text.toUTF8.toList).toText

end ReviewGate.Digest
