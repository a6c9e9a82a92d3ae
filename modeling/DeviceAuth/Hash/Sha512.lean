import DeviceAuth.Bytes

/-!
**The SHA-512 hash function.** A message is padded to whole blocks of 128 bytes; each block is mixed
into eight words of 64 bits in eighty rounds.
-/

namespace DeviceAuth.Sha512

/-- The words that start every digest: the first 64 bits of the fractional parts of the square roots
of the first eight primes. -/
def initialWords : Vector UInt64 8 :=
  #v[
    0x6a09e667f3bcc908, 0xbb67ae8584caa73b, 0x3c6ef372fe94f82b, 0xa54ff53a5f1d36f1,
    0x510e527fade682d1, 0x9b05688c2b3e6c1f, 0x1f83d9abfb41bd6b, 0x5be0cd19137e2179]

/-- One word for each round: the first 64 bits of the fractional parts of the cube roots of the
first eighty primes. -/
def roundWords : List UInt64 :=
  [
    0x428a2f98d728ae22, 0x7137449123ef65cd, 0xb5c0fbcfec4d3b2f, 0xe9b5dba58189dbbc,
    0x3956c25bf348b538, 0x59f111f1b605d019, 0x923f82a4af194f9b, 0xab1c5ed5da6d8118,
    0xd807aa98a3030242, 0x12835b0145706fbe, 0x243185be4ee4b28c, 0x550c7dc3d5ffb4e2,
    0x72be5d74f27b896f, 0x80deb1fe3b1696b1, 0x9bdc06a725c71235, 0xc19bf174cf692694,
    0xe49b69c19ef14ad2, 0xefbe4786384f25e3, 0x0fc19dc68b8cd5b5, 0x240ca1cc77ac9c65,
    0x2de92c6f592b0275, 0x4a7484aa6ea6e483, 0x5cb0a9dcbd41fbd4, 0x76f988da831153b5,
    0x983e5152ee66dfab, 0xa831c66d2db43210, 0xb00327c898fb213f, 0xbf597fc7beef0ee4,
    0xc6e00bf33da88fc2, 0xd5a79147930aa725, 0x06ca6351e003826f, 0x142929670a0e6e70,
    0x27b70a8546d22ffc, 0x2e1b21385c26c926, 0x4d2c6dfc5ac42aed, 0x53380d139d95b3df,
    0x650a73548baf63de, 0x766a0abb3c77b2a8, 0x81c2c92e47edaee6, 0x92722c851482353b,
    0xa2bfe8a14cf10364, 0xa81a664bbc423001, 0xc24b8b70d0f89791, 0xc76c51a30654be30,
    0xd192e819d6ef5218, 0xd69906245565a910, 0xf40e35855771202a, 0x106aa07032bbd1b8,
    0x19a4c116b8d2d0c8, 0x1e376c085141ab53, 0x2748774cdf8eeb99, 0x34b0bcb5e19b48a8,
    0x391c0cb3c5c95a63, 0x4ed8aa4ae3418acb, 0x5b9cca4f7763e373, 0x682e6ff3d6b2b8a3,
    0x748f82ee5defb2fc, 0x78a5636f43172f60, 0x84c87814a1f0ab72, 0x8cc702081a6439ec,
    0x90befffa23631e28, 0xa4506cebde82bde9, 0xbef9a3f7b2c67915, 0xc67178f2e372532b,
    0xca273eceea26619c, 0xd186b8c721c0c207, 0xeada7dd6cde0eb1e, 0xf57d4f7fee6ed178,
    0x06f067aa72176fba, 0x0a637dc5a2c898a6, 0x113f9804bef90dae, 0x1b710b35131c471b,
    0x28db77f523047d84, 0x32caab7b40c72493, 0x3c9ebe0a15c9bebc, 0x431d67c49c100d4c,
    0x4cc5d4becb3e42b6, 0x597f299cfc657e2a, 0x5fcb6fab3ad6faec, 0x6c44198c4a475817]

/-- Rotates a word to the right. -/
def rotate (word : UInt64) (amount : UInt64) : UInt64 :=
  (word >>> amount) ||| (word <<< (64 - amount))

/-- Mixes one word into the next words of the message schedule. -/
def smallSigma0 (word : UInt64) : UInt64 :=
  rotate word 1 ^^^ rotate word 8 ^^^ (word >>> 7)

/-- Mixes one word into the next words of the message schedule. -/
def smallSigma1 (word : UInt64) : UInt64 :=
  rotate word 19 ^^^ rotate word 61 ^^^ (word >>> 6)

/-- Mixes the bits of the first working word. -/
def bigSigma0 (word : UInt64) : UInt64 :=
  rotate word 28 ^^^ rotate word 34 ^^^ rotate word 39

/-- Mixes the bits of the fifth working word. -/
def bigSigma1 (word : UInt64) : UInt64 :=
  rotate word 14 ^^^ rotate word 18 ^^^ rotate word 41

/-- The word at a place. -/
def word {size : Nat} (words : Vector UInt64 size) (place : Nat) : UInt64 :=
  if within : place < size then words[place] else 0

/-- The next sixteen words of the message schedule, of which the first has been used. -/
def nextWindow (window : Vector UInt64 16) : Vector UInt64 16 :=
  let added := smallSigma1 (word window 14) + word window 9 + smallSigma0 (word window 1)
    + word window 0
  Vector.ofFn fun place => if place.val = 15 then added else word window (place.val + 1)

/-- One round: the eight working words after a word of the message and a round word. -/
def round (state : Vector UInt64 8) (message roundWord : UInt64) : Vector UInt64 8 :=
  let a := word state 0
  let b := word state 1
  let c := word state 2
  let e := word state 4
  let choice := (e &&& word state 5) ^^^ (~~~e &&& word state 6)
  let majority := (a &&& b) ^^^ (a &&& c) ^^^ (b &&& c)
  let first := word state 7 + bigSigma1 e + choice + roundWord + message
  let second := bigSigma0 a + majority
  #v[first + second, a, b, c, word state 3 + first, e, word state 5, word state 6]

/-- The rounds for these round words. -/
def rounds : List UInt64 → Vector UInt64 8 → Vector UInt64 16 → Vector UInt64 8
  | [], state, _ => state
  | roundWord :: rest, state, window =>
    rounds rest (round state (word window 0) roundWord) (nextWindow window)

/-- The words of a block of 128 bytes. -/
def blockWords (block : Bytes) : Vector UInt64 16 :=
  Vector.ofFn fun index =>
    UInt64.ofNat (Bytes.toNatBE ((block.drop (8 * index.val)).take 8))

/-- Mixes one block into the state. -/
def compress (state : Vector UInt64 8) (block : Bytes) : Vector UInt64 8 :=
  let final := rounds roundWords state (blockWords block)
  Vector.ofFn fun index => state[index] + final[index]

/-- The message, a one bit, zero bits, and the length in bits, together whole blocks. -/
def padded (message : Bytes) : Bytes :=
  message ++ [0x80] ++ List.replicate ((239 - message.length % 128) % 128) 0
    ++ Bytes.ofNatBE 16 (8 * message.length)

/-- The blocks of a padded message. -/
def blocks (bytes : Bytes) : List Bytes :=
  (List.range (bytes.length / 128)).map fun index => (bytes.drop (128 * index)).take 128

/-- The hash of a message. -/
def digest (message : Bytes) : Bytes :=
  ((blocks (padded message)).foldl compress initialWords).toList.flatMap fun word =>
    Bytes.ofNatBE 8 word.toNat

end DeviceAuth.Sha512
