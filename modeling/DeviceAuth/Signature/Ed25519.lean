import DeviceAuth.Field.Basic
import DeviceAuth.Hash.Sha512

/-!
**Ed25519 signatures.** Keys and signatures are points of the curve `-x² + y² = 1 + d x² y²` over
the field of order `2²⁵⁵ - 19`, written as `y` with the parity of `x` in the top bit.

Checking computes `s B - k A` and compares its bytes with those of `R`, so `R` must be in its only
written form. The number `s` must be below the order of the base point. A public key may be any
written point, also of small order, and also with a `y` that is not reduced; its bytes enter the
hash as they were given.
-/

namespace DeviceAuth.Ed25519

/-- The order of the coordinate field. -/
def fieldModulus : Nat := Nat.pow 2 255 - 19

instance : @NeZero Nat Zero.ofOfNat0 fieldModulus := ⟨by decide⟩

/-- A coordinate. -/
abbrev Coordinate := Fin fieldModulus

/-- The order of the base point. -/
def groupOrder : Nat := Nat.pow 2 252 + 27742317777372353535851937790883648493

/-- The inverse of a coordinate; zero for zero. -/
def inverse (element : Coordinate) : Coordinate :=
  power 1 element (fieldModulus - 2)

/-- A square root of minus one. -/
def rootOfMinusOne : Coordinate :=
  power 1 2 ((fieldModulus - 1) / 4)

/-- A square root, if there is one: a power gives it up to a root of minus one. -/
def squareRoot? (element : Coordinate) : Option Coordinate :=
  let candidate := power 1 element ((fieldModulus + 3) / 8)
  let turned := candidate * rootOfMinusOne
  if candidate * candidate = element then some candidate
  else if turned * turned = element then some turned
  else none

/-- The constant `d` of the curve. -/
def curveConstant : Coordinate :=
  -121665 * inverse 121666

/-- A point `x = X / Z`, `y = Y / Z`, with `T = X Y / Z`. -/
structure Point where
  x : Coordinate
  y : Coordinate
  z : Coordinate
  t : Coordinate

namespace Point

/-- The neutral point. -/
def neutral : Point := ⟨0, 1, 1, 0⟩

/-- The point with these plain coordinates. -/
def ofPlain (x y : Coordinate) : Point := ⟨x, y, 1, x * y⟩

/-- The sum of two points; the rule holds for equal and for neutral points too. -/
def add (p q : Point) : Point :=
  let a := (p.y - p.x) * (q.y - q.x)
  let b := (p.y + p.x) * (q.y + q.x)
  let c := 2 * curveConstant * p.t * q.t
  let d := 2 * p.z * q.z
  let e := b - a
  let f := d - c
  let g := d + c
  let h := b + a
  ⟨e * f, g * h, f * g, e * h⟩

/-- The negative of a point. -/
def negate (p : Point) : Point :=
  ⟨-p.x, p.y, p.z, -p.t⟩

/-- The multiple of a point. -/
def multiple (factor : Nat) (point : Point) : Point :=
  (binary factor).foldl
    (fun result digit =>
      let doubled := result.add result
      if digit then doubled.add point else doubled)
    neutral

/-- The 32 bytes of a point. -/
def encode (p : Point) : Bytes :=
  let inverse := inverse p.z
  let x := p.x * inverse
  let y := p.y * inverse
  Bytes.ofNatLE 32 (y.val + (x.val % 2) * Nat.pow 2 255)

/-- The point that 32 bytes describe, if there is one. -/
def decode? (bytes : Bytes) : Option Point := do
  let number := Bytes.toNatLE bytes
  let y : Coordinate := Fin.ofNat fieldModulus (number % Nat.pow 2 255)
  let square := y * y
  let root ← squareRoot? ((square - 1) * inverse (curveConstant * square + 1))
  let x := if root.val % 2 = number / Nat.pow 2 255 then root else -root
  return ofPlain x y

/-- The base point. -/
def base : Point :=
  ofPlain
    15112221349535400772501151409588531511454012693041857206046113283949847762202
    46316835694926478169428394003475163141307993866256225615783033603165251855960

end Point

/-- A public key: its bytes as given, and their point. -/
structure PublicKey where
  bytes : Bytes
  point : Point

/-- The public key of 32 bytes, if they describe a point. -/
def PublicKey.ofBytes? (bytes : Bytes) : Option PublicKey :=
  (Point.decode? bytes).map fun point => ⟨bytes, point⟩

/-- A secret key: the seed of 32 bytes from which all else is derived. -/
structure SecretKey where
  seed : Bytes

namespace SecretKey

/-- The secret number: the first half of the seed's hash, its lowest three bits and its highest bit
cleared and the bit below that set. -/
def number (key : SecretKey) : Nat :=
  let half := Bytes.toNatLE ((Sha512.digest key.seed).take 32)
  half % Nat.pow 2 254 / 8 * 8 + Nat.pow 2 254

/-- The second half of the seed's hash, which makes signing deterministic. -/
def nonceKey (key : SecretKey) : Bytes :=
  (Sha512.digest key.seed).drop 32

/-- The bytes of the public key. -/
def publicBytes (key : SecretKey) : Bytes :=
  (Point.base.multiple key.number).encode

end SecretKey

/-- The number that binds a signature to the key and the message. -/
def challenge (commitment publicBytes message : Bytes) : Nat :=
  Bytes.toNatLE (Sha512.digest (commitment ++ publicBytes ++ message)) % groupOrder

/-- The signature of a message, 64 bytes. -/
def sign (key : SecretKey) (message : Bytes) : Bytes :=
  let nonce := Bytes.toNatLE (Sha512.digest (key.nonceKey ++ message)) % groupOrder
  let commitment := (Point.base.multiple nonce).encode
  let bound := challenge commitment key.publicBytes message
  commitment ++ Bytes.ofNatLE 32 ((nonce + bound * key.number) % groupOrder)

/-- Whether 64 bytes are a signature of the message under the key. -/
def verify (key : PublicKey) (message signature : Bytes) : Bool :=
  let commitment := signature.take 32
  let response := Bytes.toNatLE (signature.drop 32)
  if groupOrder ≤ response then false
  else
    let bound := challenge commitment key.bytes message
    let expected := (Point.base.multiple response).add (key.point.negate.multiple bound)
    expected.encode == commitment

end DeviceAuth.Ed25519
