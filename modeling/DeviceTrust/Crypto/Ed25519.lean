import DeviceTrust.Crypto.Sha512
/-! # Ed25519 public keys

The public key of a seed as in RFC 8032: the hash of the seed, clamped, times the base point of the
twisted Edwards curve `-x² + y² = 1 + d x² y²` over the field of order `2²⁵⁵ - 19`.
-/

namespace DeviceTrust.Ed25519

/-- The order of the field. -/
def order : Nat := Nat.pow 2 255 - 19

/-- The constant `d = -121665 / 121666` of the curve. -/
def curveConstant : Nat :=
  37095705934669439343138083508754565189542113879843219016388785533085940283555

/-- `base ^ exponent` modulo the order, for an exponent below `2 ^ bits`. -/
def power (base : Nat) : Nat → Nat → Nat
  | 0, _ => 1
  | bits + 1, exponent =>
    let half := power (base * base % order) bits (exponent / 2)
    if exponent % 2 = 1 then base * half % order else half

/-- The inverse of a non-zero element, by Fermat's theorem. -/
def inverse (a : Nat) : Nat := power a 255 (order - 2)

/-- A point `(x / z, y / z)` with `t = x y / z`. -/
structure Point where
  x : Nat
  y : Nat
  z : Nat
  t : Nat

def Point.zero : Point := ⟨0, 1, 1, 0⟩

/-- The base point, whose `y` is `4 / 5`. -/
def Point.base : Point :=
  let x := 15112221349535400772501151409588531511454012693041857206046113283949847762202
  let y := 46316835694926478169428394003475163141307993866256225615783033603165251855960
  ⟨x, y, 1, x * y % order⟩

def subtract (a b : Nat) : Nat := (a + (order - b)) % order

/-- The addition law, which is complete: it also doubles. -/
def Point.add (p q : Point) : Point :=
  let a := subtract p.y p.x * subtract q.y q.x % order
  let b := (p.y + p.x) * (q.y + q.x) % order
  let c := p.t * (2 * curveConstant % order) % order * q.t % order
  let d := 2 * p.z * q.z % order
  let e := subtract b a
  let f := subtract d c
  let g := (d + c) % order
  let h := (b + a) % order
  ⟨e * f % order, g * h % order, f * g % order, e * h % order⟩

/-- `scalar` times a point, for a scalar below `2 ^ bits`. -/
def Point.multiple (p : Point) : Nat → Nat → Point
  | 0, _ => .zero
  | bits + 1, scalar =>
    let half := (p.add p).multiple bits (scalar / 2)
    if scalar % 2 = 1 then p.add half else half

/-- `y` in 32 bytes, with the parity of `x` in the highest bit. -/
def Point.bytes (p : Point) : List UInt8 :=
  let inv := inverse p.z
  bytesOfNat 32 (p.y * inv % order + Nat.pow 2 255 * (p.x * inv % order % 2))

/-- Clear the lowest three bits and the highest, and set the second highest. -/
def clamp (n : Nat) : Nat := Nat.pow 2 254 + n % Nat.pow 2 254 / 8 * 8

def publicKey (seed : List UInt8) : List UInt8 :=
  (Point.base.multiple 255 (clamp (natOfBytes ((Sha512.hash seed).take 32)))).bytes

end DeviceTrust.Ed25519
