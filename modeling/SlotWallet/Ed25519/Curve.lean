import SlotWallet.Bytes
import SlotWallet.Ed25519.Field

/-!
# The twisted Edwards curve

Points satisfy `-x² + y² = 1 + d x² y²` and are kept in extended coordinates, for
which one addition law covers all cases. The 32-byte form of a point is `y` with
the parity of `x` in the top bit.
-/

namespace SlotWallet.Ed25519

open Ed25519.Field

def curveD : Nat := mul (neg 121665) (inv 121666)

/-- `(x / z, y / z)` with `t = x y / z`. -/
structure Point where
  x : Nat
  y : Nat
  z : Nat
  t : Nat

namespace Point

def zero : Point := ⟨0, 1, 1, 0⟩

def add (p q : Point) : Point :=
  let a := mul (sub p.y p.x) (sub q.y q.x)
  let b := mul (Field.add p.y p.x) (Field.add q.y q.x)
  let c := mul (mul (mul 2 curveD) p.t) q.t
  let d := mul (mul 2 p.z) q.z
  let e := sub b a
  let f := sub d c
  let g := Field.add d c
  let h := Field.add b a
  ⟨mul e f, mul g h, mul f g, mul e h⟩

def neg (p : Point) : Point := ⟨Field.neg p.x, p.y, p.z, Field.neg p.t⟩

def smul (n : Nat) (p : Point) : Point :=
  if n = 0 then zero
  else
    let half := smul (n / 2) p
    let double := add half half
    if n % 2 = 0 then double else add double p
termination_by n
decreasing_by omega

def ofAffine (x y : Nat) : Point := ⟨x, y, 1, mul x y⟩

def encodedValue (p : Point) : Nat :=
  let z := inv p.z
  mul p.y z + (mul p.x z % 2) <<< 255

def encode (p : Point) : FixedBytes 32 :=
  ⟨Bytes.ofLittleEndian 32 p.encodedValue, Bytes.length_ofLittleEndian ..⟩

/-- Reads a point. `y` may be given by a number that is not below the modulus,
and the root zero has either sign. -/
def decode? (bytes : FixedBytes 32) : Option Point :=
  let value := Bytes.littleEndian bytes.bytes
  let y := value % (1 <<< 255) % modulus
  let odd := (value >>> 255) % 2
  let y2 := mul y y
  (sqrtRatio? (sub y2 1) (Field.add (mul curveD y2) 1)).map fun x =>
    ofAffine (if odd = 1 then Field.neg x else x) y

def base : Point :=
  ofAffine 15112221349535400772501151409588531511454012693041857206046113283949847762202
    46316835694926478169428394003475163141307993866256225615783033603165251855960

end Point

def order : Nat := (1 <<< 252) + 27742317777372353535851937790883648493

end SlotWallet.Ed25519
