import Placard.Style

/-!
Mixing two colors in binary32 arithmetic. Each channel is `a * (1 - ratio) + b * ratio` with the
first product and the sum taken together and rounded once, then cut to a byte.
-/

namespace Placard

/-- `mantissa * 2 ^ exponent`. -/
structure Binary where
  mantissa : Int
  exponent : Int

namespace Binary

/-- The exact value of a finite binary32 number. -/
def ofFloat32 (x : Float32) : Binary :=
  let fraction := (x.toBits &&& 0x7FFFFF).toNat
  let exponent := (x.toBits >>> 23 &&& 0xFF).toNat
  let magnitude : Int := if exponent = 0 then fraction else fraction + 0x800000
  ⟨if x.toBits < 0x80000000 then magnitude else -magnitude, (max exponent 1 : Nat) - 150⟩

def add (x y : Binary) : Binary :=
  let exponent := min x.exponent y.exponent
  ⟨x.mantissa <<< (x.exponent - exponent).toNat + y.mantissa <<< (y.exponent - exponent).toNat,
    exponent⟩

/-- The nearest value of at most `digits` binary digits, a tie going to the even neighbour. -/
def roundTo (digits : Nat) (mantissa : Nat) (exponent : Int) : Nat × Int :=
  let excess := mantissa.log2 + 1 - digits
  let unit := 1 <<< excess
  let quotient := mantissa / unit
  let twiceRest := 2 * (mantissa % unit)
  if unit < twiceRest || unit = twiceRest && quotient % 2 = 1 then
    (quotient + 1, exponent + excess)
  else (quotient, exponent + excess)

/-- The value rounded to binary32 and cut to a byte; what lies outside goes to the nearer end. -/
def toByte (x : Binary) : UInt8 :=
  if x.mantissa ≤ 0 then 0
  else
    let (mantissa, exponent) := roundTo 24 x.mantissa.toNat x.exponent
    let whole := if 0 ≤ exponent then mantissa <<< exponent.toNat else mantissa >>> (-exponent).toNat
    .ofNat (min whole 255)

end Binary

/-- `a * inverse + product` as a byte. What is not a number counts as zero. -/
def fusedByte (a : UInt8) (inverse product : Float32) : UInt8 :=
  if inverse.isNaN || product.isNaN || inverse.isInf then 0
  else if product.isInf then if product > 0 then 255 else 0
  else
    let first := Binary.ofFloat32 inverse
    (Binary.add ⟨a.toNat * first.mantissa, first.exponent⟩ (.ofFloat32 product)).toByte

/-- Mixes two colors: ratio 0 keeps the first, ratio 1 gives the second. -/
def Rgb.blend (a b : Rgb) (ratio : Float32) : Rgb :=
  let mix (x y : UInt8) : UInt8 := fusedByte x (1 - ratio) (y.toNat.toFloat32 * ratio)
  ⟨mix a.r b.r, mix a.g b.g, mix a.b b.b⟩

/-- Half way to white. -/
def Rgb.lighten (c : Rgb) : Rgb := c.blend .white 0.5

end Placard
