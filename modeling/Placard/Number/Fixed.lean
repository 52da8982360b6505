import Placard.Number.Unsigned

/-!
Floating point numbers with two decimal places. The exact binary value is rounded once, a tie
going to the even neighbour; a negative number keeps its sign even if it rounds to zero.
-/

namespace Placard.Number

/-- `num / den` to the nearest whole number, a tie going to the even one. -/
def roundDiv (num den : Nat) : Nat :=
  let quotient := num / den
  let twiceRest := 2 * (num % den)
  if den < twiceRest || twiceRest = den && quotient % 2 = 1 then quotient + 1 else quotient

/-- `mantissa * 2 ^ exponent` in hundredths. -/
def hundredths (mantissa : Nat) (exponent : Int) : Nat :=
  if 0 ≤ exponent then mantissa <<< exponent.toNat * 100
  else roundDiv (mantissa * 100) (1 <<< (-exponent).toNat)

/-- `count / 100` written with two places. -/
def writeHundredths (count : Nat) : List Char :=
  decimal (count / 100) ++ ['.', (count / 10 % 10).digitChar, (count % 10).digitChar]

/-- A floating point number with two decimal places. -/
def writeFixed (x : Float) : List Char :=
  if x.isNaN then "NaN".toList
  else
    let sign := if x.toBits < 0x8000000000000000 then [] else ['-']
    if x.isInf then sign ++ "inf".toList
    else
      let fraction := (x.toBits &&& 0xFFFFFFFFFFFFF).toNat
      let exponent := (x.toBits >>> 52 &&& 0x7FF).toNat
      let mantissa := if exponent = 0 then fraction else fraction + 0x10000000000000
      sign ++ writeHundredths (hundredths mantissa ((max exponent 1 : Nat) - 1075))

end Placard.Number
