import Placard.Number.Unsigned

/-!
Floating point numbers in text: an optional sign, then `inf`, `infinity` or `nan` in any case,
or decimal digits with an optional point and an optional exponent. The point may stand first or
last, as long as there is a digit.
-/

namespace Placard.Number

/-- The float nearest to `mantissa * 10 ^ exponent`. -/
def nearestFloat (mantissa : Nat) (exponent : Int) : Float :=
  let magnitude := (decimal mantissa).length + exponent
  if mantissa = 0 || magnitude < -330 then 0
  else if 320 < magnitude then 1 / 0
  else if 0 ≤ exponent then .ofScientific mantissa false exponent.toNat
  else .ofScientific mantissa true (-exponent).toNat

/-- The exponent after the digits; there is none at the end of the text. -/
def readExponent? : List Char → Option Int
  | [] => some 0
  | c :: cs =>
    if c != 'e' && c != 'E' then none
    else
      let (negative, digits) := match cs with
        | '-' :: digits => (true, digits)
        | '+' :: digits => (false, digits)
        | _ => (false, cs)
      if digits.isEmpty || !digits.all Char.isDigit then none
      else some (if negative then -(ofDigits digits : Int) else ofDigits digits)

/-- A number without a sign. -/
def readMagnitude? (cs : List Char) : Option Float :=
  let word := cs.map Char.toLower
  if word = "inf".toList || word = "infinity".toList then some (1 / 0)
  else if word = "nan".toList then some (0 / 0)
  else
    let whole := cs.takeWhile Char.isDigit
    let (fraction, rest) := match cs.dropWhile Char.isDigit with
      | '.' :: rest => (rest.takeWhile Char.isDigit, rest.dropWhile Char.isDigit)
      | rest => ([], rest)
    if whole.isEmpty && fraction.isEmpty then none
    else (readExponent? rest).map fun exponent =>
      nearestFloat (ofDigits (whole ++ fraction)) (exponent - fraction.length)

def readReal? : List Char → Option Float
  | '-' :: cs => (readMagnitude? cs).map (- ·)
  | '+' :: cs => readMagnitude? cs
  | cs => readMagnitude? cs

end Placard.Number
