/-!
Whole numbers in text.
-/

namespace Placard.Number

def digitValue (c : Char) : Nat := c.toNat - 48

/-- The number that decimal digits write. -/
def ofDigits (digits : List Char) : Nat := digits.foldl (fun n c => 10 * n + digitValue c) 0

/-- Decimal digits, at least one of them, after an optional plus sign. The number must not
exceed `limit`. -/
def readUnsigned? (limit : Nat) (cs : List Char) : Option Nat :=
  let digits := match cs with
    | '+' :: rest => rest
    | _ => cs
  if digits.isEmpty || !digits.all Char.isDigit then none
  else if limit < ofDigits digits then none
  else some (ofDigits digits)

/-- The decimal digits of `n`. -/
def decimal (n : Nat) : List Char := Nat.toDigits 10 n

theorem isDigit_of_mem_decimal {n : Nat} {c : Char} (h : c ∈ decimal n) : c.isDigit = true :=
  Nat.isDigit_of_mem_toDigits (by decide) (by decide) h

theorem ofDigits_decimal (n : Nat) : ofDigits (decimal n) = n := Nat.ofDigitChars_ten_toDigits

theorem readUnsigned?_decimal {n limit : Nat} (h : n ≤ limit) :
    readUnsigned? limit (decimal n) = some n := by
  have hdigits : (match decimal n with | '+' :: rest => rest | _ => decimal n) = decimal n := by
    split
    · next rest hrest =>
      have hplus : '+' ∈ decimal n := hrest ▸ List.mem_cons_self
      exact absurd (isDigit_of_mem_decimal hplus) (by decide)
    · rfl
  have hempty : (decimal n).isEmpty = false :=
    List.isEmpty_eq_false_iff.mpr (List.ne_nil_of_length_pos Nat.length_toDigits_pos)
  have hall : (decimal n).all Char.isDigit = true :=
    List.all_eq_true.mpr fun _ => isDigit_of_mem_decimal
  unfold readUnsigned?
  dsimp only
  rw [hdigits, hempty, hall, ofDigits_decimal, if_neg (by decide), if_neg (Nat.not_lt.mpr h)]

/-- The largest number of 64 bits. -/
def maxWord : Nat := 0xFFFFFFFFFFFFFFFF

end Placard.Number
