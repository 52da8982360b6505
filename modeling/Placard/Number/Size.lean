/-!
Sizes, which are numbers of 64 bits.
-/

namespace Placard.Number

/-- The first number that is no size any more. -/
def sizeLimit : Nat := 0x10000000000000000

/-- The sum of two sizes. Where it would be no size any more it starts again at zero. -/
def addSizes (a b : Nat) : Nat := (a + b) % sizeLimit

theorem addSizes_eq (h : a + b < sizeLimit) : addSizes a b = a + b := Nat.mod_eq_of_lt h

end Placard.Number
