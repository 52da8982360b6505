import Placard.Style

/-!
The styles that apply to whatever text comes next. Each opening gets a number of its own, so that
one that is opened again counts as new. It is known by an id of 32 bits, which comes again after so
many openings.
-/

namespace Placard

structure OpenStyle where
  /-- How many were opened before it. -/
  number : Nat
  span : Span
  deriving DecidableEq, Inhabited

/-- The first number that is no id any more. -/
def OpenStyle.idLimit : Nat := 0x100000000

def OpenStyle.id (style : OpenStyle) : Nat := style.number % idLimit

structure OpenStyles where
  /-- The oldest first. -/
  active : List OpenStyle := []
  /-- How many were opened so far. -/
  count : Nat := 0
  deriving DecidableEq, Inhabited

namespace OpenStyles

def opened (styles : OpenStyles) (span : Span) : OpenStyles where
  active := styles.active ++ [⟨styles.count, span⟩]
  count := styles.count + 1

/-- Closes the most recent opening of a span. -/
def closed (styles : OpenStyles) (span : Span) : OpenStyles :=
  { styles with active := (styles.active.reverse.eraseP (·.span = span)).reverse }

/-- Closes everything. -/
def cleared (styles : OpenStyles) : OpenStyles := { styles with active := [] }

def isEmpty (styles : OpenStyles) : Bool := styles.active.isEmpty

end OpenStyles

end Placard
