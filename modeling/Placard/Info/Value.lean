import Placard.RichText
import Placard.Number.Fixed

/-!
What an info tag stands for.
-/

namespace Placard.Info

inductive Value where
  | text (text : String)
  | rich (rich : RichText)
  | count (n : Nat)
  /-- Shown with two decimal places. -/
  | real (x : Float)
  deriving Inhabited

namespace Value

/-- The visible text. -/
def toText : Value → List Char
  | .text s => s.toList
  | .rich r => r.text
  | .count n => Number.decimal n
  | .real x => Number.writeFixed x

/-- The text with its styles. -/
def toRich : Value → RichText
  | .rich r => r
  | value => .plain value.toText

end Value

/-- Stands for a fact that is not known. A line that holds it is not shown. -/
def missingMark : String := "(cut this line NOW!! RAHHH)"

def Value.missing : Value := .text missingMark

/-- A fact that may not be known. -/
def Value.ofOption : Option String → Value
  | some fact => .text fact
  | none => .missing

end Placard.Info
