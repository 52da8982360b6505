/-!
Templates as trees. A `Body` is text up to a closing delimiter, or up to the end of the input;
a `Tag` is made of bodies. A tag whose body is cut off by the end of the input keeps what was
read, and its later parts are empty.
-/

namespace Placard.Template

/-- How a body ends. -/
inductive Ending where
  /-- At its delimiter, or at the end of a whole template. -/
  | closed
  /-- The input ended where the delimiter was expected. -/
  | unclosed (delimiter : Char)
  /-- The input ended inside the last tag, or before the body. -/
  | interrupted
  deriving DecidableEq

mutual

inductive Body where
  | done (ending : Ending)
  | char (c : Char) (rest : Body)
  /-- A character after a backslash. -/
  | escaped (c : Char) (rest : Body)
  /-- A backslash with nothing after it. -/
  | backslash (rest : Body)
  /-- A tag that takes `length` characters of the template. -/
  | tag (tag : Tag) (length : Nat) (rest : Body)

inductive Tag where
  /-- `$<name>` -/
  | info (name : Body)
  /-- A color token in braces. -/
  | color (token : Body)
  /-- `$%numerator,denominator%` -/
  | percentage (numerator denominator : Body)
  /-- `$[left,right,whenEqual,whenDifferent]` -/
  | conditional (left right whenEqual whenDifferent : Body)

end

def Body.ending : Body → Ending
  | .done ending => ending
  | .char _ rest => rest.ending
  | .escaped _ rest => rest.ending
  | .backslash rest => rest.ending
  | .tag _ _ rest => rest.ending

def Body.isClosed (body : Body) : Bool := body.ending = .closed

/-- Every part of the tag was read up to its delimiter. -/
def Tag.isClosed : Tag → Bool
  | .info name => name.isClosed
  | .color token => token.isClosed
  | .percentage numerator denominator => numerator.isClosed && denominator.isClosed
  | .conditional left right whenEqual whenDifferent =>
    left.isClosed && right.isClosed && whenEqual.isClosed && whenDifferent.isClosed

end Placard.Template
