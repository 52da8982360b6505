/-!
Text quoted for use inside a template.
-/

namespace Placard.Template

/-- The characters that could mean something in a template. -/
def isSpecial (c : Char) : Bool := c ∈ ['\\', '$', '>', ',', '%', ']', '\x7d']

/-- A backslash goes before each special character. -/
def quote (cs : List Char) : List Char :=
  cs.flatMap fun c => if isSpecial c then ['\\', c] else [c]

end Placard.Template
