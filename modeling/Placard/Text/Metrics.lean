/-!
How much room a text takes. Where texts are put in their places this is left open: it depends on
what they are shown on.
-/

namespace Placard.Text

/-- The measures of a text where `σ` shows it: its columns, and its characters as they are
perceived. -/
class Metrics (σ : Type) where
  width : List Char → Nat
  glyphCount : List Char → Nat

end Placard.Text
