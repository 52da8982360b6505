import Placard.Text.Grapheme
import Placard.Text.Metrics
import Placard.Text.Width

/-!
The measures of a text by the Unicode tables.
-/

namespace Placard.Text

abbrev Metrics.unicode (σ : Type) : Metrics σ := ⟨Text.width, Text.glyphCount⟩

end Placard.Text
