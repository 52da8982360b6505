import Placard.RichText
import Placard.Text.Quoted

/-!
Styled text spelled out for debugging.
-/

namespace Placard

def Span.notate : Span → String
  | .foreground color => "Foreground(" ++ color.notate ++ ")"
  | .background color => "Background(" ++ color.notate ++ ")"
  | .emphasis modifiers => "Emphasis(" ++ modifiers.notate ++ ")"

def StyledRange.notate (range : StyledRange) : String :=
  "StyledRange \x7b span: " ++ range.span.notate ++ ", start: " ++ toString range.start
    ++ ", end: " ++ toString range.stop ++ " \x7d"

def RichText.notate (r : RichText) : String :=
  "RichText \x7b text: " ++ String.ofList (Text.quote r.text)
    ++ ", ranges: [" ++ ", ".intercalate (r.ranges.map StyledRange.notate) ++ "] \x7d"

end Placard
