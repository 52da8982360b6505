import Placard.Layout
import Placard.RichText.Sgr
import Placard.Template.Evaluate

/-!
A whole render: the art is read, then the info lines, then both are placed. Info lines with a
missing fact are left out.
-/

namespace Placard

/-- What a render gives. -/
structure Output where
  lines : List RichText
  diagnostics : List Diagnostic
  /-- Some color was applied, so every line should end in a reset. -/
  styled : Bool

namespace Output

def plainLines (output : Output) : List String := output.lines.map RichText.toString

/-- The lines for a terminal. -/
def ansiLines (output : Output) : List String :=
  output.lines.map fun line => String.ofList (Sgr.encode line output.styled)

end Output

namespace Render

variable {σ : Type} [Provider σ]

/-- The lines of a text; a carriage return before a line end belongs to it, and an end after the
last line begins no other. -/
def lines (text : String) : List (List Char) :=
  let pieces := Text.splitOn '\n' text.toList
  pieces.dropLast.map (fun line => (Text.beforeLast? '\r' line).getD line)
    ++ (pieces.getLast?.filter (· != [])).toList

/-- A line of art; its width is that of its plain text. -/
def artLine (σ : Type) [Text.Metrics σ] (parsed : Template.Parsed) : ArtLine where
  rich := parsed.rich
  width := Text.Metrics.width σ parsed.plain

def parseArt (art : String) : Eval σ (List ArtLine) := do
  modify fun context => { context with parsingLayout := false }
  (lines art).mapM fun line => return artLine σ (← Template.parseLine (String.ofList line))

/-- The lines that a template of the layout stands for: those spliced in, or its own. -/
def parseLayoutLine (template : String) : Eval σ (List RichText) := do
  let line ← modifyGet fun context =>
    { context with sepResetApplied := false }.injectSeparatorReset template.toList
  let rich ← Template.parse (String.ofList line)
  let spliced := (← get).spliced
  if spliced.isEmpty then return [rich]
  modify fun context => { context with spliced := [] }
  return spliced

/-- The line holds the mark of a missing fact. -/
def isMissing (line : RichText) : Bool := line.contains Info.missingMark.toList

def parseLayout : Eval σ (List RichText) := do
  modify fun context => { context with parsingLayout := true }
  let lines := (← (← get).config.layout.mapM parseLayoutLine).flatten
  return lines.filter (!isMissing ·)

/-- The lines of a render, on a context that was just reset. -/
def renderLines (art : String) : Eval σ (List RichText) := do
  let config := (← get).config
  let art ← if config.disableSource then pure [] else parseArt art
  if config.printLogoOnly then
    return List.replicate config.logoPaddingTop (RichText.plain []) ++ art.map (·.rich)
  return Layout.compose config art (← parseLayout)

end Render

/-- Renders the art beside the layout. The provider is told to forget first, so no fact is kept
from one render to the next; it is given back as the queries left it. -/
def render {σ : Type} [Provider σ] (config : Config) (provider : σ) (art : String) :
    Except Halt Output × σ :=
  let start : Context σ := { config, provider }
  let (result, context) := (Render.renderLines art).run start.reset
  (result.map fun lines =>
    { lines
      diagnostics := context.diagnostics
      styled := context.firstColorSeen && !config.disableColors },
    context.provider)

end Placard
