import Placard.Number.Unsigned
import Placard.RichText

/-!
Styled text as a terminal takes it: the characters, and before each change of style the SGR
sequences that bring it about. Colors are written as 24-bit values.
-/

namespace Placard.Sgr

/-- An SGR sequence with these parameters. -/
def sequence (parameters : List Char) : List Char := '\x1b' :: '[' :: (parameters ++ ['m'])

/-- Back to the terminal's own style. -/
def reset : List Char := sequence ['0']

def color (plane : List Char) (c : Rgb) : List Char :=
  sequence (plane ++ ';' :: '2' :: ';' :: Number.decimal c.r.toNat
    ++ ';' :: Number.decimal c.g.toNat ++ ';' :: Number.decimal c.b.toNat)

def foreground (c : Rgb) : List Char := color ['3', '8'] c

def background (c : Rgb) : List Char := color ['4', '8'] c

/-- One sequence for each modifier. -/
def modifiers (m : Modifiers) : List Char :=
  (if m.bold then sequence ['1'] else []) ++ (if m.italic then sequence ['3'] else [])
    ++ (if m.underline then sequence ['4'] else []) ++ (if m.blink then sequence ['5'] else [])
    ++ if m.strikethrough then sequence ['9'] else []

/-- Something of `current` is not in `next`, and no sequence takes it away alone. -/
def needsReset (current next : Style) : Bool :=
  !(current.modifiers.difference next.modifiers).isEmpty
    || current.fg.isSome && next.fg.isNone || current.bg.isSome && next.bg.isNone

/-- What `next` has beyond `current`. -/
def additions (current next : Style) : List Char :=
  (match next.fg with
    | some c => if current.fg = some c then [] else foreground c
    | none => [])
  ++ (match next.bg with
    | some c => if current.bg = some c then [] else background c
    | none => [])
  ++ modifiers (next.modifiers.difference current.modifiers)

/-- Takes a terminal from one style to another. -/
def transition (current next : Style) : List Char :=
  if current = next then []
  else if needsReset current next then reset ++ additions .plain next
  else additions current next

/-- The runs of a line, each after its transition, and the style that is left at the end. -/
def encodeRuns (current : Style) : List (Style × List Char) → List Char × Style
  | [] => ([], current)
  | (style, text) :: runs =>
    let (rest, final) := encodeRuns style runs
    (transition current style ++ text ++ rest, final)

/-- A line for the terminal. It ends in a reset if a style is left, and always if `resetAfter`
asks for it, so that nothing leaks into what follows. -/
def encode (line : RichText) (resetAfter : Bool) : List Char :=
  let (body, final) := encodeRuns .plain line.runs
  body ++ if resetAfter || !final.isPlain then reset else []

end Placard.Sgr
