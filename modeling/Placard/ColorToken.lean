import Placard.Config
import Placard.Number.Unsigned
import Placard.Style.Blend

/-!
Color tokens, as they stand in color tags and in the settings. A token is, in this order, the
name of an alias, `auto` with a number, one of the two resets, the name of a palette color, a hex
color with letters for modifiers before it, or an SGR escape.
-/

namespace Placard.ColorToken

/-- What a color tag does to the open styles. -/
inductive Action where
  /-- Closes all of them; bold may be opened again. -/
  | reset (bold : Bool)
  | apply (spans : List Span)
  deriving DecidableEq

/-- Bold alone. -/
def bold : Span := .emphasis { bold := true }

/-- Where the letters before a hex color have come to. -/
inductive LetterMode where
  | letter
  /-- After a letter without a meaning, which may have an argument in parentheses. -/
  | afterUnknown
  | argument

/-- What the letters before a hex color ask for. -/
structure Letters where
  mode : LetterMode := .letter
  background : Bool := false
  modifiers : Modifiers := {}

namespace Letters

def letter (letters : Letters) (c : Char) : Letters :=
  let letters := { letters with mode := .letter }
  match c with
  | 'b' => { letters with background := true }
  | '!' => { letters with modifiers.bold := true }
  | 'u' => { letters with modifiers.underline := true }
  | 'i' => { letters with modifiers.italic := true }
  | 's' => { letters with modifiers.strikethrough := true }
  | 'l' => { letters with modifiers.blink := true }
  | _ => { letters with mode := .afterUnknown }

def next (letters : Letters) (c : Char) : Letters :=
  match letters.mode with
  | .letter => letters.letter c
  | .afterUnknown => if c = '(' then { letters with mode := .argument } else letters.letter c
  | .argument => if c = ')' then { letters with mode := .letter } else letters

def read (cs : List Char) : Letters := cs.foldl next {}

end Letters

/-- The spans of a hex color: the color, and the modifiers if there are any. -/
def readHex? (letters digits : List Char) : Option (List Span) :=
  (Rgb.parseHex digits).map fun color =>
    let letters := Letters.read letters
    (if letters.background then .background color else .foreground color)
      :: if letters.modifiers.isEmpty then [] else [.emphasis letters.modifiers]

/-- The two sides of the last hash sign. -/
def splitAtHash? (cs : List Char) : Option (List Char × List Char) :=
  let digits := (cs.reverse.takeWhile (· != '#')).reverse
  if digits.length = cs.length then none
  else some (cs.take (cs.length - digits.length - 1), digits)

/-- The color of a palette token, its letters left aside. -/
def paletteRgb? (palette : Palette) (index : Nat) : Option Rgb := do
  let token ← palette.byIndex? index
  let (_, digits) ← splitAtHash? token.toList
  Rgb.parseHex digits

/-- A color code: tens for the plane and the brightness, ones for the palette color. -/
def readCode (palette : Palette) (code : Nat) : List Span :=
  if code = 1 then [bold]
  else match paletteRgb? palette (code % 10) with
    | none => []
    | some color => match code / 10 with
      | 3 => [.foreground color]
      | 4 => [.background color]
      | 9 => [.foreground color.lighten]
      | 10 => [.background color.lighten]
      | _ => []

def readChannel? (cs : List Char) : Option UInt8 := (Number.readUnsigned? 255 cs).map UInt8.ofNat

/-- Three channels with semicolons between them. -/
def readChannels (cs : List Char) : Except EscapeFault Rgb :=
  match Text.splitOn ';' cs with
  | [r, g, b] =>
    match readChannel? r, readChannel? g, readChannel? b with
    | some r, some g, some b => .ok ⟨r, g, b⟩
    | _, _, _ => .error .channelRange
  | _ => .error .notThreeValues

/-- The spans of an SGR sequence that stands for a color. -/
def readEscape (palette : Palette) (sequence : List Char) : Except Failure (List Span) :=
  let escape := String.ofList ('\\' :: 'e' :: '[' :: sequence)
  let faulty (fault : EscapeFault) : Failure := .malformedEscape escape fault
  match Text.beforeLast? 'm' sequence with
  | none => .error (faulty .unterminated)
  | some body =>
    let after (start : String) := Text.afterStart? start.toList body
    if (after "38;5;").isSome || (after "48;5;").isSome then .error (.indexedColor escape)
    else match after "38;2;", after "48;2;" with
      | some channels, _ => ((readChannels channels).map fun c => [Span.foreground c]).mapError faulty
      | none, some channels => ((readChannels channels).map fun c => [Span.background c]).mapError faulty
      | none, none =>
        let (start, code) := match after "1;", after "0;" with
          | some code, _ => ([bold], code)
          | none, some code => ([], code)
          | none, none => ([], body)
        match Number.readUnsigned? 255 code with
        | some code => .ok (start ++ readCode palette code)
        | none => .error (faulty .notACode)

/-- A hex color or an SGR escape; `none` if the text is neither. -/
def readLiteral (palette : Palette) (literal : List Char) : Except Failure (Option (List Span)) :=
  match splitAtHash? literal with
  | some (letters, digits) => .ok (readHex? letters digits)
  | none =>
    match Text.afterStart? ['\\', 'e', '['] literal, Text.afterStart? ['\x1b', '['] literal with
    | some sequence, _ | none, some sequence => (readEscape palette sequence).map some
    | none, none => .ok none

/-- The token that `auto` with this suffix stands for, and the colors of the art as they are
then: a list without any gets `1`. A number without a color counts as the first. -/
def pickAuto (suffix : List Char) (colors : List String) : String × List String :=
  let colors := if colors.isEmpty then ["1"] else colors
  let index := ((Number.readUnsigned? Number.maxWord suffix).getD 0) - 1
  ((colors[index]?.or colors.head?).getD "1", colors)

/-- A token and what it does. -/
structure Resolved where
  /-- The token after aliases and `auto`. -/
  token : String
  action : Action
  deriving DecidableEq

/-- What a token without aliases or `auto` does; `none` if it is no color. -/
def action (palette : Palette) (token : String) : Except Failure (Option Action) :=
  match token with
  | "0" | "\\e[0m" | "\x1b[0m" => .ok (some (.reset false))
  | "1" => .ok (some (.reset true))
  | _ =>
    let literal := (palette.byName? token).getD token
    (readLiteral palette literal.toList).map (·.map .apply)

/-- Resolves a token, given the colors of the art; gives these colors as they are then. -/
def resolve (config : Config) (token : String) (colors : List String) :
    Except Failure (Option Resolved) × List String :=
  let token := (config.alias? token).getD token
  let (token, colors) := match Text.afterStart? "auto".toList token.toList with
    | some suffix => pickAuto suffix colors
    | none => (token, colors)
  ((action config.palette token).map (·.map fun action => { token, action }), colors)

end Placard.ColorToken
