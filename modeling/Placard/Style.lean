import Placard.Text.Hex

/-!
Colors, modifiers and the style they add up to. A `Span` is one thing that can be set, a
`Style` the effect of all spans that cover a character.
-/

namespace Placard

structure Rgb where
  r : UInt8
  g : UInt8
  b : UInt8
  deriving DecidableEq, Inhabited

namespace Rgb

def black : Rgb := ⟨0, 0, 0⟩

def white : Rgb := ⟨255, 255, 255⟩

/-- The low 24 bits, red first. -/
def ofNat (n : Nat) : Rgb :=
  ⟨.ofNat (n / 0x10000 % 0x100), .ofNat (n / 0x100 % 0x100), .ofNat (n % 0x100)⟩

/-- Reads `RGB`, `RRGGBB` or `AARRGGBB`: a single digit stands for two of it, and the first
byte of four is left out. -/
def parseHex (digits : List Char) : Option Rgb :=
  match digits.mapM Text.hexValue? with
  | some [r, g, b] => some ⟨.ofNat (17 * r), .ofNat (17 * g), .ofNat (17 * b)⟩
  | some [r₁, r₀, g₁, g₀, b₁, b₀] | some [_, _, r₁, r₀, g₁, g₀, b₁, b₀] =>
    some ⟨.ofNat (16 * r₁ + r₀), .ofNat (16 * g₁ + g₀), .ofNat (16 * b₁ + b₀)⟩
  | _ => none

/-- The six digits of a color in lower case. -/
def hex (c : Rgb) : List Char := Text.hexByte c.r ++ Text.hexByte c.g ++ Text.hexByte c.b

/-- A color as it is written: `#rrggbb`. -/
def notate (c : Rgb) : String := String.ofList ('#' :: c.hex)

end Rgb

/-- How text is set off besides its color. -/
structure Modifiers where
  bold : Bool := false
  italic : Bool := false
  underline : Bool := false
  blink : Bool := false
  strikethrough : Bool := false
  deriving DecidableEq, Inhabited

namespace Modifiers

/-- No modifier at all. -/
def none : Modifiers := {}

def union (m n : Modifiers) : Modifiers where
  bold := m.bold || n.bold
  italic := m.italic || n.italic
  underline := m.underline || n.underline
  blink := m.blink || n.blink
  strikethrough := m.strikethrough || n.strikethrough

/-- The modifiers of `m` that `n` lacks. -/
def difference (m n : Modifiers) : Modifiers where
  bold := m.bold && !n.bold
  italic := m.italic && !n.italic
  underline := m.underline && !n.underline
  blink := m.blink && !n.blink
  strikethrough := m.strikethrough && !n.strikethrough

def isEmpty (m : Modifiers) : Bool :=
  !(m.bold || m.italic || m.underline || m.blink || m.strikethrough)

/-- The names of the modifiers that are set. -/
def names (m : Modifiers) : List String :=
  [(m.bold, "BOLD"), (m.italic, "ITALIC"), (m.underline, "UNDERLINE"), (m.blink, "BLINK"),
    (m.strikethrough, "STRIKETHROUGH")].filterMap fun (isSet, name) =>
    if isSet then some name else .none

/-- The names, with bars between them. -/
def notate (m : Modifiers) : String := " | ".intercalate m.names

end Modifiers

/-- One property that can be laid over a range of text. -/
inductive Span where
  | foreground (color : Rgb)
  | background (color : Rgb)
  | emphasis (modifiers : Modifiers)
  deriving DecidableEq, Inhabited

/-- The combined effect of every span over a character. A color that is not set is the
terminal's own. -/
structure Style where
  fg : Option Rgb := none
  bg : Option Rgb := none
  modifiers : Modifiers := {}
  deriving DecidableEq, Inhabited

namespace Style

def plain : Style := {}

/-- Colors replace the one below, modifiers add up. -/
def apply (style : Style) : Span → Style
  | .foreground color => { style with fg := some color }
  | .background color => { style with bg := some color }
  | .emphasis modifiers => { style with modifiers := style.modifiers.union modifiers }

/-- The effect of `spans`, the last one on top. -/
def applyAll (style : Style) (spans : List Span) : Style := spans.foldl apply style

def isPlain (style : Style) : Bool :=
  style.fg.isNone && style.bg.isNone && style.modifiers.isEmpty

end Style

end Placard
