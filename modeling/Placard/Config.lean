import Placard.VolumeTypes

/-!
Everything that a render is told besides the facts and the art.
-/

namespace Placard

/-- Where the art goes relative to the info lines. -/
inductive LogoPosition where
  | left
  | top
  | bottom
  deriving DecidableEq, Inhabited

def LogoPosition.ofWord? (word : String) : Option LogoPosition :=
  match word with
  | "left" => some left
  | "top" => some top
  | "bottom" => some bottom
  | _ => none

/-- A word that names no position is refused. -/
def LogoPosition.parse (word : String) : Except Failure LogoPosition :=
  match ofWord? word with
  | some position => .ok position
  | none => .error (.invalidValue "config.logo-position" word)

/-- The eight colors that have a name. -/
inductive PaletteColor where
  | black | red | green | yellow | blue | magenta | cyan | white
  deriving DecidableEq, Inhabited

namespace PaletteColor

/-- The colors in the order of their SGR codes. -/
def all : List PaletteColor := [black, red, green, yellow, blue, magenta, cyan, white]

def name : PaletteColor → String
  | black => "black"
  | red => "red"
  | green => "green"
  | yellow => "yellow"
  | blue => "blue"
  | magenta => "magenta"
  | cyan => "cyan"
  | white => "white"

def ofName? (name : String) : Option PaletteColor := all.find? (·.name = name)

end PaletteColor

/-- A color token for each named color. -/
structure Palette where
  black : String := "!#000000"
  red : String := "!#FF0000"
  green : String := "!#00FF00"
  yellow : String := "!#FFFF00"
  blue : String := "!#0000FF"
  magenta : String := "!#FF00FF"
  cyan : String := "!#00FFFF"
  white : String := "!#FFFFFF"
  deriving DecidableEq, Inhabited

namespace Palette

def get (palette : Palette) : PaletteColor → String
  | .black => palette.black
  | .red => palette.red
  | .green => palette.green
  | .yellow => palette.yellow
  | .blue => palette.blue
  | .magenta => palette.magenta
  | .cyan => palette.cyan
  | .white => palette.white

def set (palette : Palette) (token : String) : PaletteColor → Palette
  | .black => { palette with black := token }
  | .red => { palette with red := token }
  | .green => { palette with green := token }
  | .yellow => { palette with yellow := token }
  | .blue => { palette with blue := token }
  | .magenta => { palette with magenta := token }
  | .cyan => { palette with cyan := token }
  | .white => { palette with white := token }

theorem get_set (palette : Palette) (token : String) (c d : PaletteColor) :
    (palette.set token c).get d = if c = d then token else palette.get d := by
  cases c <;> cases d <;> rfl

/-- The token of a color by its name. -/
def byName? (palette : Palette) (name : String) : Option String :=
  (PaletteColor.ofName? name).map palette.get

/-- The token of a color by its place in SGR order. -/
def byIndex? (palette : Palette) (index : Nat) : Option String :=
  PaletteColor.all[index]?.map palette.get

end Palette

/-- How `$<auto.disk>` lists the volumes. -/
structure AutoDisk where
  /-- The template of a line, in which `%1` to `%8` stand for facts of the volume. -/
  format : String := "$\x7bauto\x7dDisk (%1): $<disk(%1)>"
  displayTypes : VolumeTypes := { regular := true, isExternal := true }
  /-- Volumes of a device that is already listed are shown too. -/
  showDuplicated : Bool := false
  deriving DecidableEq, Inhabited

/-- What stands after each amount of an uptime. -/
structure UptimeSuffixes where
  days : String := " days"
  hours : String := " hours"
  mins : String := " mins"
  secs : String := " secs"
  deriving DecidableEq, Inhabited

/-- The colors of low, medium and high percentages. -/
structure PercentageColors where
  low : String := "green"
  medium : String := "yellow"
  high : String := "red"
  deriving DecidableEq, Inhabited

def defaultLayout : List String :=
  ["$<title>",
    "$<title_sep>",
    "$\x7bauto\x7dOS: $<os.name> $<system.arch>",
    "$\x7bauto\x7dHost: $<system.host>",
    "$\x7bauto\x7dKernel: $<os.kernel>",
    "$\x7bauto\x7dUptime: $<os.uptime>",
    "$\x7bauto\x7dTerminal: $<user.terminal>",
    "$\x7bauto\x7dShell: $<user.shell>",
    "$\x7bauto\x7dTheme: $<theme-gtk3.name>",
    "$\x7bauto\x7dCPU: $<cpu>",
    "$\x7bauto\x7dGPU: $<gpu>",
    "$\x7bauto\x7dRAM: $<ram>",
    "$\x7bauto\x7dSwap: $<swap>",
    "$<auto.disk>",
    "$\x7bauto\x7dBattery: $<battery>",
    "",
    "$<colors>",
    "$<colors_light>"]

structure Config where
  /-- A template for each info line. -/
  layout : List String := defaultLayout
  /-- Which art to show, for whoever loads it. -/
  sourcePath : String := "os"
  /-- Repeated to underline the title. -/
  titleSep : String := "-"
  /-- Each info line gets a color reset at the first place where this stands; empty for none. -/
  sepReset : String := ":"
  /-- The reset goes after the separator and not before it. -/
  sepResetAfter : Bool := false
  logoPosition : LogoPosition := .left
  /-- Columns between the widest line of art and the info lines. -/
  offset : Nat := 5
  logoPaddingLeft : Nat := 0
  logoPaddingTop : Nat := 0
  layoutPaddingTop : Nat := 0
  /-- Amounts of bytes in powers of 1000 and not of 1024. -/
  useSiByteUnit : Bool := false
  /-- Names for color tokens, the oldest first. -/
  aliasColors : List (String × String) := [("purple", "magenta")]
  percentageColors : PercentageColors := {}
  palette : Palette := {}
  autoDisk : AutoDisk := {}
  uptime : UptimeSuffixes := {}
  /-- No art. -/
  disableSource : Bool := false
  /-- No colors. -/
  disableColors : Bool := false
  /-- No info lines. -/
  printLogoOnly : Bool := false
  deriving DecidableEq, Inhabited

/-- The token that a name stands for; the alias added last counts. -/
def Config.alias? (config : Config) (name : String) : Option String :=
  (config.aliasColors.reverse.find? (·.1 = name)).map (·.2)

end Placard
