import Placard.Config
import Placard.Number.Size
import Placard.RichText

/-!
Placing the art and the info lines: side by side, with the info lines in a column of their own,
or one below the other.
-/

namespace Placard

/-- A line of art and the number of columns that it takes. -/
structure ArtLine where
  rich : RichText := .plain []
  width : Nat := 0
  deriving Inhabited

namespace Layout

open Number (addSizes)

def widest (art : List ArtLine) : Nat := (art.map (·.width)).foldl max 0

/-- The columns that at least are between the widest art and the info lines. -/
def gap (config : Config) : Nat := if config.disableSource then 1 else config.offset

/-- The first column of the info lines. -/
def infoColumn (config : Config) (art : List ArtLine) : Nat :=
  addSizes (addSizes config.logoPaddingLeft (widest art)) (gap config)

def spaces (count : Nat) : List Char := List.replicate count ' '

/-- A line of art after the padding, filled up to the column. -/
def artCell (config : Config) (column : Nat) (line : ArtLine) : RichText :=
  let art := (RichText.plain (spaces config.logoPaddingLeft)).append line.rich
  art.pushText (spaces (column - addSizes config.logoPaddingLeft line.width))

/-- Each info line beside a line of art, or beside nothing below it; art that is left over
stands alone. -/
def sideBySide (config : Config) (column : Nat) : List ArtLine → List RichText → List RichText
  | line :: art, text :: info =>
    (artCell config column line).append text :: sideBySide config column art info
  | [], text :: info => (artCell config column {}).append text :: sideBySide config column [] info
  | art, [] => art.map fun line => (RichText.plain (spaces config.logoPaddingLeft)).append line.rich

/-- The lines of art and of info, neither with its padding at the top, in one picture. -/
def compose (config : Config) (art : List ArtLine) (info : List RichText) : List RichText :=
  let art := List.replicate config.logoPaddingTop {} ++ art
  let info := List.replicate config.layoutPaddingTop (.plain []) ++ info
  match config.logoPosition with
  | .top => art.map (·.rich) ++ info
  | .bottom => info ++ art.map (·.rich)
  | .left => sideBySide config (infoColumn config art) art info

end Layout

end Placard
