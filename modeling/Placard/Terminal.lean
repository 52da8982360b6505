import Placard.Render

/-!
A buffer for rendered lines, to be written to a terminal at once.
-/

namespace Placard

structure TerminalBuffer where
  data : List Char := []
  /-- Escape sequences are written. -/
  colors : Bool := true
  deriving Inhabited

namespace TerminalBuffer

def withColors (buffer : TerminalBuffer) (colors : Bool) : TerminalBuffer := { buffer with colors }

def clear (buffer : TerminalBuffer) : TerminalBuffer := { buffer with data := [] }

def isEmpty (buffer : TerminalBuffer) : Bool := buffer.data.isEmpty

/-- The length of the data in bytes. -/
def byteLength (buffer : TerminalBuffer) : Nat := (String.ofList buffer.data).utf8ByteSize

def writeText (buffer : TerminalBuffer) (text : List Char) : TerminalBuffer :=
  { buffer with data := buffer.data ++ text }

/-- Writes a line and its end. -/
def writeLine (buffer : TerminalBuffer) (line : RichText) (resetAfter : Bool) : TerminalBuffer :=
  buffer.writeText ((if buffer.colors then Sgr.encode line resetAfter else line.text) ++ ['\n'])

def writeLines (buffer : TerminalBuffer) (lines : List RichText) (resetAfter : Bool) :
    TerminalBuffer :=
  lines.foldl (fun buffer line => buffer.writeLine line resetAfter) buffer

/-- Writes the lines of a render. -/
def writeOutput (buffer : TerminalBuffer) (output : Output) : TerminalBuffer :=
  buffer.writeLines output.lines output.styled

/-- The buffer spelled out for debugging. -/
def notate (buffer : TerminalBuffer) : String :=
  "TerminalOutput \x7b len: " ++ toString buffer.byteLength ++ ", colors: "
    ++ toString buffer.colors ++ " \x7d"

end TerminalBuffer

end Placard
