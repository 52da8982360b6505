import Placard.Text.Hex
import Placard.Text.Quoted.Property

/-!
Text as it is quoted in debug output: between double quotes, with an escape for every character
that would not show as itself.
-/

namespace Placard.Text

/-- Short escapes first, then the code point of a mark that would join what stands before it
and of a character that is not printable. -/
def quoteChar (c : Char) : List Char :=
  if c = '\x00' then ['\\', '0']
  else if c = '\t' then ['\\', 't']
  else if c = '\r' then ['\\', 'r']
  else if c = '\n' then ['\\', 'n']
  else if c = '\\' || c = '"' then ['\\', c]
  else if inRanges graphemeExtend c || inRanges unprintable c then
    '\\' :: 'u' :: '\x7b' :: (hexDigits c.toNat ++ ['\x7d'])
  else [c]

def quote (cs : List Char) : List Char :=
  '"' :: (cs.flatMap quoteChar ++ ['"'])

end Placard.Text
