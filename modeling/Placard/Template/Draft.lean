import Placard.OpenStyles
import Placard.RichText
import Placard.Template.Edit

/-!
Text under construction. Besides the text a draft knows where each open style began, and by which
edits the template turns into the text.
-/

namespace Placard.Template

/-- Finished text, with the places where styles that are still open began in it. -/
structure Piece where
  text : RichText := .plain []
  /-- Id of an opening, and the offset where it began. -/
  starts : List (Nat × Nat) := []

structure Draft extends Piece where
  /-- The last one first. -/
  edits : List Edit := []

/-- Notes where styles began, unless that is known already. -/
def addStarts (known new : List (Nat × Nat)) : List (Nat × Nat) :=
  new.foldl (fun known start =>
    if known.any (·.1 = start.1) then known else known ++ [start]) known

namespace Piece

/-- Stretches an open style to the end of the text. If it is new, it began at `offset`. -/
def stretch (offset : Nat) (piece : Piece) (style : OpenStyle) : Piece :=
  let start := (piece.starts.lookup style.id).getD offset
  { text := piece.text.setSpan style.span start piece.text.length
    starts := addStarts piece.starts [(style.id, offset)] }

/-- Stretches the open styles over what was added at `offset`. -/
def stretchAll (offset : Nat) (piece : Piece) (styles : List OpenStyle) : Piece :=
  styles.foldl (stretch offset) piece

/-- Adds text under the open styles. -/
def add (piece : Piece) (styles : List OpenStyle) (text : List Char) : Piece :=
  stretchAll piece.text.length { piece with text := piece.text.pushText text } styles

/-- Adds a piece under the open styles; its own styles are on top. -/
def addPiece (piece : Piece) (styles : List OpenStyle) (added : Piece) : Piece :=
  let offset := piece.text.length
  let pushed : Piece :=
    { text := piece.text.pushText added.text.text
      starts := addStarts piece.starts (added.starts.map fun (id, start) => (id, offset + start)) }
  let stretched := pushed.stretchAll offset styles
  { stretched with text := stretched.text.layer offset added.text }

end Piece

namespace Draft

/-- The draft with other contents, one more edit noted. -/
def edited (draft : Draft) (piece : Piece) (edit : Edit) : Draft :=
  { piece with edits := edit :: draft.edits }

/-- The visible text, made from the template by the edits. -/
def plain (draft : Draft) (template : List Char) : List Char :=
  Edit.applyAll draft.edits.reverse template

end Draft

end Placard.Template
