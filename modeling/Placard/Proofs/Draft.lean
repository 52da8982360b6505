import Placard.Template.Draft

/-! # The text of a draft

Styles never touch text: whatever is stretched over a piece or layered on it, its text is what was
pushed. Hence adding to a piece appends to its text (`Piece.text_add`, `Piece.text_addPiece`), under
any open styles. -/

namespace Placard

namespace Template.Piece

theorem text_stretch (offset : Nat) (piece : Piece) (style : OpenStyle) :
    (piece.stretch offset style).text.text = piece.text.text := RichText.text_setSpan ..

theorem text_stretchAll (offset : Nat) (piece : Piece) (styles : List OpenStyle) :
    (piece.stretchAll offset styles).text.text = piece.text.text := by
  unfold stretchAll
  induction styles generalizing piece with
  | nil => rfl
  | cons style styles ih => exact (ih _).trans (text_stretch offset piece style)

theorem length_stretchAll (offset : Nat) (piece : Piece) (styles : List OpenStyle) :
    (piece.stretchAll offset styles).text.length = piece.text.length :=
  RichText.length_eq_of_text_eq (text_stretchAll ..)

theorem text_add (piece : Piece) (styles : List OpenStyle) (text : List Char) :
    (piece.add styles text).text.text = piece.text.text ++ text := text_stretchAll ..

theorem text_addPiece (piece : Piece) (styles : List OpenStyle) (added : Piece) :
    (piece.addPiece styles added).text.text = piece.text.text ++ added.text.text :=
  text_stretchAll ..

end Template.Piece

end Placard
