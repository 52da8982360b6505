/-!
Edits of a template from left to right, which leave its visible text.
-/

namespace Placard.Template

inductive Edit where
  /-- Leaves the next characters as they are. -/
  | keep (count : Nat)
  /-- Puts a text in place of the next characters. -/
  | replace (count : Nat) (text : List Char)

/-- What the edits make of a text; the part after the last edit stays. -/
def Edit.applyAll : List Edit → List Char → List Char
  | [], cs => cs
  | .keep count :: edits, cs => cs.take count ++ applyAll edits (cs.drop count)
  | .replace count text :: edits, cs => text ++ applyAll edits (cs.drop count)

end Placard.Template
