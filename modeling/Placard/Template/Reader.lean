import Placard.Template.Body

/-!
Reading a template. Where a body ends and what belongs to a tag is settled by the text alone.
-/

namespace Placard.Template

/-- The ending of a body that meets the end of the input; `cutOff` if its last tag did so. -/
def Ending.atEnd (delimiter : Option Char) (cutOff : Bool) : Ending :=
  match delimiter with
  | none => .closed
  | some d => if cutOff then .interrupted else .unclosed d

/-- What was read from a text, and the rest, which is no longer than the text. -/
abbrev Reading (α : Type) (cs : List Char) := { r : α × List Char // r.2.length ≤ cs.length }

mutual

/-- Reads up to the delimiter, or to the end of the input without one. The delimiter is looked
for first, then an escape, then a tag; all else stands for itself. -/
def readBody (delimiter : Option Char) (cutOff : Bool) (cs : List Char) : Reading Body cs :=
  match cs with
  | [] => ⟨(.done (.atEnd delimiter cutOff), []), Nat.le_refl _⟩
  | c :: rest =>
    if delimiter = some c then ⟨(.done .closed, rest), Nat.le_succ _⟩
    else if c = '\\' then
      match rest with
      | [] => ⟨(.backslash (.done (.atEnd delimiter false)), []), Nat.zero_le _⟩
      | d :: rest =>
        let ⟨(body, left), h⟩ := readBody delimiter false rest
        ⟨(.escaped d body, left), Nat.le_succ_of_le (Nat.le_succ_of_le h)⟩
    else if c = '$' then
      match readTag rest with
      | some ⟨(tag, after), h⟩ =>
        let ⟨(body, left), h'⟩ := readBody delimiter (!tag.isClosed) after
        ⟨(.tag tag (rest.length + 1 - after.length) body, left), Nat.le_succ_of_le (Nat.le_trans h' h)⟩
      | none =>
        let ⟨(body, left), h⟩ := readBody delimiter false rest
        ⟨(.char c body, left), Nat.le_succ_of_le h⟩
    else
      let ⟨(body, left), h⟩ := readBody delimiter false rest
      ⟨(.char c body, left), Nat.le_succ_of_le h⟩
termination_by cs.length
decreasing_by all_goals (simp only [List.length_cons] at *; omega)

/-- Reads what follows the dollar sign of a tag; `none` if that opens no tag. -/
def readTag (cs : List Char) : Option (Reading Tag cs) :=
  match cs with
  | [] => none
  | c :: rest =>
    if c = '<' then
      let ⟨(name, left), h⟩ := readBody (some '>') false rest
      some ⟨(.info name, left), Nat.le_succ_of_le h⟩
    else if c = '\x7b' then
      let ⟨(token, left), h⟩ := readBody (some '\x7d') false rest
      some ⟨(.color token, left), Nat.le_succ_of_le h⟩
    else if c = '%' then
      let ⟨(numerator, rest₁), h₁⟩ := readBody (some ',') false rest
      let ⟨(denominator, left), h₂⟩ := readBody (some '%') (!numerator.isClosed) rest₁
      some ⟨(.percentage numerator denominator, left), Nat.le_succ_of_le (Nat.le_trans h₂ h₁)⟩
    else if c = '[' then
      let ⟨(left, rest₁), h₁⟩ := readBody (some ',') false rest
      let ⟨(right, rest₂), h₂⟩ := readBody (some ',') (!left.isClosed) rest₁
      let ⟨(whenEqual, rest₃), h₃⟩ := readBody (some ',') (!right.isClosed) rest₂
      let ⟨(whenDifferent, rest₄), h₄⟩ := readBody (some ']') (!whenEqual.isClosed) rest₃
      some ⟨(.conditional left right whenEqual whenDifferent, rest₄),
        Nat.le_succ_of_le (Nat.le_trans h₄ (Nat.le_trans h₃ (Nat.le_trans h₂ h₁)))⟩
    else none
termination_by cs.length
decreasing_by all_goals (simp only [List.length_cons] at *; omega)

end

/-- The tree of a whole template. -/
def Body.read (template : List Char) : Body := (readBody none false template).1.1

end Placard.Template
