import Placard.Failure
import Placard.Text.Blank
import Placard.Text.Search

/-!
Classes of volumes: a volume belongs to any number of them, and a listing shows those that
belong to one of the wanted classes.
-/

namespace Placard

structure VolumeTypes where
  isHidden : Bool := false
  regular : Bool := false
  isExternal : Bool := false
  readOnly : Bool := false
  deriving DecidableEq, Inhabited

namespace VolumeTypes

def union (s t : VolumeTypes) : VolumeTypes where
  isHidden := s.isHidden || t.isHidden
  regular := s.regular || t.regular
  isExternal := s.isExternal || t.isExternal
  readOnly := s.readOnly || t.readOnly

/-- The two have a class in common. -/
def intersects (s t : VolumeTypes) : Bool :=
  s.isHidden && t.isHidden || s.regular && t.regular || s.isExternal && t.isExternal
    || s.readOnly && t.readOnly

def names (s : VolumeTypes) : List String :=
  [(s.isHidden, "HIDDEN"), (s.regular, "REGULAR"), (s.isExternal, "EXTERNAL"),
    (s.readOnly, "READ_ONLY")].filterMap fun (isSet, name) => if isSet then some name else none

/-- The names, with bars between them. -/
def notate (s : VolumeTypes) : String := " | ".intercalate s.names

/-- Each class has a bit of its own, from the third on. -/
def bits (s : VolumeTypes) : Nat :=
  4 * s.isHidden.toNat + 8 * s.regular.toNat + 16 * s.isExternal.toNat + 32 * s.readOnly.toNat

/-- The class that a word names. -/
def ofWord? (word : String) : Option VolumeTypes :=
  match word with
  | "hidden" => some { isHidden := true }
  | "regular" => some { regular := true }
  | "external" | "removable" => some { isExternal := true }
  | "read-only" => some { readOnly := true }
  | _ => none

/-- The words between the commas of a list, without blanks around them or empty ones. -/
def words (list : String) : List String :=
  (((Text.splitOn ',' list.toList).map Text.trim).filter (!·.isEmpty)).map String.ofList

/-- The classes in a list of words; the first unknown word is refused. -/
def parse (list : String) : Except Failure VolumeTypes :=
  (words list).foldlM (fun types word =>
    match ofWord? word with
    | some type => .ok (types.union type)
    | none => .error (.invalidValue "auto.disk.display-types" word)) {}

end VolumeTypes

end Placard
