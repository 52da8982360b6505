import Placard.Failure
import Placard.Number.Unsigned
import Placard.Text.Search

/-!
The names that info tags use: `disk(/home).used` names the module `disk(/home)` and its member
`used`.
-/

namespace Placard.Info

/-- What facts are about, or one of the built-in texts. -/
inductive Module where
  | os
  | system
  | user
  | cpu
  | gpu (index : Nat)
  | ram
  | swap
  | disk (path : String)
  | battery
  | theme
  | themeGtk (version : Nat)
  | auto
  | title
  | titleSep
  | colors
  | colorsLight
  | colorsSymbol (symbol : String)
  | colorsLightSymbol (symbol : String)
  deriving DecidableEq

/-- What stands between the parentheses of `stem(...)`; it must not be empty. -/
def argument? (stem name : List Char) : Option String :=
  match (Text.afterStart? (stem ++ ['(']) name).bind (Text.beforeLast? ')') with
  | some [] | none => none
  | some argument => some (String.ofList argument)

namespace Module

/-- Modules without an argument. -/
def ofName? (name : String) : Option Module :=
  match name with
  | "os" => some os
  | "system" => some system
  | "user" => some user
  | "cpu" => some cpu
  | "ram" => some ram
  | "swap" => some swap
  | "battery" => some battery
  | "theme" => some theme
  | "auto" => some auto
  | "title" => some title
  | "title_sep" | "title_separator" => some titleSep
  | "colors" => some colors
  | "colors_light" => some colorsLight
  | _ => none

/-- A module whose name has the stem, with the argument in parentheses. -/
def withArgument (name : String) (stem : String) (fault : ArgumentFault) (make : String → Module) :
    Except Failure Module :=
  match argument? stem.toList name.toList with
  | some argument => .ok (make argument)
  | none => .error (.malformedModule name fault)

/-- Graphics adapters are numbered by 16 bits, the first one if there is no number. -/
def gpuOf (name : String) (index : List Char) : Except Failure Module :=
  if index.isEmpty then .ok (gpu 0)
  else match Number.readUnsigned? 65535 index with
    | some index => .ok (gpu index)
    | none => .error (.unknownModule name)

/-- GTK versions are numbers of 8 bits. -/
def themeGtkOf (name : String) (version : List Char) : Except Failure Module :=
  match Number.readUnsigned? 255 version with
  | some version => .ok (themeGtk version)
  | none => .error (.malformedModule name .gtkVersion)

/-- Modules with an argument. -/
def lookupWithArgument (name : String) : Except Failure Module :=
  let after (stem : String) := Text.afterStart? stem.toList name.toList
  if (after "disk").isSome then withArgument name "disk" .diskPath disk
  else if (after "colors_light_symbol").isSome then
    withArgument name "colors_light_symbol" .lightSymbol colorsLightSymbol
  else if (after "colors_symbol").isSome then
    withArgument name "colors_symbol" .symbol colorsSymbol
  else match after "theme-gtk", after "gpu" with
    | some version, _ => themeGtkOf name version
    | none, some index => gpuOf name index
    | none, none => .error (.unknownModule name)

/-- The module that a name stands for. -/
def lookup (name : String) : Except Failure Module :=
  match ofName? name with
  | some module => .ok module
  | none => lookupWithArgument name

/-- Its members stand for several lines, so they are expanded anew each time. -/
def isExpanding : Module → Bool
  | auto => true
  | _ => false

end Module

/-- The text up to and with the last `c`, and the text after it. -/
def cutAfterLast? (c : Char) (cs : List Char) : Option (List Char × List Char) :=
  let after := (cs.reverse.takeWhile (· != c)).reverse
  if after.length = cs.length then none else some (cs.take (cs.length - after.length), after)

/-- The two sides of the first dot after `done`. -/
def splitAtDot (done rest : List Char) : List Char × Option (List Char) :=
  let before := rest.takeWhile (· != '.')
  match rest.dropWhile (· != '.') with
  | [] => (done ++ rest, none)
  | _ :: member => (done ++ before, some member)

/-- The module and the member in the body of an info tag. An argument may hold dots, so with a
`(` the split is at the first dot after the last `)`. -/
def splitSpec (spec : List Char) : List Char × Option (List Char) :=
  if spec.contains '(' then
    match cutAfterLast? ')' spec with
    | some (done, rest) => splitAtDot done rest
    | none => splitAtDot [] spec
  else splitAtDot [] spec

end Placard.Info
