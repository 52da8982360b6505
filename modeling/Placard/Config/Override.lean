import Placard.Config
import Placard.Number.Unsigned

/-!
Settings given as `name=value`, each a change of a configuration in place. The name designates one
`Property`, and the value is read as the property demands before anything is assigned.
-/

namespace Placard

/-- A setting that can be overridden. -/
inductive Property where
  | sourcePath | titleSep | sepReset | sepResetAfter | logoPosition | offset
  | logoPaddingLeft | logoPaddingTop | layoutPaddingTop | useSiByteUnit
  | disableSource | disableColors | percentageColors
  | diskFormat | diskTypes | diskDuplicated
  | uptimeDays | uptimeHours | uptimeMins | uptimeSecs
  | palette (color : PaletteColor)
  deriving DecidableEq

namespace Property

def ofName? (name : String) : Option Property :=
  match name with
  | "config.source-path" => some sourcePath
  | "config.title-sep" => some titleSep
  | "config.sep-reset" => some sepReset
  | "config.sep-reset-after" => some sepResetAfter
  | "config.logo-position" => some logoPosition
  | "config.offset" => some offset
  | "config.logo-padding-left" => some logoPaddingLeft
  | "config.logo-padding-top" => some logoPaddingTop
  | "config.layout-padding-top" => some layoutPaddingTop
  | "config.use-SI-byte-unit" => some useSiByteUnit
  | "config.disable-source" => some disableSource
  | "config.disable-colors" => some disableColors
  | "config.percentage-colors" => some percentageColors
  | "auto.disk.fmt" => some diskFormat
  | "auto.disk.display-types" => some diskTypes
  | "auto.disk.show-duplicated" => some diskDuplicated
  | "os.uptime.days" => some uptimeDays
  | "os.uptime.hours" => some uptimeHours
  | "os.uptime.mins" => some uptimeMins
  | "os.uptime.secs" => some uptimeSecs
  | _ => ((PaletteColor.all.find? fun color => "palette." ++ color.name = name).map palette)

end Property

/-- The two sides of the first equals sign. -/
def splitEntry (kind : EntryKind) (entry : String) : Except Failure (String × String) :=
  match Text.splitOnce? '=' entry.toList with
  | some (name, value) => .ok (String.ofList name, String.ofList value)
  | none => .error (.missingSeparator kind entry)

/-- Four words for yes and four for no. -/
def readSwitch (name value : String) : Except Failure Bool :=
  match value with
  | "true" | "1" | "yes" | "on" => .ok true
  | "false" | "0" | "no" | "off" => .ok false
  | _ => .error (.invalidValue name value)

/-- A number of 64 bits, blanks around it allowed. -/
def readAmount (name value : String) : Except Failure Nat :=
  match Number.readUnsigned? Number.maxWord (Text.trim value.toList) with
  | some n => .ok n
  | none => .error (.invalidValue name value)

/-- Three tokens between commas, blanks around them dropped. -/
def readPercentageColors (name value : String) : Except Failure PercentageColors :=
  match (Text.splitOn ',' value.toList).map fun token => String.ofList (Text.trim token) with
  | [low, medium, high] => .ok { low, medium, high }
  | _ => .error (.invalidValue name value)

namespace Config

/-- A change of a configuration in place. What was assigned before a refusal stays assigned. -/
abbrev Edit := ExceptT Failure (StateM Config) Unit

/-- Assigns what was read. -/
def Edit.assign {α : Type} (reading : Except Failure α) (place : Config → α → Config) : Edit := do
  let value ← reading
  modify (place · value)

open Edit in
/-- Gives a property the value that a text stands for; `name` is for the refusal. -/
def set (property : Property) (name value : String) : Edit :=
  match property with
  | .sourcePath => modify ({ · with sourcePath := value })
  | .titleSep => modify ({ · with titleSep := value })
  | .sepReset => modify ({ · with sepReset := value })
  | .sepResetAfter => assign (readSwitch name value) ({ · with sepResetAfter := · })
  | .logoPosition => assign (LogoPosition.parse value) ({ · with logoPosition := · })
  | .offset => assign (readAmount name value) ({ · with offset := · })
  | .logoPaddingLeft => assign (readAmount name value) ({ · with logoPaddingLeft := · })
  | .logoPaddingTop => assign (readAmount name value) ({ · with logoPaddingTop := · })
  | .layoutPaddingTop => assign (readAmount name value) ({ · with layoutPaddingTop := · })
  | .useSiByteUnit => assign (readSwitch name value) ({ · with useSiByteUnit := · })
  | .disableSource => assign (readSwitch name value) ({ · with disableSource := · })
  | .disableColors => assign (readSwitch name value) ({ · with disableColors := · })
  | .percentageColors =>
    assign (readPercentageColors name value) ({ · with percentageColors := · })
  | .diskFormat => modify ({ · with autoDisk.format := value })
  | .diskTypes => assign (VolumeTypes.parse value) ({ · with autoDisk.displayTypes := · })
  | .diskDuplicated => assign (readSwitch name value) ({ · with autoDisk.showDuplicated := · })
  | .uptimeDays => modify ({ · with uptime.days := value })
  | .uptimeHours => modify ({ · with uptime.hours := value })
  | .uptimeMins => modify ({ · with uptime.mins := value })
  | .uptimeSecs => modify ({ · with uptime.secs := value })
  | .palette color =>
    modify fun config => { config with palette := config.palette.set value color }

/-- The full name of a property: one without a dot belongs to `config`. -/
def qualify (name : String) : String :=
  if name.toList.contains '.' then name else "config." ++ name

/-- Changes the property that an entry `name=value` designates. -/
def Edit.override (entry : String) : Edit := do
  let (name, value) ← splitEntry .overrideOption entry
  match Property.ofName? (qualify name) with
  | some property => set property (qualify name) value
  | none => throw (.unknownProperty (qualify name))

/-- Adds an alias `name=value`. -/
def Edit.alias (entry : String) : Edit := do
  let (name, value) ← splitEntry .aliasColor entry
  modify fun config => { config with aliasColors := config.aliasColors ++ [(name, value)] }

/-- The configuration after a change, unless it was refused. -/
def edited (config : Config) (edit : Edit) : Except Failure Config :=
  match edit.run config with
  | (.ok (), after) => .ok after
  | (.error failure, _) => .error failure

/-- Applies an entry `name=value`. -/
def applyOverride (config : Config) (entry : String) : Except Failure Config :=
  config.edited (.override entry)

/-- Adds an alias `name=value`. -/
def addAlias (config : Config) (entry : String) : Except Failure Config :=
  config.edited (.alias entry)

end Config

end Placard
