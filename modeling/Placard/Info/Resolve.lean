import Placard.Context
import Placard.Info.Amount
import Placard.Info.Module
import Placard.Template.Quote

/-!
What info tags stand for: the members of the modules, the summaries of whole modules, and the
volumes that `auto.disk` lists. Some are made by templates; `nested` is what evaluates these.
-/

namespace Placard.Info

variable {σ : Type} [Provider σ]

/-- The evaluation of a template inside another one. -/
abbrev Nested (σ : Type) := List Char → Eval σ RichText

/-- A name with its version, if that is known. -/
def withVersion (name version : Option String) : Value :=
  match name, version with
  | some name, some version => .text (name ++ " " ++ version)
  | some name, none => .text name
  | none, _ => .missing

/-- A temperature after a conversion from degrees Celsius. -/
def temperature (celsius : Option Float) (convert : Float → Float) : Value :=
  match celsius with
  | some celsius => .real (convert celsius)
  | none => .missing

def toFahrenheit (celsius : Float) : Float := celsius * 9 / 5 + 32

def toKelvin (celsius : Float) : Float := celsius + 273.15

/-- The classes of a volume that are worth a label. -/
def labels (types : VolumeTypes) : String :=
  ", ".intercalate <| [(types.isExternal, "External"), (types.isHidden, "Hidden"),
    (types.readOnly, "Read-only")].filterMap fun (isSet, label) => if isSet then some label else none

/-- A color tag around a token. -/
def colorTag (token : List Char) : List Char := '$' :: '\x7b' :: (token ++ ['\x7d'])

/-- A percentage in the color of its level. -/
def coloredPercentage (nested : Nested σ) (percent : Float) (inverted : Bool) : Eval σ RichText := do
  let color := (← get).config.percentageColors.get (.shown percent inverted)
  nested (colorTag color.toList ++ Number.writeFixed percent ++ ['%'] ++ colorTag ['0'])

/-- One cell for each palette color, in the SGR codes from `first` on. -/
def paletteRow (first : Nat) (cell : List Char) : List Char :=
  (List.range 8).flatMap (fun i => colorTag ('\x1b' :: '[' :: (Number.decimal (first + i) ++ ['m'])) ++ cell)
    ++ colorTag ['0']

/-- A symbol as a cell of its own. -/
def symbolCell (symbol : String) : List Char := ' ' :: (Template.quote symbol.toList ++ [' '])

def blankCell : List Char := [' ', ' ', ' ']

/-- The separator as often as the title has glyphs. -/
def titleSeparator : Eval σ Value := do
  let user ← Eval.ask .user
  let os ← Eval.ask .os
  let glyphs := Text.Metrics.glyphCount σ (user.name ++ "@" ++ os.hostname).toList
  return .text ("".intercalate (List.replicate glyphs (← get).config.titleSep))

/-- The name of a disk module, quoted for a template. -/
def diskName (path : String) : List Char := "disk(".toList ++ Template.quote path.toList ++ [')']

/-- An info tag for a member of a module. -/
def memberTag (module : List Char) (member : String) : List Char :=
  '$' :: '<' :: (module ++ '.' :: (member.toList ++ ['>']))

def diskSummary (nested : Nested σ) (path : String) : Eval σ Value := do
  match ← Eval.ask (.disk path) with
  | none => return .missing
  | some disk =>
    let name := diskName path
    let rich ← nested (memberTag name "used" ++ " / ".toList ++ memberTag name "total" ++ " (".toList
      ++ memberTag name "used_perc" ++ ") - ".toList ++ memberTag name "fs")
    let labels := labels disk.types
    if labels.isEmpty then return .rich rich
    else return .rich (rich.pushText (" [" ++ labels ++ "]").toList)

/-- What stands for a whole module. -/
def summary (nested : Nested σ) : Module → Eval σ Value
  | .cpu => .rich <$> nested "$<cpu.name> ($<cpu.nproc>) @ $<cpu.freq_max> GHz".toList
  | .gpu index => do
    match ← Eval.ask (.gpu index) with
    | none => return .missing
    | some _ =>
      let name := "gpu".toList ++ Number.decimal index
      .rich <$> nested (memberTag name "vendor" ++ ' ' :: memberTag name "name")
  | .ram => .rich <$> nested "$<ram.used> / $<ram.total> ($<ram.used_perc>)".toList
  | .swap => do
    if (← Eval.ask .swap).total = 0 then return .text "Disabled"
    else .rich <$> nested "$<swap.used> / $<swap.total> ($<swap.used_perc>)".toList
  | .disk path => diskSummary nested path
  | .battery => do
    match ← Eval.ask .battery with
    | none => return .missing
    | some _ => .rich <$> nested "$<battery.perc> [$<battery.status>]".toList
  | .title =>
    .rich <$> nested
      "$\x7bauto2\x7d$<user.name>$\x7b0\x7d@$\x7bauto2\x7d$<os.hostname>".toList
  | .titleSep => titleSeparator
  | .colors => .rich <$> nested (paletteRow 40 blankCell)
  | .colorsLight => .rich <$> nested (paletteRow 100 blankCell)
  | .colorsSymbol symbol => .rich <$> nested (paletteRow 30 (symbolCell symbol))
  | .colorsLightSymbol symbol => .rich <$> nested (paletteRow 90 (symbolCell symbol))
  | .os | .system | .user | .theme | .themeGtk _ | .auto => return .missing

/-! ## Members. `none` stands for a member that there is not. -/

def osMember (suffixes : UptimeSuffixes) (os : OsInfo) (member : String) : Option Value :=
  let uptime := Uptime.ofSecs os.uptimeSecs
  match member with
  | "name" => some (.text os.name)
  | "name_id" => some (.text os.nameId)
  | "version_id" => some (.ofOption os.versionId)
  | "version_codename" => some (.ofOption os.versionCodename)
  | "kernel" => some (.text (os.kernelName ++ " " ++ os.kernelVersion))
  | "kernel_name" => some (.text os.kernelName)
  | "kernel_version" => some (.text os.kernelVersion)
  | "hostname" => some (.text os.hostname)
  | "pkgs" | "packages" => some (.ofOption os.packages)
  | "initsys_name" => some (.ofOption os.initName)
  | "initsys_version" => some (.ofOption os.initVersion)
  | "uptime" => some (.text (uptime.format suffixes))
  | "uptime_secs" => some (.count uptime.secs)
  | "uptime_mins" => some (.count uptime.mins)
  | "uptime_hours" => some (.count uptime.hours)
  | "uptime_days" => some (.count uptime.days)
  | _ => none

/-- Vendor, name and version as far as they are known. -/
def hostLine (host : HostInfo) : Value :=
  let parts := [host.vendor, host.name, host.version].filter (· != "")
  if parts.isEmpty then .missing else .text (" ".intercalate parts)

def systemMember (host : HostInfo) (member : String) : Option Value :=
  match member with
  | "host" => some (hostLine host)
  | "host_name" => some (.text host.name)
  | "host_vendor" => some (.text host.vendor)
  | "host_version" => some (.text host.version)
  | "arch" => some (.text host.arch)
  | _ => none

def userMember (user : UserInfo) (member : String) : Option Value :=
  match member with
  | "name" => some (.text user.name)
  | "shell" => some (withVersion user.shellName user.shellVersion)
  | "shell_name" => some (.ofOption user.shellName)
  | "shell_path" => some (.ofOption user.shellPath)
  | "shell_version" => some (.ofOption user.shellVersion)
  | "de_name" => some (.ofOption user.desktopName)
  | "de_version" => some (.ofOption user.desktopVersion)
  | "wm_name" => some (.ofOption user.windowManagerName)
  | "wm_version" => some (.ofOption user.windowManagerVersion)
  | "terminal" => some (withVersion user.terminalName user.terminalVersion)
  | "terminal_name" => some (.ofOption user.terminalName)
  | "terminal_version" => some (.ofOption user.terminalVersion)
  | _ => none

def cpuMember (cpu : CpuInfo) (member : String) : Option Value :=
  match member with
  | "name" => some (.text cpu.name)
  | "nproc" => some (.count cpu.nproc.toNat)
  | "freq_cur" => some (.real cpu.freqCur)
  | "freq_max" => some (.real cpu.freqMax)
  | "freq_min" => some (.real cpu.freqMin)
  | "freq_bios_limit" => some (.real cpu.freqBiosLimit)
  | "temp_C" => some (temperature cpu.temperature id)
  | "temp_F" => some (temperature cpu.temperature toFahrenheit)
  | "temp_K" => some (temperature cpu.temperature toKelvin)
  | _ => none

def gpuMember (gpu : GpuInfo) (member : String) : Option Value :=
  match member with
  | "name" => some (.text gpu.name)
  | "vendor" => some (.text gpu.vendor)
  | "vendor_long" => some (.text gpu.vendorLong)
  | _ => none

/-- An amount by the name of its part. -/
def amountOf? (memory : MemoryInfo) (part : String) : Option UInt64 :=
  match part with
  | "used" => some memory.used
  | "free" => some memory.free
  | "total" => some memory.total
  | _ => none

/-- A part of the memory in a unit of its own: `used-MiB`. -/
def amountInUnit? (memory : MemoryInfo) (member : String) : Option Value := do
  let (part, unit) ← Text.splitOnce? '-' member.toList
  let bytes ← amountOf? memory (String.ofList part)
  let amount ← divideBy? bytes (String.ofList unit)
  return .real amount

def memoryMember (nested : Nested σ) (memory : MemoryInfo) (member : String) :
    Eval σ (Option Value) := do
  let si := (← get).config.useSiByteUnit
  match member with
  | "used" => return some (.text (autoDivide memory.used si).toString)
  | "free" => return some (.text (autoDivide memory.free si).toString)
  | "total" => return some (.text (autoDivide memory.total si).toString)
  | "used_perc" | "used_percentage" =>
    return some (.rich (← coloredPercentage nested (percentageOf memory.used memory.total) false))
  | "free_perc" | "free_percentage" =>
    return some (.rich (← coloredPercentage nested (percentageOf memory.free memory.total) true))
  | _ => return amountInUnit? memory member

def diskMember (nested : Nested σ) (disk : DiskInfo) (member : String) : Eval σ (Option Value) :=
  match member with
  | "fs" => return some (.text disk.fsType)
  | "device" => return some (.text disk.device)
  | "mountdir" => return some (.text disk.mountdir)
  | "types" => return some (.text (labels disk.types))
  | _ => memoryMember nested disk.memory member

def batteryMember (nested : Nested σ) (battery : BatteryInfo) (member : String) :
    Eval σ (Option Value) :=
  match member with
  | "perc" | "percentage" =>
    return some (.rich (← coloredPercentage nested battery.percentage true))
  | "status" => return some (.text battery.status)
  | "technology" => return some (.text battery.technology)
  | "vendor" | "manufacturer" => return some (.text battery.vendor)
  | "name" => return some (.text battery.name)
  | "temp_C" => return some (temperature battery.temperature id)
  | "temp_F" => return some (temperature battery.temperature toFahrenheit)
  | "temp_K" => return some (temperature battery.temperature toKelvin)
  | _ => return none

def themeMember (theme : ThemeInfo) (member : String) : Option Value :=
  match member with
  | "cursor" => some (withVersion theme.cursor (theme.cursorSize.map fun size => "(" ++ size ++ "px)"))
  | "cursor_name" => some (.ofOption theme.cursor)
  | "cursor_size" => some (.ofOption theme.cursorSize)
  | _ => none

def gtkMember (theme : GtkThemeInfo) (member : String) : Option Value :=
  match member with
  | "name" => some (.ofOption theme.name)
  | "icons" => some (.ofOption theme.icons)
  | "font" => some (.ofOption theme.font)
  | _ => none

/-- A member of a module, after the one query that it takes. The built-in texts have none and
stand for themselves. -/
def member (nested : Nested σ) (module : Module) (member : String) : Eval σ Value :=
  match module with
  | .os => do
    let os ← Eval.ask .os
    return (osMember (← get).config.uptime os member).getD .missing
  | .system => return (systemMember (← Eval.ask .host) member).getD .missing
  | .user => return (userMember (← Eval.ask .user) member).getD .missing
  | .cpu => return (cpuMember (← Eval.ask .cpu) member).getD .missing
  | .gpu index =>
    return ((← Eval.ask (.gpu index)).bind (gpuMember · member)).getD .missing
  | .ram => do return (← memoryMember nested (← Eval.ask .ram) member).getD .missing
  | .swap => do return (← memoryMember nested (← Eval.ask .swap) member).getD .missing
  | .disk path => do
    match ← Eval.ask (.disk path) with
    | some disk => return (← diskMember nested disk member).getD .missing
    | none => return .missing
  | .battery => do
    match ← Eval.ask .battery with
    | some battery => return (← batteryMember nested battery member).getD .missing
    | none => return .missing
  | .theme => return (themeMember (← Eval.ask .theme) member).getD .missing
  | .themeGtk version => return (gtkMember (← Eval.ask (.gtkTheme version)) member).getD .missing
  | .auto | .title | .titleSep | .colors | .colorsLight | .colorsSymbol _ | .colorsLightSymbol _ =>
    summary nested module

/-! ## The lines of `auto.disk` -/

/-- What a percent sign with this digit stands for in the line of a volume. -/
def placeholder? (disk : DiskInfo) (digit : Char) : Option (List Char) :=
  let tag (member : String) : List Char := memberTag (diskName disk.mountdir) member
  match digit with
  | '1' => some (Template.quote disk.mountdir.toList)
  | '2' => some (Template.quote disk.device.toList)
  | '3' => some (Template.quote disk.fsType.toList)
  | '4' => some (tag "total")
  | '5' => some (tag "free")
  | '6' => some (tag "used")
  | '7' => some (tag "used_perc")
  | '8' => some (tag "free_perc")
  | _ => none

/-- The line of a volume, its placeholders filled in. Other percent signs stay. -/
def fillPlaceholders (disk : DiskInfo) : List Char → List Char
  | [] => []
  | '%' :: c :: rest =>
    match placeholder? disk c with
    | some text => text ++ fillPlaceholders disk rest
    | none => '%' :: fillPlaceholders disk (c :: rest)
  | c :: rest => c :: fillPlaceholders disk rest

/-- The first volume of each device. -/
def firstOfDevice (disks : List DiskInfo) (seen : List String) : List DiskInfo :=
  match disks with
  | [] => []
  | disk :: disks =>
    if seen.contains disk.device then firstOfDevice disks seen
    else disk :: firstOfDevice disks (disk.device :: seen)

/-- The volumes that the settings ask for. -/
def listedVolumes (settings : AutoDisk) (disks : List DiskInfo) : List DiskInfo :=
  let wanted := disks.filter fun disk => settings.displayTypes.intersects disk.types
  if settings.showDuplicated then wanted else firstOfDevice wanted []

/-- The lines take the place of the one that holds the tag; each has a separator of its own. -/
def spliceLines (nested : Nested σ) : List (List Char) → Eval σ Unit
  | [] => return
  | line :: lines => do
    let line ← modifyGet fun context =>
      { context with sepResetApplied := false }.injectSeparatorReset line
    let rich ← nested line
    modify fun context => { context with spliced := context.spliced ++ [rich] }
    spliceLines nested lines

/-- One line for each listed volume. -/
def autoDisk (nested : Nested σ) : Eval σ Value := do
  let settings := (← get).config.autoDisk
  let lines := (listedVolumes settings (← Eval.ask .volumes)).map
    (fillPlaceholders · settings.format.toList)
  if lines.isEmpty then return .missing
  spliceLines nested lines
  return .text ""

/-- A member of the expanding module. In the art there is no line to replace. -/
def expand (nested : Nested σ) (member : Option String) : Eval σ Value := do
  if !(← get).parsingLayout then return .text ""
  else if member = some "disk" then autoDisk nested
  else return .missing

/-- What the body of an info tag stands for. The value is remembered, but not that of an
expanding module. -/
def resolve (nested : Nested σ) (spec : List Char) : Eval σ Value := do
  let (name, memberName) := splitSpec spec
  let name := String.ofList name
  let memberName := memberName.map String.ofList
  let module ← Eval.ofExcept (Module.lookup name)
  if module.isExpanding then expand nested memberName
  else
    let key := memberName.getD ("module-" ++ name)
    match (← get).cache.get? name key with
    | some value => return value
    | none =>
      let value ← match memberName with
        | some memberName => member nested module memberName
        | none => summary nested module
      modifyGet fun context =>
        let (kept, cache) := context.cache.insert name key value
        (kept, { context with cache })

end Placard.Info
