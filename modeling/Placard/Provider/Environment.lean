import Placard.Provider
import Placard.Text.Unicode

/-!
A provider that reads the machine and the environment variables of a session. What it reads is
remembered, up to the next clearing, but for the cursor theme and the GTK theme, which are read each
time. It finds no graphics adapter and no battery.
-/

namespace Placard

/-- Variables and their values; the first entry of a name counts. -/
abbrev Variables := List (String × String)

namespace Variables

/-- Sets a variable, or takes it away. -/
def set (vars : Variables) (name : String) (value : Option String) : Variables :=
  let others := vars.filter (·.1 != name)
  match value with
  | some value => (name, value) :: others
  | none => others

/-- The value of a variable, if it is set and not empty. -/
def value? (vars : Variables) (name : String) : Option String :=
  (vars.lookup name).filter (· != "")

end Variables

/-- The last component of a path, empty ones and single dots left out; there is none if that is
the step to the parent. -/
def fileName? (path : String) : Option String :=
  let components := (Text.splitOn '/' path.toList).filter fun c => c != [] && c != ['.']
  (components.getLast?.filter (· != ['.', '.'])).map String.ofList

namespace UserInfo

def ofVariables (vars : Variables) : UserInfo where
  name := ((vars.value? "USER").or (vars.value? "USERNAME")).getD ""
  shellPath := vars.value? "SHELL"
  shellName := (vars.value? "SHELL").bind fileName?
  desktopName := vars.value? "XDG_CURRENT_DESKTOP"
  terminalName := (vars.value? "TERM_PROGRAM").or (vars.value? "TERM")
  terminalVersion := vars.value? "TERM_PROGRAM_VERSION"

end UserInfo

def ThemeInfo.ofVariables (vars : Variables) : ThemeInfo where
  cursor := vars.value? "XCURSOR_THEME"
  cursorSize := vars.value? "XCURSOR_SIZE"

def GtkThemeInfo.ofVariables (vars : Variables) : GtkThemeInfo where
  name := vars.value? "GTK_THEME"

/-- What a machine says of itself when it is read. -/
structure Machine where
  os : OsInfo := {}
  host : HostInfo := {}
  cpu : CpuInfo := {}
  ram : MemoryInfo := {}
  swap : MemoryInfo := {}
  volumes : List DiskInfo := []
  deriving Inhabited

/-- The variables and the machine as they are now, and what was first read of them since the last
clearing. -/
structure Environment where
  vars : Variables := []
  machine : Machine := {}
  os : Option OsInfo := none
  host : Option HostInfo := none
  user : Option UserInfo := none
  cpu : Option CpuInfo := none
  ram : Option MemoryInfo := none
  swap : Option MemoryInfo := none
  volumes : Option (List DiskInfo) := none
  deriving Inhabited

namespace Environment

/-- The answer that is remembered, or else a new reading, which is kept from now on. -/
def remember (slot : Option α) (reading : α) (kept : α → Environment) : α × Environment :=
  let answer := slot.getD reading
  (answer, kept answer)

def askVolumes (environment : Environment) : List DiskInfo × Environment :=
  remember environment.volumes environment.machine.volumes fun volumes =>
    { environment with volumes := some volumes }

def ask (environment : Environment) : (query : Query) → query.Answer × Environment
  | .os => remember environment.os environment.machine.os fun os =>
    { environment with os := some os }
  | .host => remember environment.host environment.machine.host fun host =>
    { environment with host := some host }
  | .user => remember environment.user (.ofVariables environment.vars) fun user =>
    { environment with user := some user }
  | .cpu => remember environment.cpu environment.machine.cpu fun cpu =>
    { environment with cpu := some cpu }
  | .ram => remember environment.ram environment.machine.ram fun ram =>
    { environment with ram := some ram }
  | .swap => remember environment.swap environment.machine.swap fun swap =>
    { environment with swap := some swap }
  | .disk path =>
    let (volumes, later) := environment.askVolumes
    (volumes.find? (·.mountdir = path), later)
  | .volumes => environment.askVolumes
  | .theme => (.ofVariables environment.vars, environment)
  | .gtkTheme _ => (.ofVariables environment.vars, environment)
  | .gpu _ => (none, environment)
  | .battery => (none, environment)

/-- Forgets all that was read. -/
def cleared (environment : Environment) : Environment where
  vars := environment.vars
  machine := environment.machine

end Environment

instance : Provider Environment where
  toMetrics := .unicode Environment
  ask query environment := environment.ask query
  clear := Environment.cleared

end Placard
