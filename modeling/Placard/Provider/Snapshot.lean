import Placard.Provider
import Placard.Text.Unicode

/-!
A provider that answers from fixed facts and keeps a record of what it was asked.
-/

namespace Placard

structure Facts where
  os : OsInfo := {}
  host : HostInfo := {}
  user : UserInfo := {}
  cpu : CpuInfo := {}
  gpus : List GpuInfo := []
  ram : MemoryInfo := {}
  swap : MemoryInfo := {}
  disks : List DiskInfo := []
  battery : Option BatteryInfo := none
  theme : ThemeInfo := {}
  gtkTheme : GtkThemeInfo := {}
  deriving Inhabited

/-- The answer to a query. Volumes are found by their mount point, and all GTK versions share
one theme. -/
def Facts.answer (facts : Facts) : (query : Query) → query.Answer
  | .os => facts.os
  | .host => facts.host
  | .user => facts.user
  | .cpu => facts.cpu
  | .gpu index => facts.gpus[index]?
  | .ram => facts.ram
  | .swap => facts.swap
  | .disk path => facts.disks.find? (·.mountdir = path)
  | .volumes => facts.disks
  | .battery => facts.battery
  | .theme => facts.theme
  | .gtkTheme _ => facts.gtkTheme

structure Snapshot where
  facts : Facts := {}
  /-- Every query so far, the last one first. -/
  asked : List Query := []
  /-- How often it was told to forget. -/
  clears : Nat := 0
  deriving Inhabited

instance : Provider Snapshot where
  toMetrics := .unicode Snapshot
  ask query snapshot :=
    (snapshot.facts.answer query, { snapshot with asked := query :: snapshot.asked })
  clear snapshot := { snapshot with clears := snapshot.clears + 1 }

end Placard
