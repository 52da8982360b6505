import Placard.Facts
import Placard.Text.Metrics

/-!
Where facts come from. A provider answers queries one at a time and may remember what it found
until it is told to forget. It also measures texts, as they are shown where it is asked.
-/

namespace Placard

inductive Query where
  | os
  | host
  | user
  | cpu
  | gpu (index : Nat)
  | ram
  | swap
  /-- The volume mounted at a path. -/
  | disk (path : String)
  | volumes
  | battery
  | theme
  | gtkTheme (version : Nat)
  deriving DecidableEq

abbrev Query.Answer : Query → Type
  | os => OsInfo
  | host => HostInfo
  | user => UserInfo
  | cpu => CpuInfo
  | gpu _ => Option GpuInfo
  | ram => MemoryInfo
  | swap => MemoryInfo
  | disk _ => Option DiskInfo
  | volumes => List DiskInfo
  | battery => Option BatteryInfo
  | theme => ThemeInfo
  | gtkTheme _ => GtkThemeInfo

class Provider (σ : Type) extends Text.Metrics σ where
  ask : (query : Query) → σ → query.Answer × σ
  /-- Forgets what was remembered. -/
  clear : σ → σ

end Placard
