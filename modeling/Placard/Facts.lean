import Placard.VolumeTypes

/-!
Facts about a machine and its user. What may be unknown is optional; amounts are in bytes,
frequencies in GHz and temperatures in degrees Celsius.
-/

namespace Placard

structure OsInfo where
  name : String := ""
  nameId : String := ""
  versionId : Option String := none
  versionCodename : Option String := none
  kernelName : String := ""
  kernelVersion : String := ""
  hostname : String := ""
  /-- Seconds since boot. -/
  uptimeSecs : UInt64 := 0
  packages : Option String := none
  initName : Option String := none
  initVersion : Option String := none
  deriving Inhabited

structure HostInfo where
  vendor : String := ""
  name : String := ""
  version : String := ""
  arch : String := ""
  deriving Inhabited

structure UserInfo where
  name : String := ""
  shellPath : Option String := none
  shellName : Option String := none
  shellVersion : Option String := none
  desktopName : Option String := none
  desktopVersion : Option String := none
  windowManagerName : Option String := none
  windowManagerVersion : Option String := none
  terminalName : Option String := none
  terminalVersion : Option String := none
  deriving Inhabited

structure CpuInfo where
  name : String := ""
  /-- Logical processors. -/
  nproc : UInt64 := 0
  freqCur : Float := 0
  freqMax : Float := 0
  freqMin : Float := 0
  freqBiosLimit : Float := 0
  temperature : Option Float := none
  deriving Inhabited

structure GpuInfo where
  name : String := ""
  vendor : String := ""
  vendorLong : String := ""
  deriving Inhabited

structure MemoryInfo where
  total : UInt64 := 0
  used : UInt64 := 0
  free : UInt64 := 0
  deriving Inhabited

structure DiskInfo where
  mountdir : String := ""
  device : String := ""
  fsType : String := ""
  total : UInt64 := 0
  free : UInt64 := 0
  used : UInt64 := 0
  types : VolumeTypes := {}
  deriving Inhabited

def DiskInfo.memory (disk : DiskInfo) : MemoryInfo where
  total := disk.total
  used := disk.used
  free := disk.free

structure BatteryInfo where
  percentage : Float := 0
  status : String := ""
  technology : String := ""
  vendor : String := ""
  name : String := ""
  temperature : Option Float := none
  deriving Inhabited

structure ThemeInfo where
  cursor : Option String := none
  cursorSize : Option String := none
  deriving Inhabited

structure GtkThemeInfo where
  name : Option String := none
  icons : Option String := none
  font : Option String := none
  deriving Inhabited

end Placard
