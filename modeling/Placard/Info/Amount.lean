import Placard.Config
import Placard.Number.Fixed

/-!
Amounts of bytes, lengths of time and percentages as the members show them.
-/

namespace Placard.Info

/-- Units of powers of 1024, the smallest first. -/
def binaryUnits : List String := ["B", "KiB", "MiB", "GiB", "TiB", "PiB", "EiB", "ZiB", "YiB"]

/-- Units of powers of 1000, the smallest first. -/
def decimalUnits : List String := ["B", "kB", "MB", "GB", "TB", "PB", "EB", "ZB", "YB"]

/-- An amount of bytes in a unit. -/
structure ByteAmount where
  value : Float
  unit : String

/-- The amount with two decimal places. -/
def ByteAmount.toString (amount : ByteAmount) : String :=
  String.ofList (Number.writeFixed amount.value) ++ " " ++ amount.unit

/-- Goes on to larger units as long as there is one and the value reaches it. -/
def scaleUp (base value : Float) (unit : String) : List String → ByteAmount
  | [] => { value, unit }
  | next :: larger =>
    if value ≥ base then scaleUp base (value / base) next larger else { value, unit }

/-- Bytes in the largest unit that leaves at least one of it. -/
def autoDivide (bytes : UInt64) (si : Bool) : ByteAmount :=
  if si then scaleUp 1000 bytes.toFloat "B" decimalUnits.tail
  else scaleUp 1024 bytes.toFloat "B" binaryUnits.tail

/-- Bytes in a unit by its name. -/
def divideBy? (bytes : UInt64) (unit : String) : Option Float :=
  match binaryUnits.idxOf? unit, decimalUnits.idxOf? unit with
  | some power, _ => some (bytes.toFloat / .ofNat (Nat.pow 1024 power))
  | none, some power => some (bytes.toFloat / .ofNat (Nat.pow 1000 power))
  | none, none => none

/-- Days, hours, minutes and seconds. -/
structure Uptime where
  days : Nat
  hours : Nat
  mins : Nat
  secs : Nat

def Uptime.ofSecs (secs : UInt64) : Uptime where
  days := secs.toNat / 86400
  hours := secs.toNat / 3600 % 24
  mins := secs.toNat / 60 % 60
  secs := secs.toNat % 60

/-- The parts that are not zero; the seconds only if there is no other part. -/
def Uptime.format (uptime : Uptime) (suffixes : UptimeSuffixes) : String :=
  let parts := [(uptime.days, suffixes.days), (uptime.hours, suffixes.hours),
    (uptime.mins, suffixes.mins)].filter fun (amount, _) => amount != 0
  if parts.isEmpty then toString uptime.secs ++ suffixes.secs
  else ", ".intercalate (parts.map fun (amount, suffix) => toString amount ++ suffix)

/-- How high a percentage is. -/
inductive Level where
  | low | medium | high
  deriving DecidableEq

def Level.invert : Level → Level
  | low => high
  | medium => medium
  | high => low

def Level.ofPercent (percent : Float) : Level :=
  if percent ≤ 45 then .low else if percent ≤ 80 then .medium else .high

/-- The level whose color shows the percentage; `inverted` where much is good. -/
def Level.shown (percent : Float) (inverted : Bool) : Level :=
  if inverted then (ofPercent percent).invert else ofPercent percent

def Level.index : Level → Nat
  | low => 0
  | medium => 1
  | high => 2

end Placard.Info

namespace Placard

def PercentageColors.get (colors : PercentageColors) : Info.Level → String
  | .low => colors.low
  | .medium => colors.medium
  | .high => colors.high

namespace Info

/-- A part as a percentage of a total; of nothing it is zero. -/
def percentageOf (part total : UInt64) : Float :=
  if total = 0 then 0 else part.toFloat / total.toFloat * 100

end Info

end Placard
