import IntellApi.Basic
import Mathlib.Data.Rat.Defs

/-! # System health -/

namespace IntellApi.Health

inductive HealthStatus
  | green
  | amber
  | red
  | grey
  deriving DecidableEq, Repr

/-- The reason texts; `threshold` is the number some of them print. -/
inductive HealthReason
  | offline
  | batteryUnavailable
  | criticallyLow (threshold : ℚ)
  | lowWithoutSolar (threshold : ℚ)
  | lowWithWeakSolar (threshold : ℚ)
  | low (threshold : ℚ)
  | weakSolar
  | normal
  deriving DecidableEq, Repr

structure HealthInput where
  socPercent : Option ℚ
  solarKw : ℚ
  panelCapacityKw : ℚ
  systemOffline : Bool
  localHour : Option Int
  criticalSocThreshold : Option ℚ
  lowSocThreshold : Option ℚ

def isDaytime (localHour : Int) : Bool := 6 ≤ localHour ∧ localHour < 19

def lagosHour (now : Int) : Int := (now + 60 * 60 * 1000) / 3600000 % 24

def computeHealthStatus (now : Int) (input : HealthInput) : HealthStatus × HealthReason :=
  let critical := input.criticalSocThreshold.getD 15
  let low := input.lowSocThreshold.getD 30
  let daytime := isDaytime (input.localHour.getD (lagosHour now))
  if input.systemOffline then (.grey, .offline)
  else
    match input.socPercent with
    | none => (.red, .batteryUnavailable)
    | some soc =>
      if soc ≤ critical then (.red, .criticallyLow critical)
      else if soc ≤ low ∧ input.solarKw = 0 ∧ daytime then (.red, .lowWithoutSolar low)
      else
        let isSolarLow := daytime ∧ input.panelCapacityKw > 0 ∧ input.solarKw < input.panelCapacityKw * 0.3
        let isBatteryLow := soc ≤ low
        if isBatteryLow ∧ isSolarLow then (.amber, .lowWithWeakSolar low)
        else if isBatteryLow then (.amber, .low low)
        else if isSolarLow then (.amber, .weakSolar)
        else (.green, .normal)

end IntellApi.Health
