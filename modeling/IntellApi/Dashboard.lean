import IntellApi.Health
import IntellApi.Savings

/-!
# The dashboard and the system insights

`now` is the clock of the server in milliseconds; the database reads the same
clock in microseconds.
-/

namespace IntellApi.Dashboard

open Alerts Calendar Health InverterAccess JsNumber Metrics Savings

/-! ## The dashboard -/

structure CurrentReadings where
  solarKw : ℚ
  batterySocPercent : ℚ
  loadKw : ℚ
  gridVoltageV : Option ℚ
  batteryVoltageV : Option ℚ
  recordedAt : Int
  deriving DecidableEq, Repr

def currentReadings (latest : InvertersMetrics) : CurrentReadings where
  solarKw := latest.solarGenKw
  batterySocPercent := latest.batterySocPercent
  loadKw := latest.loadKw
  gridVoltageV := latest.gridVoltageV
  batteryVoltageV := latest.batteryVoltageV
  recordedAt := getTime latest.metricTimestamp

structure DashboardMetrics where
  currentReadings : Option CurrentReadings
  dataAgeSeconds : Option Int
  systemOffline : Bool
  emptyData : Bool
  nairaSavedToday : JsNumber
  nairaSavedThisMonth : JsNumber
  health : HealthStatus × HealthReason
  sevenDayHistory : List UsageRow
  deriving DecidableEq, Repr

structure Env where
  criticalBatteryThreshold : ℚ
  lowBatteryThreshold : ℚ

/-- The `parseFloat` of the energy since an instant; null counts as 0. -/
def energySince (db : Tables) (inverter : Inverter) (inverterId : Uuid) (start : Int) : ℚ :=
  (energyKwh (getPollingInterval inverter.brand) (readings db.metrics inverterId (start * 1000 ≤ ·))).getD 0

section
variable (order : Paging.Order InverterMember) (env : Env) (tza : Int) (db : Tables) (now : Int)

def todayStart : Int := startOfDay tza now

def monthStart : Int := startOfDay tza (setDate tza now 1)

def dashboardHealth (inverter : Inverter) (latest : Option InvertersMetrics) : HealthStatus × HealthReason :=
  computeHealthStatus now
    { socPercent := latest.map (·.batterySocPercent)
      solarKw := (latest.map (·.solarGenKw)).getD 0
      panelCapacityKw := inverter.panelCapacityKw
      systemOffline := inverter.isOffline
      localHour := none
      criticalSocThreshold := some env.criticalBatteryThreshold
      lowSocThreshold := some env.lowBatteryThreshold }

def getDashboardMetrics (inverterId requestingUserId : Uuid) : Except ServiceError DashboardMetrics := do
  let inverter ← db.authorize order inverterId requestingUserId
  let latest := latestReading db.metrics inverterId
  let sevenDayRows := usageRows (getPollingInterval inverter.brand) Granularity.day.bucket
    (readings db.metrics inverterId ((Interval.days 7).before 0 (now * 1000) ≤ ·))
  let rule ← fuelRule .strict (db.settings inverter.userId)
  return {
    currentReadings := latest.map currentReadings
    dataAgeSeconds := latest.map fun m => (now - getTime m.metricTimestamp) / 1000
    systemOffline := inverter.isOffline
    emptyData := latest.isNone
    nairaSavedToday := (rule.costAvoided (energySince db inverter inverterId (todayStart tza now))).toFixed 2
    nairaSavedThisMonth := (rule.costAvoided (energySince db inverter inverterId (monthStart tza now))).toFixed 2
    health := dashboardHealth env now inverter latest
    sevenDayHistory := sevenDayRows }

end

/-! ## System insights -/

structure Snapshot where
  socPercent : ℚ
  loadKw : ℚ
  solarKw : ℚ
  netDischargeKw : ℚ
  ratedCapacityKwh : ℚ
  dataAgeSeconds : Int
  recordedAt : Int
  deriving DecidableEq, Repr

structure Depletion where
  estimatedDepletionMinutes : Option Int
  estimatedDepletionHours : Option ℚ
  usableEnergyRemainingKwh : ℚ
  cutoffSocPercent : ℚ
  deriving DecidableEq, Repr

structure SavingsAtRisk where
  ngnAtRisk : Option JsNumber
  savingsPerHourNgn : JsNumber
  deriving DecidableEq, Repr

structure LoadReduction where
  excessLoadToShedKw : ℚ
  targetLoadKw : ℚ
  extensionHoursIfShed : Option ℚ
  shedReachesSteadyState : Bool
  additionalSavingsNgn : Option JsNumber
  deriving DecidableEq, Repr

structure Flags where
  isCharging : Bool
  isBalanced : Bool
  isCritical : Bool
  isLow : Bool
  solarIsOn : Bool
  deriving DecidableEq, Repr

structure Insights where
  snapshot : Snapshot
  depletion : Depletion
  savingsAtRisk : SavingsAtRisk
  loadReduction : LoadReduction
  flags : Flags
  fuelType : GeneratorFuelType
  fuelPricePerLitreNgn : JsNumber
  assumedGeneratorRatedPowerKw : ℚ
  assumedConsumptionRateLPerHr : ℚ
  deriving DecidableEq, Repr

/-- `noData`: no reading or no inverter; `stale`: the reading is older than 20 minutes. -/
inductive SystemInsights
  | noData
  | stale (dataAgeSeconds : Int)
  | available (insights : Insights)
  deriving DecidableEq, Repr

def cutoffSocPercent : ℚ := 20

def usableEnergyKwh (inverter : Inverter) (latest : InvertersMetrics) : ℚ :=
  if inverter.ratedCapacityKwh > 0 then
    max (latest.batterySocPercent - cutoffSocPercent) 0 / 100 * inverter.ratedCapacityKwh
  else 0

def netDischargeKw (latest : InvertersMetrics) : ℚ := latest.loadKw - latest.solarGenKw

/-- Null when nothing is drawn from the battery, or nothing is left to draw. -/
def depletionHours (inverter : Inverter) (latest : InvertersMetrics) : Option ℚ :=
  if netDischargeKw latest > 0 ∧ usableEnergyKwh inverter latest > 0 then
    some (usableEnergyKwh inverter latest / netDischargeKw latest)
  else none

def savingsPerHour (rule : FuelRule) (latest : InvertersMetrics) : JsNumber :=
  let effectiveDischargeKw := max (netDischargeKw latest) 0
  if rule.ratedPowerKw > 0 ∧ effectiveDischargeKw > 0 then rule.costAvoided effectiveDischargeKw else 0

def shedSavingsPerHour (rule : FuelRule) (latest : InvertersMetrics) : JsNumber :=
  if rule.ratedPowerKw > 0 then rule.costAvoided (max (netDischargeKw latest) 0) else 0

def insights (rule : FuelRule) (inverter : Inverter) (latest : InvertersMetrics) (dataAgeSeconds : Int) : Insights :=
  let socPercent := latest.batterySocPercent
  let netDischargeKw := netDischargeKw latest
  let depletionHours := depletionHours inverter latest
  let excessLoadKw := max netDischargeKw 0
  { snapshot := {
      socPercent
      loadKw := latest.loadKw
      solarKw := latest.solarGenKw
      netDischargeKw := toFixedRat 3 netDischargeKw
      ratedCapacityKwh := inverter.ratedCapacityKwh
      dataAgeSeconds
      recordedAt := getTime latest.metricTimestamp }
    depletion := {
      estimatedDepletionMinutes := depletionHours.map fun h => roundRat (h * 60)
      estimatedDepletionHours := depletionHours.map (toFixedRat 2)
      usableEnergyRemainingKwh := toFixedRat 3 (usableEnergyKwh inverter latest)
      cutoffSocPercent }
    savingsAtRisk := {
      ngnAtRisk := depletionHours.map fun h => (savingsPerHour rule latest * num h).toFixed 2
      savingsPerHourNgn := (savingsPerHour rule latest).toFixed 2 }
    loadReduction := {
      excessLoadToShedKw := toFixedRat 3 excessLoadKw
      targetLoadKw := toFixedRat 3 (max (latest.loadKw - excessLoadKw) 0)
      extensionHoursIfShed := none
      shedReachesSteadyState := depletionHours.isSome ∧ excessLoadKw > 0
      additionalSavingsNgn :=
        if excessLoadKw > 0 then depletionHours.map fun h => (shedSavingsPerHour rule latest * num h).toFixed 2
        else none }
    flags := {
      isCharging := netDischargeKw < 0
      isBalanced := netDischargeKw = 0
      isCritical := socPercent ≤ 20
      isLow := socPercent > 20 ∧ socPercent ≤ 35
      solarIsOn := latest.solarGenKw > 0.1 }
    fuelType := rule.fuelType
    fuelPricePerLitreNgn := rule.fuelPricePerLitreNaira
    assumedGeneratorRatedPowerKw := rule.ratedPowerKw
    assumedConsumptionRateLPerHr := rule.consumptionRateLPerHr }

def getSystemInsights (db : Tables) (now : Int) (inverterId : Uuid) : Except ServiceError SystemInsights :=
  match latestReading db.metrics inverterId, db.inverters inverterId with
  | some latest, some inverter =>
    let dataAgeSeconds := (now - getTime latest.metricTimestamp) / 1000
    if dataAgeSeconds > 1200 then return .stale dataAgeSeconds
    else do
      let rule ← fuelRule .loose (db.settings inverter.userId)
      return .available (insights rule inverter latest dataAgeSeconds)
  | _, _ => return .noData

end IntellApi.Dashboard
