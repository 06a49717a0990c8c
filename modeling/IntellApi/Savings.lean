import IntellApi.Fuel
import IntellApi.InverterAccess
import IntellApi.Metrics

/-!
# Costs and savings

The savings of an inverter over a period, a custom range and its lifetime, for
the chatbot and for the endpoints, and the two cost-and-savings reports. The
source repeats the choice of the fuel price in every function, with one of two
null tests. Amounts of money are numbers of the language; energy, fuel and
carbon dioxide do not involve the price and are finite. Dates are printed as
days.
-/

namespace IntellApi.Savings

open Calendar Fuel InverterAccess JsNumber Metrics Reports

/-! ## The fuel rule -/

/-- `settings?.customFuelPriceNaira !== null` and `!= null`. -/
inductive NullTest
  | strict
  | loose
  deriving DecidableEq, Repr

/-- Without a row the property is undefined, which the strict test lets through to `Number`. -/
def NullTest.price (test : NullTest) (settings : Option UserSettings) (fuelEntry : FuelPriceEntry) : JsNumber :=
  match settings.map (·.customFuelPriceNaira), test with
  | some (some price), _ => num price
  | some none, _ | none, .loose => num fuelEntry.pricePerLitreNaira
  | none, .strict => nan

structure FuelRule where
  fuelType : GeneratorFuelType
  ratedPowerKw : ℚ
  fuelEntry : FuelPriceEntry
  hasCustomFuelPrice : Bool
  fuelPricePerLitreNaira : JsNumber
  consumptionRateLPerHr : ℚ
  co2Factor : ℚ
  deriving DecidableEq, Repr

def fuelTypeOf (settings : Option UserSettings) : GeneratorFuelType := (settings.map (·.generatorFuelType)).getD .pms

/-- A rated power of zero is kept: the column comes as a string. -/
def ratedPowerOf (settings : Option UserSettings) : ℚ := (settings.bind (·.generatorRatedPowerKw)).getD 2.5

def fuelRule (test : NullTest) (settings : Option UserSettings) : Except ServiceError FuelRule := do
  let fuelType := fuelTypeOf settings
  let ratedPowerKw := ratedPowerOf settings
  let fuelEntry ← getLatestFuelPrice fuelType
  return {
    fuelType
    ratedPowerKw
    fuelEntry
    hasCustomFuelPrice := (settings.bind (·.customFuelPriceNaira)).isSome
    fuelPricePerLitreNaira := test.price settings fuelEntry
    consumptionRateLPerHr := estimateFuelConsumptionRate fuelType ratedPowerKw
    co2Factor := co2KgPerLitre fuelType }

structure SavingsMeta where
  fuelType : GeneratorFuelType
  fuelPricePerLitreNgn : JsNumber
  fuelPriceLastUpdated : Option Int
  assumedGeneratorRatedPowerKw : ℚ
  assumedConsumptionRateLPerHr : ℚ
  deriving DecidableEq, Repr

namespace FuelRule

def info (rule : FuelRule) : SavingsMeta where
  fuelType := rule.fuelType
  fuelPricePerLitreNgn := rule.fuelPricePerLitreNaira
  fuelPriceLastUpdated := if rule.hasCustomFuelPrice then none else some rule.fuelEntry.updatedAt
  assumedGeneratorRatedPowerKw := rule.ratedPowerKw
  assumedConsumptionRateLPerHr := rule.consumptionRateLPerHr

def fuelSaved (rule : FuelRule) (energyKwh : ℚ) : ℚ :=
  if rule.ratedPowerKw > 0 then energyKwh / rule.ratedPowerKw * rule.consumptionRateLPerHr else 0

def costAvoided (rule : FuelRule) (energyKwh : ℚ) : JsNumber :=
  num (rule.fuelSaved energyKwh) * rule.fuelPricePerLitreNaira

end FuelRule

/-! ## Totals and breakdowns -/

structure Breakdown where
  bucket : Int
  activeHours : Nat
  energyKwh : ℚ
  solarKwh : ℚ
  generatorCostSavedNgn : JsNumber
  fuelSavedLitres : ℚ
  deriving DecidableEq, Repr

structure SavingsResults where
  totalCostSavedNgn : JsNumber
  fuelSavedLitres : ℚ
  co2AvoidedKg : ℚ
  breakdown : List Breakdown
  deriving DecidableEq, Repr

structure SavingsSummary where
  totalCostSavedNgn : JsNumber
  totalEnergyConsumedKwh : ℚ
  totalEnergyGeneratedKwh : ℚ
  totalActiveHours : Nat
  deriving DecidableEq, Repr

def totalEnergyKwh (rows : List SavingsRow) : ℚ := (rows.map (·.energyKwh)).sum

def totalSolarKwh (rows : List SavingsRow) : ℚ := (rows.map (·.solarKwh)).sum

def totalActiveHours (rows : List SavingsRow) : Nat := (rows.map (·.activeHours)).sum

def orOne (n : Nat) : Nat := if n = 0 then 1 else n

def bucketsWithData (rows : List SavingsRow) : Nat := orOne (rows.filter (0 < ·.energyKwh)).length

def solarCoveragePercent (rows : List SavingsRow) : Option ℚ :=
  if totalEnergyKwh rows > 0 then some (toFixedRat 1 (min (totalSolarKwh rows / totalEnergyKwh rows * 100) 100))
  else none

namespace FuelRule

def breakdown (rule : FuelRule) (r : SavingsRow) : Breakdown where
  bucket := r.bucket
  activeHours := r.activeHours
  energyKwh := toFixedRat 3 r.energyKwh
  solarKwh := toFixedRat 3 r.solarKwh
  generatorCostSavedNgn := (rule.costAvoided r.energyKwh).toFixed 2
  fuelSavedLitres := toFixedRat 3 (rule.fuelSaved r.energyKwh)

def generatorCostAvoidedNgn (rule : FuelRule) (rows : List SavingsRow) : JsNumber :=
  rule.costAvoided (totalEnergyKwh rows)

def results (rule : FuelRule) (rows : List SavingsRow) : SavingsResults where
  totalCostSavedNgn := (rule.generatorCostAvoidedNgn rows).toFixed 2
  fuelSavedLitres := toFixedRat 3 (rule.fuelSaved (totalEnergyKwh rows))
  co2AvoidedKg := toFixedRat 3 (rule.fuelSaved (totalEnergyKwh rows) * rule.co2Factor)
  breakdown := rows.map rule.breakdown

def summary (rule : FuelRule) (rows : List SavingsRow) : SavingsSummary where
  totalCostSavedNgn := (rule.generatorCostAvoidedNgn rows).toFixed 2
  totalEnergyConsumedKwh := toFixedRat 3 (totalEnergyKwh rows)
  totalEnergyGeneratedKwh := toFixedRat 3 (totalSolarKwh rows)
  totalActiveHours := totalActiveHours rows

def averageCost (rule : FuelRule) (rows : List SavingsRow) : JsNumber :=
  (rule.generatorCostAvoidedNgn rows / num (bucketsWithData rows)).toFixed 2

end FuelRule

def chart (breakdown : List Breakdown) : List (Int × JsNumber) :=
  breakdown.map fun b => (b.bucket, b.generatorCostSavedNgn)

/-! ## The tables -/

structure Tables where
  inverters : Uuid → Option Inverter
  settings : Uuid → Option UserSettings
  metrics : List InvertersMetrics
  members : List InverterMember

def Tables.savingsRows (db : Tables) (brand : InverterBrand) (inverterId : Uuid) (window : Window)
    (group : Granularity) : List SavingsRow :=
  Metrics.savingsRows (getPollingInterval brand) group.bucket (readings db.metrics inverterId window.contains)

def Tables.monthRows (db : Tables) (brand : InverterBrand) (inverterId : Uuid) : List MonthRow :=
  Metrics.monthRows (getPollingInterval brand) (readings db.metrics inverterId fun _ => true)

/-- The cost-and-savings reports do not read the battery column of their rows. -/
def Tables.reportRows (db : Tables) (brand : InverterBrand) (inverterId : Uuid) (window : Window)
    (group : Granularity) : List SavingsRow :=
  (Metrics.reportRows (getPollingInterval brand) group.bucket
    (readings db.metrics inverterId window.contains)).map (·.toSavingsRow)

/-- The inverter of an endpoint, which only its team may read. -/
def Tables.authorize (db : Tables) (order : Paging.Order InverterMember) (inverterId userId : Uuid) :
    Except ServiceError Inverter := do
  let inverter ← findOne db.inverters inverterId
  validateRequestingUser order db.members inverter userId
  return inverter

def periodWindow (tza : Int) (period : Period) (date : Int) : Window :=
  let (rangeStart, rangeEnd) := getPeriodRange tza period date
  .halfOpen rangeStart rangeEnd

def spanDays (startDate endDate : Int) : Int := -((startDate - endDate) / msPerDay)

/-! ## Periods -/

structure PeriodSummary extends SavingsSummary where
  averageCostSavedNgn : JsNumber
  solarCoveragePercent : Option ℚ
  deriving DecidableEq, Repr

structure AgentPeriodSavings where
  period : Period
  results : SavingsResults
  summary : PeriodSummary
  info : SavingsMeta
  deriving DecidableEq, Repr

structure HttpResults extends SavingsResults where
  generatorCostAvoidedNgn : JsNumber
  deriving DecidableEq, Repr

structure PeriodSavings where
  period : Period
  date : Int
  results : HttpResults
  summary : PeriodSummary
  chart : List (Int × JsNumber)
  info : SavingsMeta
  deriving DecidableEq, Repr

namespace FuelRule

def periodSummary (rule : FuelRule) (rows : List SavingsRow) : PeriodSummary where
  toSavingsSummary := rule.summary rows
  averageCostSavedNgn := rule.averageCost rows
  solarCoveragePercent := solarCoveragePercent rows

def httpResults (rule : FuelRule) (rows : List SavingsRow) : HttpResults where
  toSavingsResults := rule.results rows
  generatorCostAvoidedNgn := (rule.generatorCostAvoidedNgn rows).toFixed 2

end FuelRule

section
variable (order : Paging.Order InverterMember) (tza : Int) (db : Tables)

/-- `_getPeriodSavingsInternal`. -/
def agentPeriodSavings (inverterId : Uuid) (period : Period) (date : Int) :
    Except ServiceError (Option AgentPeriodSavings) :=
  match db.inverters inverterId with
  | none => return none
  | some inverter => do
    let rule ← fuelRule .strict (db.settings inverter.userId)
    let rows := db.savingsRows inverter.brand inverterId (periodWindow tza period date) (chartGroup period)
    return some { period, results := rule.results rows, summary := rule.periodSummary rows, info := rule.info }

def getPeriodSavings (inverterId userId : Uuid) (period : Period) (date : Int) : Except ServiceError PeriodSavings := do
  let inverter ← db.authorize order inverterId userId
  let rule ← fuelRule .strict (db.settings inverter.userId)
  let rows := db.savingsRows inverter.brand inverterId (periodWindow tza period date) (chartGroup period)
  return {
    period
    date := day date
    results := rule.httpResults rows
    summary := rule.periodSummary rows
    chart := chart (rule.results rows).breakdown
    info := rule.info }

end

/-! ## Custom ranges -/

structure CustomRangeSummary extends SavingsSummary where
  averageCostSavedPerBucketNgn : JsNumber
  solarCoveragePercent : Option ℚ
  deriving DecidableEq, Repr

structure AgentCustomRangeSavings where
  startDate : Int
  endDate : Int
  spanDays : Int
  granularity : Granularity
  results : SavingsResults
  summary : SavingsSummary
  info : SavingsMeta
  deriving DecidableEq, Repr

structure CustomRangeSavings where
  startDate : Int
  endDate : Int
  spanDays : Int
  granularity : Granularity
  results : HttpResults
  summary : CustomRangeSummary
  chart : List (Int × JsNumber)
  info : SavingsMeta
  deriving DecidableEq, Repr

def FuelRule.customRangeSummary (rule : FuelRule) (rows : List SavingsRow) : CustomRangeSummary where
  toSavingsSummary := rule.summary rows
  averageCostSavedPerBucketNgn := rule.averageCost rows
  solarCoveragePercent := solarCoveragePercent rows

section
variable (order : Paging.Order InverterMember) (db : Tables)

/-- `_getCustomRangeSavingsInternal`. An unknown inverter is read as a sandbox without settings. -/
def agentCustomRangeSavings (inverterId : Uuid) (startDate endDate : Int) :
    Except ServiceError AgentCustomRangeSavings := do
  let inverter := db.inverters inverterId
  let rule ← fuelRule .strict (inverter.bind fun i => db.settings i.userId)
  let spanDays := spanDays startDate endDate
  let rows := db.savingsRows ((inverter.map (·.brand)).getD .sandbox) inverterId (.halfOpen startDate endDate)
    (customGroup spanDays)
  return {
    startDate := day startDate
    endDate := day (endDate - msPerDay)
    spanDays
    granularity := customGroup spanDays
    results := rule.results rows
    summary := rule.summary rows
    info := rule.info }

def getCustomRangeSavings (inverterId userId : Uuid) (startDate endDate : Int) :
    Except ServiceError CustomRangeSavings := do
  let inverter ← db.authorize order inverterId userId
  if startDate ≥ endDate then throw (.badRequest "startDate must be before endDate")
  else
    let rule ← fuelRule .strict (db.settings inverter.userId)
    let spanDays := spanDays startDate endDate
    let rows := db.savingsRows inverter.brand inverterId (.halfOpen startDate endDate) (customGroup spanDays)
    return {
      startDate := day startDate
      endDate := day endDate
      spanDays
      granularity := customGroup spanDays
      results := rule.httpResults rows
      summary := rule.customRangeSummary rows
      chart := chart (rule.results rows).breakdown
      info := rule.info }

end

/-! ## The lifetime of an inverter -/

structure MonthSavings where
  month : Int
  energyKwh : ℚ
  solarKwh : ℚ
  fuelSavedLitres : ℚ
  savingsNgn : JsNumber
  deriving DecidableEq, Repr

structure CumulativeSavings where
  lifetimeSavingsNgn : JsNumber
  lifetimeEnergyConsumedKwh : ℚ
  lifetimeEnergyGeneratedKwh : ℚ
  lifetimeFuelSavedLitres : ℚ
  co2AvoidedKg : ℚ
  generatorHoursAvoided : ℚ
  totalSavingsToDateNgn : JsNumber
  averageMonthlySavingsNgn : JsNumber
  chart : List (Int × JsNumber)
  info : SavingsMeta
  deriving DecidableEq, Repr

def addAll (amounts : List JsNumber) : JsNumber := amounts.foldl (· + ·) 0

namespace FuelRule

def month (rule : FuelRule) (r : MonthRow) : MonthSavings where
  month := r.month
  energyKwh := toFixedRat 3 r.energyKwh
  solarKwh := toFixedRat 3 r.solarKwh
  fuelSavedLitres := toFixedRat 3 (rule.fuelSaved r.energyKwh)
  savingsNgn := (rule.costAvoided r.energyKwh).toFixed 2

def cumulative (rule : FuelRule) (rows : List MonthRow) : CumulativeSavings :=
  let monthlyData := rows.map rule.month
  let lifetimeEnergyKwh := (monthlyData.map (·.energyKwh)).sum
  let lifetimeFuelSavedLitres := (monthlyData.map (·.fuelSavedLitres)).sum
  let lifetimeSavingsNgn := addAll (monthlyData.map (·.savingsNgn))
  { lifetimeSavingsNgn := lifetimeSavingsNgn.toFixed 2
    lifetimeEnergyConsumedKwh := toFixedRat 3 lifetimeEnergyKwh
    lifetimeEnergyGeneratedKwh := toFixedRat 3 (monthlyData.map (·.solarKwh)).sum
    lifetimeFuelSavedLitres := toFixedRat 3 lifetimeFuelSavedLitres
    co2AvoidedKg := toFixedRat 3 (lifetimeFuelSavedLitres * rule.co2Factor)
    generatorHoursAvoided :=
      if rule.ratedPowerKw > 0 then toFixedRat 1 (lifetimeEnergyKwh / rule.ratedPowerKw) else 0
    totalSavingsToDateNgn := lifetimeSavingsNgn.toFixed 2
    averageMonthlySavingsNgn := (lifetimeSavingsNgn / num (orOne monthlyData.length)).toFixed 2
    chart := monthlyData.map fun m => (m.month, m.savingsNgn)
    info := rule.info }

end FuelRule

section
variable (order : Paging.Order InverterMember) (db : Tables)

/-- `_getCumulativeSavingsInternal`. -/
def agentCumulativeSavings (inverterId : Uuid) : Except ServiceError (Option CumulativeSavings) :=
  match db.inverters inverterId with
  | none => return none
  | some inverter => do
    let rule ← fuelRule .strict (db.settings inverter.userId)
    return some (rule.cumulative (db.monthRows inverter.brand inverterId))

def getCumulativeSavings (inverterId userId : Uuid) : Except ServiceError CumulativeSavings := do
  let inverter ← db.authorize order inverterId userId
  let rule ← fuelRule .strict (db.settings inverter.userId)
  return rule.cumulative (db.monthRows inverter.brand inverterId)

end

/-! ## Cost-and-savings reports -/

structure CostSavingsKeyMetrics where
  totalCostSavedNgn : JsNumber
  generatorCostAvoidedNgn : JsNumber
  fuelSavedLitres : ℚ
  co2AvoidedKg : ℚ
  totalActiveHours : Nat
  totalEnergyGeneratedKwh : ℚ
  totalEnergyConsumedKwh : ℚ
  fuelType : GeneratorFuelType
  fuelPricePerLitreNgn : JsNumber
  assumedConsumptionRateLPerHr : ℚ
  assumedGeneratorRatedPowerKw : ℚ
  deriving DecidableEq, Repr

structure CostSavingsReport where
  name : String
  type : ReportType
  period : ReportPeriod
  dateDelivered : Int
  status : ReportStatus
  keyMetrics : CostSavingsKeyMetrics
  deriving DecidableEq, Repr

def FuelRule.keyMetrics (rule : FuelRule) (rows : List SavingsRow) : CostSavingsKeyMetrics where
  totalCostSavedNgn := (rule.generatorCostAvoidedNgn rows).toFixed 3
  generatorCostAvoidedNgn := (rule.generatorCostAvoidedNgn rows).toFixed 3
  fuelSavedLitres := rule.fuelSaved (totalEnergyKwh rows)
  co2AvoidedKg := rule.fuelSaved (totalEnergyKwh rows) * rule.co2Factor
  totalActiveHours := totalActiveHours rows
  totalEnergyGeneratedKwh := toFixedRat 3 (totalSolarKwh rows)
  totalEnergyConsumedKwh := totalEnergyKwh rows
  fuelType := rule.fuelType
  fuelPricePerLitreNgn := rule.fuelPricePerLitreNaira
  assumedConsumptionRateLPerHr := rule.consumptionRateLPerHr
  assumedGeneratorRatedPowerKw := rule.ratedPowerKw

section
variable (tza : Int) (db : Tables) (now : Int)

def costsAndSavingsReport (report : Report) (window : Window) (group : Granularity) :
    Except ServiceError CostSavingsReport := do
  let inverter ← findOne db.inverters report.inverterId
  let rule ← fuelRule .loose (db.settings inverter.userId)
  let rows := db.reportRows inverter.brand report.inverterId window group
  return {
    name := report.name, type := .csc, period := report.period, dateDelivered := now, status := .ready
    keyMetrics := rule.keyMetrics rows }

def getPeriodCostsAndSavingsReport (report : Report) : Except ServiceError CostSavingsReport := do
  let window ← periodReportWindow tza (db.inverters report.inverterId) report
  costsAndSavingsReport db now report window (chartGroup report.period.toPeriod)

def getCustomRangeCostsAndSavingsReport (report : Report) : Except ServiceError CostSavingsReport := do
  let window ← customRangeReportWindow (db.inverters report.inverterId) report
  costsAndSavingsReport db now report window
    (customGroup (spanDays (report.startDate.getD 0) (report.endDate.getD 0)))

end

end IntellApi.Savings
