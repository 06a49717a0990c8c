import IntellApi.ReportPeriods
import IntellApi.Sql

/-!
# Metric rows and the queries on them

A query is split into the rows its `WHERE` keeps (`readings`) and its `SELECT`
list over those rows, one definition for each text of a `SELECT` list. Buckets
are Lagos local times, given by the millisecond they begin at. `NOW()` is the
database clock in microseconds.
-/

namespace IntellApi.Metrics

open Calendar Reports

structure InvertersMetrics where
  inverterId : Uuid
  solarGenKw : ℚ
  batterySocPercent : ℚ
  loadKw : ℚ
  gridVoltageV : Option ℚ
  batteryVoltageV : Option ℚ
  metricTimestamp : Int
  deriving DecidableEq, Repr

def readings (metrics : List InvertersMetrics) (inverterId : Uuid) (keep : Int → Bool) : List InvertersMetrics :=
  metrics.filter fun m => m.inverterId = inverterId && keep m.metricTimestamp

def latestReading (metrics : List InvertersMetrics) (inverterId : Uuid) : Option InvertersMetrics :=
  Sql.newest (·.metricTimestamp) (metrics.filter (·.inverterId = inverterId))

/-! ## Buckets and intervals -/

/-- What the chart expressions group by: `DATE` or `DATE_TRUNC` of the Lagos local time. -/
inductive Granularity
  | hour
  | day
  | week
  | month
  deriving DecidableEq, Repr

def lagosOffset : Int := 3600000

def Granularity.bucket (g : Granularity) (t : Int) : Int :=
  let ms := t / 1000 + lagosOffset
  match g with
  | .hour => ms / 3600000 * 3600000
  | .day => Calendar.day ms * msPerDay
  | .week => (Calendar.day ms - (Calendar.day ms + 3) % 7) * msPerDay
  | .month => makeDay (yearOfDay (Calendar.day ms)) (monthOfDay (Calendar.day ms)) 1 * msPerDay

inductive Interval
  | hours (n : Int)
  | days (n : Int)
  | months (n : Int)
  deriving DecidableEq, Repr

/-- `now - INTERVAL`, in a session at offset `tza`. Months keep the day of the
month, or take the last one. -/
def Interval.before (tza now : Int) : Interval → Int
  | .hours n => now - n * 3600000000
  | .days n => now - n * 86400000000
  | .months n =>
    let today := day (now / 1000 + tza)
    let first := makeDay (yearOfDay today) (monthOfDay today - n) 1
    let next := makeDay (yearOfDay today) (monthOfDay today - n + 1) 1
    let date := min (first + dateOfDay today - 1) (next - 1)
    now - (today - date) * 86400000000

def getPeriodConfig : Period → Interval × Granularity
  | .hourly => (.hours 24, .hour)
  | .daily => (.days 7, .day)
  | .weekly => (.days (12 * 7), .week)
  | .monthly => (.months 12, .month)

/-- The chart expression of `getPeriodRange`. -/
def chartGroup : Period → Granularity
  | .daily | .hourly => .hour
  | .weekly | .monthly => .day

def customGroup (spanDays : Int) : Granularity :=
  if spanDays ≤ 2 then .hour else if spanDays < 21 then .day else if spanDays ≤ 90 then .week else .month

/-! ## From power to energy -/

def basePoints : Int := 600

/-- Tenths of a minute. -/
def getPollingInterval : InverterBrand → Int
  | .victron => 20
  | .sandbox => 5
  | _ => 50

/-- `(${pollInterval} / ${basePoints})`. -/
def factor (pollInterval : Int) : Sql.Number := .div (.integer pollInterval) (.integer basePoints)

/-- `(${pollInterval}.0 / ${basePoints})`. -/
def decimalFactor (pollInterval : Int) : Sql.Number := .div (.numeric pollInterval) (.integer basePoints)

def activeHours (rows : List InvertersMetrics) : Nat :=
  Sql.countDistinct rows fun m => Granularity.hour.bucket m.metricTimestamp

/-- The query of today's and of this month's energy. -/
def energyKwh (pollInterval : Int) (rows : List InvertersMetrics) : Option ℚ :=
  (Sql.sum (·.loadKw) rows).map (· * (factor pollInterval).toRat)

structure UsageRow where
  bucket : Int
  solarKwh : ℚ
  avgBatterySoc : ℚ
  avgLoadKw : ℚ
  deriving DecidableEq, Repr

def usageRow (pollInterval : Int) (g : Int × List InvertersMetrics) : UsageRow where
  bucket := g.1
  solarKwh := (Sql.sum (·.solarGenKw) g.2).getD 0 * (factor pollInterval).toRat
  avgBatterySoc := (Sql.avg (·.batterySocPercent) g.2).getD 0
  avgLoadKw := (Sql.avg (·.loadKw) g.2).getD 0

/-- The queries of the seven-day history and of `getEnergyUsage`. -/
def usageRows (pollInterval : Int) (bucket : Int → Int) (rows : List InvertersMetrics) : List UsageRow :=
  (Sql.groupBy (fun m => bucket m.metricTimestamp) rows).map (usageRow pollInterval)

structure SavingsRow where
  bucket : Int
  energyKwh : ℚ
  solarKwh : ℚ
  activeHours : Nat
  deriving DecidableEq, Repr

def savingsRow (pollInterval : Int) (g : Int × List InvertersMetrics) : SavingsRow where
  bucket := g.1
  energyKwh := (Sql.sum (·.loadKw) g.2).getD 0 * (decimalFactor pollInterval).toRat
  solarKwh := (Sql.sum (·.solarGenKw) g.2).getD 0 * (decimalFactor pollInterval).toRat
  activeHours := activeHours g.2

/-- The queries of the period and custom-range savings. -/
def savingsRows (pollInterval : Int) (bucket : Int → Int) (rows : List InvertersMetrics) : List SavingsRow :=
  (Sql.groupBy (fun m => bucket m.metricTimestamp) rows).map (savingsRow pollInterval)

structure MonthRow where
  month : Int
  energyKwh : ℚ
  solarKwh : ℚ
  deriving DecidableEq, Repr

def monthRow (pollInterval : Int) (g : Int × List InvertersMetrics) : MonthRow where
  month := g.1
  energyKwh := (Sql.sum (·.loadKw) g.2).getD 0 * (decimalFactor pollInterval).toRat
  solarKwh := (Sql.sum (·.solarGenKw) g.2).getD 0 * (decimalFactor pollInterval).toRat

/-- The queries of the cumulative savings. -/
def monthRows (pollInterval : Int) (rows : List InvertersMetrics) : List MonthRow :=
  (Sql.groupBy (fun m => Granularity.month.bucket m.metricTimestamp) rows).map (monthRow pollInterval)

structure ReportRow extends SavingsRow where
  avgBatterySoc : ℚ
  deriving DecidableEq, Repr

def reportRow (pollInterval : Int) (g : Int × List InvertersMetrics) : ReportRow where
  bucket := g.1
  energyKwh := (Sql.sum (·.loadKw) g.2).getD 0 * (decimalFactor pollInterval).toRat
  solarKwh := (Sql.sum (·.solarGenKw) g.2).getD 0 * (decimalFactor pollInterval).toRat
  activeHours := activeHours g.2
  avgBatterySoc := (Sql.avg (·.batterySocPercent) g.2).getD 0

/-- The queries of the solar and of the cost-and-savings reports. -/
def reportRows (pollInterval : Int) (bucket : Int → Int) (rows : List InvertersMetrics) : List ReportRow :=
  (Sql.groupBy (fun m => bucket m.metricTimestamp) rows).map (reportRow pollInterval)

/-! ## Energy usage -/

structure EnergyUsage where
  period : Period
  data : List UsageRow
  deriving DecidableEq, Repr

/-- `now` is the database clock and `tza` its session's offset. -/
def getEnergyUsage (inverters : Uuid → Option Inverter) (metrics : List InvertersMetrics) (tza now : Int)
    (inverterId : Uuid) (period : Period) : EnergyUsage :=
  let (interval, group) := getPeriodConfig period
  let pollInterval := match inverters inverterId with
    | some inverter => getPollingInterval inverter.brand
    | none => 50
  { period, data := usageRows pollInterval group.bucket (readings metrics inverterId (interval.before tza now ≤ ·)) }

end IntellApi.Metrics
