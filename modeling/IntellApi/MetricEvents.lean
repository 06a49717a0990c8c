import IntellApi.Entities
import IntellApi.IsoDate
import IntellApi.JsNumber

/-!
# Readings as rows and as events

A reading is saved as a row and published as JSON. The snapshot of a stream is
made from the row, the live events from the JSON, both by `toMetricEvent`. A
decimal comes back from the database as the text of its value, so a column
holds a number, rounded to its scale, or nothing at all is saved.
-/

namespace IntellApi.MetricEvents

structure NormalisedMetric where
  inverterId : Uuid
  inverterBrand : InverterBrand
  recordedAt : String
  inverterStatus : String
  solarPowerKw : Option JsNumber
  acOutputPowerKw : Option JsNumber
  gridVoltageV : Option JsNumber
  gridFrequencyHz : Option JsNumber
  batterySoc : Option JsNumber
  batteryVoltageV : Option JsNumber
  batteryCurrentA : Option JsNumber
  batteryTemperatureC : Option JsNumber
  batteryTimeToGoMin : Option JsNumber
  inverterTemperatureC : Option JsNumber
  deriving DecidableEq, Repr

structure InvertersMetrics where
  inverterId : Uuid
  solarGenKw : JsNumber
  batterySocPercent : JsNumber
  loadKw : JsNumber
  gridFrequencyHz : Option JsNumber
  batteryVoltageV : Option JsNumber
  batteryCurrentA : Option JsNumber
  gridVoltageV : Option JsNumber
  inverterStatus : Option String
  batteryTemperatureC : Option JsNumber
  batteryTimeToGoMin : Option JsNumber
  inverterTemperatureC : Option JsNumber
  metricTimestamp : Int
  deriving DecidableEq, Repr

structure MetricEvent where
  inverterId : Uuid
  recordedAt : String
  batterySoc : Option JsNumber
  solarPowerW : Option JsNumber
  acOutputPowerW : Option JsNumber
  gridVoltageV : Option JsNumber
  gridFrequencyHz : Option JsNumber
  inverterStatus : String
  batteryVoltageV : Option JsNumber
  batteryCurrentA : Option JsNumber
  batteryTemperatureC : Option JsNumber
  batteryTimeToGoMin : Option JsNumber
  inverterTemperatureC : Option JsNumber
  deriving DecidableEq, Repr

/-! ## Columns -/

/-- `decimal(precision, scale)` rounds halves away from zero and refuses what
does not fit; it has a `NaN` and no infinities. -/
def decimal (precision scale : Nat) : JsNumber → Option JsNumber
  | .nan => some .nan
  | .inf _ => none
  | .num q =>
    let r := JsNumber.toFixedRat scale q
    let bound : ℚ := 10 ^ (precision - scale)
    if -bound < r ∧ r < bound then some (.num r) else none

def nullable (precision scale : Nat) : Option JsNumber → Option (Option JsNumber)
  | none => some none
  | some x => (decimal precision scale x).map some

/-- `varchar(n)` cuts spaces at the end off and refuses other texts that are too long. -/
def varchar (n : Nat) (s : String) : Option String :=
  if s.toList.length ≤ n then some s
  else if (s.toList.drop n).all (· = ' ') then some (String.ofList (s.toList.take n))
  else none

def minTimestamp : Int := -210866803200000

def timestamptz (t : Int) : Option Int := if minTimestamp ≤ t then some t else none

/-! ## Saving and publishing -/

/-- The row that `persistAndPublish` saves, if nothing in it is refused. -/
def save (metric : NormalisedMetric) : Option InvertersMetrics := do
  let solarGenKw ← decimal 10 2 (metric.solarPowerKw.getD 0)
  let batterySocPercent ← decimal 5 2 (metric.batterySoc.getD 0)
  let loadKw ← decimal 10 2 (metric.acOutputPowerKw.getD 0)
  let gridVoltageV ← nullable 10 2 metric.gridVoltageV
  let gridFrequencyHz ← nullable 5 2 metric.gridFrequencyHz
  let batteryVoltageV ← nullable 10 2 metric.batteryVoltageV
  let batteryCurrentA ← nullable 10 2 metric.batteryCurrentA
  let inverterStatus ← varchar 50 metric.inverterStatus
  let batteryTemperatureC ← nullable 5 2 metric.batteryTemperatureC
  let batteryTimeToGoMin ← nullable 8 2 metric.batteryTimeToGoMin
  let inverterTemperatureC ← nullable 5 2 metric.inverterTemperatureC
  let recordedAt ← IsoDate.parse metric.recordedAt
  let metricTimestamp ← timestamptz recordedAt
  return {
    inverterId := metric.inverterId, solarGenKw, batterySocPercent, loadKw, gridVoltageV, gridFrequencyHz
    batteryVoltageV, batteryCurrentA, inverterStatus := some inverterStatus, batteryTemperatureC
    batteryTimeToGoMin, inverterTemperatureC, metricTimestamp }

/-- A number in JSON: there is no `NaN` and no infinity. -/
def jsonNumber : Option JsNumber → Option JsNumber
  | some (.num q) => some (.num q)
  | _ => none

def viaJson (metric : NormalisedMetric) : NormalisedMetric :=
  { metric with
    solarPowerKw := jsonNumber metric.solarPowerKw
    acOutputPowerKw := jsonNumber metric.acOutputPowerKw
    gridVoltageV := jsonNumber metric.gridVoltageV
    gridFrequencyHz := jsonNumber metric.gridFrequencyHz
    batterySoc := jsonNumber metric.batterySoc
    batteryVoltageV := jsonNumber metric.batteryVoltageV
    batteryCurrentA := jsonNumber metric.batteryCurrentA
    batteryTemperatureC := jsonNumber metric.batteryTemperatureC
    batteryTimeToGoMin := jsonNumber metric.batteryTimeToGoMin
    inverterTemperatureC := jsonNumber metric.inverterTemperatureC }

/-! ## Events -/

def kwToW (kw : Option JsNumber) : Option JsNumber := kw.map fun kw => (kw * 1000).toFixed 2

def toMetricEvent (metric : NormalisedMetric) : MetricEvent where
  inverterId := metric.inverterId
  recordedAt := metric.recordedAt
  batterySoc := metric.batterySoc
  solarPowerW := kwToW metric.solarPowerKw
  acOutputPowerW := kwToW metric.acOutputPowerKw
  gridVoltageV := metric.gridVoltageV
  gridFrequencyHz := metric.gridFrequencyHz
  inverterStatus := metric.inverterStatus
  batteryVoltageV := metric.batteryVoltageV
  batteryCurrentA := metric.batteryCurrentA
  batteryTemperatureC := metric.batteryTemperatureC
  batteryTimeToGoMin := metric.batteryTimeToGoMin
  inverterTemperatureC := metric.inverterTemperatureC

/-- The reading that `streamMetrics` makes of the latest row. -/
def snapshot (latest : InvertersMetrics) (inverterBrand : InverterBrand) : NormalisedMetric where
  inverterId := latest.inverterId
  inverterBrand := inverterBrand
  recordedAt := IsoDate.toISOString latest.metricTimestamp
  inverterStatus := latest.inverterStatus.getD "unknown"
  batterySoc := some latest.batterySocPercent
  solarPowerKw := some latest.solarGenKw
  acOutputPowerKw := some latest.loadKw
  gridVoltageV := latest.gridVoltageV
  gridFrequencyHz := latest.gridFrequencyHz
  batteryVoltageV := latest.batteryVoltageV
  batteryCurrentA := latest.batteryCurrentA
  batteryTemperatureC := latest.batteryTemperatureC
  batteryTimeToGoMin := latest.batteryTimeToGoMin
  inverterTemperatureC := latest.inverterTemperatureC

def snapshotEvent (latest : InvertersMetrics) (inverterBrand : InverterBrand) : MetricEvent :=
  toMetricEvent (snapshot latest inverterBrand)

/-- The event of a message on the channel. -/
def liveEvent (metric : NormalisedMetric) : MetricEvent := toMetricEvent (viaJson metric)

end IntellApi.MetricEvents
