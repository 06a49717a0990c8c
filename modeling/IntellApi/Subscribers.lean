import IntellApi.AlertDetection
import IntellApi.Json
import IntellApi.MetricsPoller

/-!
# The subscribers of the inverter channels

A text on a channel `inverter:…` reaches the alert detection job, one on the
control channel reaches the poller as well. Both parse it, neither knows what
it is going to find. Nobody awaits the promises they start: one of them that is
rejected is an unhandled rejection.
-/

namespace IntellApi.Subscribers

open Alerts
open MetricsPoller (ParsedMessage InverterControlMessage InverterControlEvent)

def inverterControlChannel : String := "inverter:control"

/-- `inverter:*` -/
def inverterPattern (channel : String) : Bool := "inverter:".toList.isPrefixOf channel.toList

/-! ## Parsed messages -/

/-- `value[key]`; `none` is `undefined`. -/
def property (key : String) : Json → Except String (Option Json)
  | .null => .error ("Cannot read properties of null (reading '" ++ key ++ "')")
  | .object members => .ok (Json.lookup key members)
  | .bool _ | .number _ | .string _ | .array _ => .ok none

/-- `value && typeof value === 'object'` -/
def isObject : Json → Bool
  | .array _ | .object _ => true
  | .null | .bool _ | .number _ | .string _ => false

def textOf : Option Json → Option String
  | some (.string s) => some s
  | _ => none

section
-- the id of the row a query by a value is about, and what arithmetic makes of a value that is no number
variable (rowId : Option Json → Uuid) (toNumber : Json → JsNumber)

def fieldOf : Option Json → JsField
  | none => .undefined
  | some .null => .null
  | some (.number q) => .number (.num q)
  | some value => .number (toNumber value)

/-- What the evaluation reads of a message. An error that a field causes later,
in the `try` block, ends the evaluation as a call that fails does. -/
def normalisedMetric (value : Json) : Except String AlertDetection.NormalisedMetric := do
  let inverterId ← property "inverterId" value
  let solarPowerKw ← property "solarPowerKw" value
  let acOutputPowerKw ← property "acOutputPowerKw" value
  let batterySoc ← property "batterySoc" value
  return ⟨rowId inverterId, fieldOf toNumber solarPowerKw, fieldOf toNumber acOutputPowerKw,
    fieldOf toNumber batterySoc⟩

/-- The message of `handleMetricMessage`: `evaluateFromMetric` is asynchronous,
an error at its first line rejects its promise. -/
def metricMessage (raw : String) : AlertDetection.Message :=
  match Json.parse raw with
  | none => .malformed
  | some value =>
    match normalisedMetric rowId toNumber value with
    | .ok metric => .metric metric
    | .error _ => .null

/-- What the callback of the control channel reads, if it throws no error. -/
def controlMessage (raw : String) : Except String (Option ParsedMessage) :=
  match Json.parse raw with
  | none => .ok none
  | some value =>
    if isObject value then do
      let event ← property "event" value
      let inverterId ← property "inverterId" value
      let brand ← property "brand" value
      return some ⟨textOf event, ((textOf inverterId).filter (· ≠ "")).map fun _ => rowId inverterId, textOf brand⟩
    else .ok (some ⟨none, none, none⟩)

end

/-- `JSON.stringify(message)` when `text` writes ids. -/
def stringify (text : Uuid → String) (message : InverterControlMessage) : String :=
  Json.stringify [
    ("event", match message.event with
      | .registered => "registered"
      | .deregistered => "deregistered"),
    ("inverterId", text message.inverterId),
    ("brand", message.brand)]

/-! ## Both subscribers -/

structure State where
  detection : AlertDetection.State
  poller : MetricsPoller.State
  /-- What a callback has thrown. -/
  threw : Option String

/-- The steps of the two, messages apart. -/
inductive Action
  | message (channel raw : String)
  | detection (a : AlertDetection.Action)
  | poller (e : MetricsPoller.Event)

section
variable (rowId : Option Json → Uuid) (toNumber : Json → JsNumber) (userSettings : Uuid → Option UserSettings)
  (brandOf : Uuid → InverterBrand)

namespace State

def findInverter (s : State) (id : Uuid) : Option Inverter := s.poller.inverters.find? (·.id = id)

def handleMetricMessage (s : State) (raw : String) : State :=
  let message := metricMessage rowId toNumber raw
  { s with detection :=
    (AlertDetection.step s.findInverter userSettings s.detection (.handleMetricMessage message)).getD s.detection }

/-- A poller that has not subscribed yet gets no message. -/
def onControlMessage (s : State) (raw : String) : State :=
  match controlMessage rowId raw with
  | .ok parsed => { s with poller := (MetricsPoller.step brandOf s.poller (.poller (.deliver parsed))).getD s.poller }
  | .error message => { s with threw := some message }

end State

def step (s : State) : Action → Option State
  | .message channel raw =>
    let s := if inverterPattern channel then s.handleMetricMessage rowId toNumber userSettings raw else s
    some (if channel = inverterControlChannel then s.onControlMessage rowId brandOf raw else s)
  | .detection (.handleMetricMessage _) => none
  | .detection a =>
    (AlertDetection.step s.findInverter userSettings s.detection a).map fun detection => { s with detection }
  | .poller (.poller (.deliver _)) => none
  | .poller e => (MetricsPoller.step brandOf s.poller e).map fun poller => { s with poller }

def machine : Lts.Machine State Action :=
  ⟨⟨AlertDetection.init, ⟨[], .init⟩, none⟩, step rowId toNumber userSettings brandOf⟩

end

end IntellApi.Subscribers
