import IntellApi.Alerts
import IntellApi.Entities
import IntellApi.Lts

/-!
# The alert detection job

Every message starts an evaluation that nobody awaits. An evaluation is
suspended at each database or queue call, so the machine's runs are the
interleavings of any number of them. A call that fails takes the `ok` of its
step to be false. Inverters and settings do not change during a run; the clock
moves on with every insert.
-/

namespace IntellApi.AlertDetection

open Alerts
open JsNumber (num)

structure NormalisedMetric where
  inverterId : Uuid
  solarPowerKw : JsField
  acOutputPowerKw : JsField
  batterySoc : JsField
  deriving DecidableEq, Repr

/-- What `JSON.parse` makes of a message; `null` parses and has no fields. -/
inductive Message
  | malformed
  | null
  | metric (metric : NormalisedMetric)
  deriving DecidableEq, Repr

/-- An alert the evaluation wants to save. -/
structure Candidate where
  alertType : AlertType
  severity : AlertSeverity
  deriving DecidableEq, Repr

def depletionThreshold (settings : Option UserSettings) : Int := (settings.bind (·.depletionThreshold)).getD 10
def cooldown (settings : Option UserSettings) : Int := (settings.bind (·.alertCooldownMinutes)).getD 15
def timezone (settings : Option UserSettings) : String := (settings.bind (·.timezone)).getD "+00:00"

def evaluateInverter (inverter : Inverter) (settings : Option UserSettings) (metric : NormalisedMetric) :
    List Candidate :=
  let depletionInput : DepletionInput :=
    { batterySocPercent := metric.batterySoc.getD 0
      loadKw := metric.acOutputPowerKw.getD 0
      batteryCapacityKwh := num inverter.ratedCapacityKwh
      solarGenKw := metric.solarPowerKw.getD 0
      inverterRatedPowerKw := num inverter.panelCapacityKw }
  let depletionResult := calculateDepletion depletionInput (num (depletionThreshold settings))
  let batteryAlertInfo := shouldFireAlert depletionResult.minutesUntilDepletion depletionResult.isCharging
  let panelCapacityKw := num inverter.panelCapacityKw
  let solarAlertInfo := shouldFireSolarAlert metric.solarPowerKw panelCapacityKw
  let loadAlertInfo := shouldFireHighLoadAlert metric.acOutputPowerKw panelCapacityKw
  (batteryAlertInfo.map fun i => ⟨.batteryPercentage, i.severity⟩).toList ++
    (solarAlertInfo.map fun i => ⟨.solarGen, i.severity⟩).toList ++
    (loadAlertInfo.map fun i => ⟨.power, i.severity⟩).toList

def deferDelivery (settings : Option UserSettings) (now : Int) (severity : AlertSeverity) : Bool :=
  match settings.bind (·.quietHoursStart), settings.bind (·.quietHoursEnd) with
  | some start, some stop =>
    start ≠ "" ∧ stop ≠ "" ∧ severity ≠ .critical ∧
      isWithinQuietHours now (convertToUTC start (timezone settings)) (convertToUTC stop (timezone settings))
  | _, _ => false

/-- The next instant after `now` at which the UTC clock shows the end of the quiet hours. -/
def quietHoursEndDate (settings : Option UserSettings) (now : Int) : Option Int := do
  let stop ← settings.bind (·.quietHoursEnd)
  let minutes ← minutesOf (convertToUTC stop (timezone settings)).toList
  let date := now / dayMs * dayMs + minutes * 60000
  return if date ≤ now then date + dayMs else date

inductive AlertJob
  | dispatch (alertId : Nat)
  | deferredDelivery (alertId : Nat) (scheduledFor delay : Int)
  deriving DecidableEq, Repr

/-- Where an evaluation is suspended. `todo` are the alerts still to be looked at. -/
inductive Evaluation
  | findingInverter (metric : NormalisedMetric)
  | loadingSettings (inverter : Inverter) (metric : NormalisedMetric)
  | checking (userId : Uuid) (settings : Option UserSettings) (todo : List Candidate)
  | saving (userId : Uuid) (settings : Option UserSettings) (alert : Candidate) (now : Int) (todo : List Candidate)
  | enqueuing (userId : Uuid) (settings : Option UserSettings) (job : AlertJob) (todo : List Candidate)
  | done
  | unhandledRejection
  deriving DecidableEq, Repr

/-- A row's id is its place in the order of the inserts; the newest row is first.
An evaluation is named by its place in the list. -/
structure State where
  clock : Int
  alerts : List (Nat × Alert)
  jobs : List AlertJob
  evaluations : List Evaluation

inductive Action
  | tick (us : Nat)
  | markAsResolved (alertId : Nat)
  | handleMetricMessage (message : Message)
  | findInverter (p : Nat) (ok : Bool)
  | loadSettings (p : Nat) (ok : Bool)
  | isDuplicate (p : Nat) (ok : Bool)
  | save (p : Nat) (ok : Bool)
  | add (p : Nat) (ok : Bool)

def State.set (s : State) (p : Nat) (e : Evaluation) : State :=
  { s with evaluations := s.evaluations.set p e }

def State.now (s : State) : Int := getTime s.clock

def State.rows (s : State) : List Alert := s.alerts.map (·.2)

def init : State := { clock := 0, alerts := [], jobs := [], evaluations := [] }

def newAlert (userId : Uuid) (settings : Option UserSettings) (c : Candidate) (now : Int) (createdAt : Int) :
    Alert :=
  { userId, type := c.alertType, severity := c.severity, resolutionStatus := some .unresolved, triggeredAt := now,
    deliverable := !deferDelivery settings now c.severity, createdAt }

def resolve (alert : Alert) : Alert := { alert with resolutionStatus := some .resolved }

section
variable (inverters : Uuid → Option Inverter) (userSettings : Uuid → Option UserSettings)

def step (s : State) : Action → Option State
  | .tick us => some { s with clock := s.clock + us }
  | .markAsResolved alertId =>
    some { s with alerts := s.alerts.map fun r => if r.1 = alertId then (r.1, resolve r.2) else r }
  | .handleMetricMessage message =>
    match message with
    | .malformed => some s
    | .null => some { s with evaluations := s.evaluations ++ [.unhandledRejection] }
    | .metric metric => some { s with evaluations := s.evaluations ++ [.findingInverter metric] }
  | .findInverter p ok =>
    match s.evaluations[p]? with
    | some (.findingInverter metric) =>
      -- outside the try block
      if ok then
        match inverters metric.inverterId with
        | some inverter => some (s.set p (if inverter.isActive then .loadingSettings inverter metric else .done))
        | none => some (s.set p .done)
      else some (s.set p .unhandledRejection)
    | _ => none
  | .loadSettings p ok =>
    match s.evaluations[p]? with
    | some (.loadingSettings inverter metric) =>
      let settings := userSettings inverter.userId
      if ok then some (s.set p (.checking inverter.userId settings (evaluateInverter inverter settings metric)))
      else some (s.set p .done)
    | _ => none
  | .isDuplicate p ok =>
    match s.evaluations[p]? with
    | some (.checking _ _ []) => some (s.set p .done)
    | some (.checking userId settings (c :: todo)) =>
      if ok then
        let dupCheck := Alerts.isDuplicate s.rows s.now ⟨userId, c.alertType, c.severity⟩ (cooldown settings)
        some (s.set p (if dupCheck.isDuplicate then .checking userId settings todo
          else .saving userId settings c s.now todo))
      else some (s.set p .done)
    | _ => none
  | .save p ok =>
    match s.evaluations[p]? with
    | some (.saving userId settings c now todo) =>
      if ok then
        let alertId := s.alerts.length
        let saved := { s with
          alerts := (alertId, newAlert userId settings c now s.clock) :: s.alerts
          clock := s.clock + 1 }
        if deferDelivery settings now c.severity then
          match quietHoursEndDate settings now with
          | some date => some (saved.set p (.enqueuing userId settings (.deferredDelivery alertId date (date - now)) todo))
          | none => some (saved.set p .done)
        else some (saved.set p (.enqueuing userId settings (.dispatch alertId) todo))
      else some (s.set p .done)
    | _ => none
  | .add p ok =>
    match s.evaluations[p]? with
    | some (.enqueuing userId settings job todo) =>
      if ok then some ({ s with jobs := job :: s.jobs }.set p (.checking userId settings todo))
      else some (s.set p .done)
    | _ => none

def machine : Lts.Machine State Action := ⟨init, step inverters userSettings⟩

end

end IntellApi.AlertDetection
