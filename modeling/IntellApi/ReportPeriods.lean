import IntellApi.Alerts
import IntellApi.Calendar
import IntellApi.Entities

/-!
# Reports and their windows

A report row, the alert report, and the range of each sub-report of a general
report. Columns are compared in microseconds, dates of the program are in
milliseconds, and local time is the clock plus the fixed offset `tza`. The
chart buckets do not change what is aggregated and are left out here.
-/

namespace IntellApi.Reports

open Alerts Calendar

inductive ReportType
  | general
  | solar
  | alert
  | csc
  deriving DecidableEq, Repr

inductive ReportPeriod
  | weekly
  | monthly
  | custom
  deriving DecidableEq, Repr

inductive ReportStatus
  | pending
  | processing
  | ready
  | failed
  | cancelled
  deriving DecidableEq, Repr

structure Report where
  userId : Uuid
  inverterId : Uuid
  type : ReportType
  name : String
  period : ReportPeriod
  referenceDate : Option Int
  startDate : Option Int
  endDate : Option Int
  dateDelivered : Option Int
  status : ReportStatus
  seriesId : Option Uuid
  occurrence : Option Int
  recurring : Bool
  createdAt : Int
  updatedAt : Int
  deriving DecidableEq, Repr

inductive Window
  | between (start stop : Int)
  | halfOpen (start stop : Int)
  deriving DecidableEq, Repr

def Window.contains : Window → Int → Bool
  | between start stop, t => start * 1000 ≤ t && t ≤ stop * 1000
  | halfOpen start stop, t => start * 1000 ≤ t && t < stop * 1000

/-! ## The alert report -/

def getReportSpanDays (report : Report) : Option Int :=
  match report.period with
  | .custom =>
    match report.startDate, report.endDate with
    | some start, some stop => if stop < start then none else some (-((start - stop) / msPerDay))
    | _, _ => none
  | .weekly => some 7
  | .monthly => some 30

def alertReportWindow (tza : Int) (report : Report) : Except ServiceError Window :=
  let daysLater := (getReportSpanDays report).getD 0
  if daysLater = 0 then throw (.error "Unable to calculate days difference")
  else
    match report.referenceDate <|> report.startDate with
    | none => throw (.error "Report start date is required")
    | some startDate =>
      match report.period with
      | .custom => return .between startDate (report.endDate.getD startDate)
      | _ => return .between startDate (setDate tza startDate (getDate tza startDate + daysLater))

def findAlertsWhere (alerts : List Alert) (window : Window) (userId : Uuid) : List Alert :=
  alerts.filter fun a => a.userId = userId ∧ window.contains a.createdAt

def countKey {κ : Type} [DecidableEq κ] (counts : List (κ × Nat)) (k : κ) : List (κ × Nat) :=
  if counts.any (·.1 = k) then counts.map fun c => if c.1 = k then (k, c.2 + 1) else c else counts ++ [(k, 1)]

def dominant {κ : Type} [DecidableEq κ] (keys : List κ) : Option κ :=
  match keys.foldl countKey [] with
  | [] => none
  | c :: counts => some (counts.foldl (fun a b => if b.2 > a.2 then b else a) c).1

def getDominantAlertType (alerts : List Alert) : Option AlertType := dominant (alerts.map (·.type))

def getDominantAlertSeverity (alerts : List Alert) : Option AlertSeverity := dominant (alerts.map (·.severity))

structure AlertKeyMetrics where
  totalAlerts : Nat
  resolvedAlerts : Nat
  unresolvedAlerts : Nat
  dominantAlertType : Option AlertType
  dominantAlertSeverity : Option AlertSeverity
  resolutionRate : ℚ
  deriving DecidableEq, Repr

def getAlertReport (tza : Int) (alerts : List Alert) (report : Report) : Except ServiceError AlertKeyMetrics := do
  let window ← alertReportWindow tza report
  let alerts := findAlertsWhere alerts window report.userId
  let totalAlerts := alerts.length
  let resolvedAlerts := (alerts.filter (·.resolutionStatus = some .resolved)).length
  return {
    totalAlerts
    resolvedAlerts
    unresolvedAlerts := (alerts.filter (·.resolutionStatus = some .unresolved)).length
    dominantAlertType := getDominantAlertType alerts
    dominantAlertSeverity := getDominantAlertSeverity alerts
    resolutionRate :=
      if totalAlerts > 0 then JsNumber.toFixedRat 2 ((resolvedAlerts : ℚ) / totalAlerts * 100) else 0 }

/-! ## The metric reports -/

inductive Period
  | hourly
  | daily
  | weekly
  | monthly
  deriving DecidableEq, Repr

/-- A report period as the metric service reads it; it knows no `custom` and takes the default. -/
def ReportPeriod.toPeriod : ReportPeriod → Period
  | .weekly => .weekly
  | .monthly => .monthly
  | .custom => .hourly

def getPeriodRange (tza : Int) (period : Period) (d : Int) : Int × Int :=
  match period with
  | .daily => (startOfDay tza d, startOfDay tza (setDate tza d (getDate tza d + 1)))
  | .weekly =>
    let dayOfWeek := getDay tza d
    let mondayOffset := if dayOfWeek = 0 then -6 else 1 - dayOfWeek
    let rangeStart := startOfDay tza (setDate tza d (getDate tza d + mondayOffset))
    (rangeStart, setDate tza rangeStart (getDate tza rangeStart + 7))
  | .monthly =>
    (newDate tza (getFullYear tza d) (getMonth tza d) 1, newDate tza (getFullYear tza d) (getMonth tza d + 1) 1)
  | .hourly => (d - 24 * 60 * 60 * 1000, d)

def checkOwner (inverter : Option Inverter) (userId : Uuid) : Except ServiceError Unit :=
  match inverter with
  | none => throw (.notFound SysMsg.notFound)
  | some inverter => if inverter.userId = userId then return () else throw (.forbidden SysMsg.forbidden)

def periodReportWindow (tza : Int) (inverter : Option Inverter) (report : Report) : Except ServiceError Window :=
  if report.period = .custom then throw (.error "Wrong function for custom report")
  else
    match report.referenceDate with
    | none => throw (.error "Report referenceDate must be defined")
    | some refDate => do
      checkOwner inverter report.userId
      let (rangeStart, rangeEnd) := getPeriodRange tza report.period.toPeriod refDate
      return .halfOpen rangeStart rangeEnd

def customRangeReportWindow (inverter : Option Inverter) (report : Report) : Except ServiceError Window :=
  if report.period ≠ .custom then throw (.error "Report must be customRange")
  else
    match report.startDate, report.endDate with
    | some startDate, some endDate => do
      checkOwner inverter report.userId
      return .halfOpen startDate endDate
    | _, _ => throw (.error "startDate and endDate must be defined")

def solarReportWindow (tza : Int) (inverter : Option Inverter) (report : Report) : Except ServiceError Window :=
  if report.period = .custom then customRangeReportWindow inverter report
  else periodReportWindow tza inverter report

def costAndSavingsReportWindow (tza : Int) (inverter : Option Inverter) (report : Report) :
    Except ServiceError Window :=
  if report.period = .custom then customRangeReportWindow inverter report
  else periodReportWindow tza inverter report

structure GeneralWindows where
  alert : Window
  costAndSavings : Window
  solar : Window
  deriving DecidableEq, Repr

def generalReportWindows (tza : Int) (inverter : Option Inverter) (report : Report) :
    Except ServiceError GeneralWindows := do
  let alert ← alertReportWindow tza report
  let costAndSavings ← costAndSavingsReportWindow tza inverter report
  let solar ← solarReportWindow tza inverter report
  return { alert, costAndSavings, solar }

end IntellApi.Reports
