import IntellApi.Basic
import IntellApi.JsNumber
import IntellApi.Sql

/-!
# Alerts: thresholds, depletion, quiet hours, duplicate suppression

The pure helpers of the alert module and the rows they read. Message texts and
the e-mail metadata decide nothing and are left out.
-/

namespace IntellApi.Alerts

open JsNumber (num)

inductive AlertType
  | batteryPercentage
  | batteryTemperature
  | energy
  | other
  | power
  | solarGen
  | inverterFault
  | inverterTemperature
  deriving DecidableEq, Repr

inductive AlertSeverity
  | low
  | medium
  | high
  | warning
  | critical
  | none
  deriving DecidableEq, Repr

inductive AlertResolutionStatus
  | resolved
  | unresolved
  deriving DecidableEq, Repr

/-- `createdAt` is a column, `deliverable` is false for a deferred alert. -/
structure Alert where
  userId : Uuid
  type : AlertType
  severity : AlertSeverity
  resolutionStatus : Option AlertResolutionStatus
  triggeredAt : Int
  deliverable : Bool
  createdAt : Int
  deriving DecidableEq, Repr

/-! ## Depletion -/

/-- A field of a parsed message: absent, null, or a number. -/
inductive JsField
  | undefined
  | null
  | number (n : JsNumber)
  deriving DecidableEq, Repr

def JsField.toNumber : JsField → JsNumber
  | .undefined => .nan
  | .null => 0
  | .number n => n

def JsField.getD (default : JsNumber) : JsField → JsNumber
  | .number n => n
  | _ => default

structure DepletionInput where
  batterySocPercent : JsNumber
  loadKw : JsNumber
  batteryCapacityKwh : JsNumber
  solarGenKw : JsNumber
  inverterRatedPowerKw : JsNumber

structure DepletionResult where
  minutesUntilDepletion : Option JsNumber
  isCharging : Bool
  netDischargeKw : JsNumber
  thresholdPercent : JsNumber
  usedThresholdPercent : JsNumber
  deriving DecidableEq, Repr

def minMeaningfulCapacityKwh : JsNumber := num (2 / 100)

def round2 (x : JsNumber) : JsNumber := (x * 100).round / 100

def calculateDepletion (input : DepletionInput) (threshold : JsNumber) : DepletionResult :=
  let result minutesUntilDepletion isCharging netDischargeKw : DepletionResult :=
    { minutesUntilDepletion, isCharging, netDischargeKw, thresholdPercent := threshold,
      usedThresholdPercent := threshold }
  let safeSOC := JsNumber.max 0 (JsNumber.min 100 input.batterySocPercent)
  let safeCapacity := JsNumber.max 0 input.batteryCapacityKwh
  let netLoad := JsNumber.max 0 (JsNumber.max 0 input.loadKw - JsNumber.max 0 input.solarGenKw)
  if safeCapacity = 0 then
    if netLoad ≤ 0 then result none true 0 else result (some 0) false (round2 netLoad)
  else if safeCapacity < minMeaningfulCapacityKwh then result none true 0
  else if netLoad ≤ 0 then result none true 0
  else
    let usablePercent := safeSOC - threshold
    if usablePercent ≤ 0 then result (some 0) false (round2 netLoad)
    else
      let usableKwh := usablePercent / 100 * safeCapacity
      let hours := if 0 < safeCapacity ∧ 0 < netLoad then usableKwh / netLoad else 0
      let minutes := hours * 60
      result (some (round2 minutes)) false (round2 netLoad)

/-! ## Thresholds -/

structure DepletionAlertInfo where
  severity : AlertSeverity
  minutesUntilDepletion : JsNumber
  deriving DecidableEq, Repr

def shouldFireAlert (minutesUntilDepletion : Option JsNumber) (isCharging : Bool) : Option DepletionAlertInfo :=
  match isCharging, minutesUntilDepletion with
  | true, _ | _, none => none
  | false, some minutes =>
    if minutes ≤ 0 then some ⟨.critical, 0⟩
    else if minutes < 30 then some ⟨.critical, minutes⟩
    else if minutes ≤ 60 then some ⟨.warning, minutes⟩
    else none

structure SolarAlertInfo where
  severity : AlertSeverity
  solarPowerKw : JsNumber
  panelCapacityKw : JsNumber
  performanceRatioPercent : JsNumber
  deriving DecidableEq, Repr

def solarMinAbsoluteKw : JsNumber := num (1 / 10)
def solarMinFraction : JsNumber := num (5 / 100)

def shouldFireSolarAlert (solarPowerKw : JsField) (panelCapacityKw : JsNumber) : Option SolarAlertInfo :=
  let solar := solarPowerKw.toNumber
  if solarPowerKw = .null ∨ solar ≤ 0 then none
  else if panelCapacityKw ≤ 0 then none
  else
    let productionFloor := JsNumber.max solarMinAbsoluteKw (panelCapacityKw * solarMinFraction)
    if solar < productionFloor then none
    else
      let ratio := solar / panelCapacityKw
      let performanceRatioPercent := (ratio * 100).round
      if ratio < num (15 / 100) then some ⟨.critical, solar, panelCapacityKw, performanceRatioPercent⟩
      else if ratio < num (3 / 10) then some ⟨.warning, solar, panelCapacityKw, performanceRatioPercent⟩
      else none

structure HighLoadAlertInfo where
  severity : AlertSeverity
  loadKw : JsNumber
  ratedCapacityKw : JsNumber
  loadRatioPercent : JsNumber
  deriving DecidableEq, Repr

def shouldFireHighLoadAlert (loadKw : JsField) (ratedCapacityKw : JsNumber) : Option HighLoadAlertInfo :=
  let load := loadKw.toNumber
  if loadKw = .null ∨ load ≤ 0 then none
  else if ratedCapacityKw ≤ 0 then none
  else
    let ratio := load / ratedCapacityKw
    let loadRatioPercent := (ratio * 100).round
    if num (95 / 100) < ratio then some ⟨.critical, load, ratedCapacityKw, loadRatioPercent⟩
    else if num (85 / 100) < ratio then some ⟨.warning, load, ratedCapacityKw, loadRatioPercent⟩
    else none

/-! ## Duplicate suppression -/

structure DuplicateCheckInput where
  userId : Uuid
  type : AlertType
  severity : AlertSeverity
  deriving DecidableEq, Repr

def severityRank : AlertSeverity → Nat
  | .low => 0
  | .medium => 1
  | .high => 2
  | .warning => 3
  | .critical => 4
  | .none => 0

def isSeverityUpgrade (existing incoming : AlertSeverity) : Bool :=
  severityRank existing < severityRank incoming

/-- The milliseconds a date object keeps of a column. -/
def getTime (t : Int) : Int := t / 1000

inductive DuplicateReason
  | severityUpgrade
  | withinCooldown (minRemaining : Int)
  | unresolvedAlertExists
  deriving DecidableEq, Repr

structure DuplicateCheckResult where
  isDuplicate : Bool
  existingAlert : Option Alert
  reason : Option DuplicateReason
  deriving DecidableEq, Repr

def latestAlert (alerts : List Alert) (userId : Uuid) (type : AlertType) : Option Alert :=
  Sql.newest (·.createdAt) (alerts.filter fun a => a.userId = userId ∧ a.type = type)

def isDuplicate (alerts : List Alert) (now : Int) (input : DuplicateCheckInput) (cooldownMinutes : Int) :
    DuplicateCheckResult :=
  match latestAlert alerts input.userId input.type with
  | none => ⟨false, none, none⟩
  | some existingAlert =>
    if isSeverityUpgrade existingAlert.severity input.severity then ⟨false, none, some .severityUpgrade⟩
    else
      let elapsed := now - getTime existingAlert.createdAt
      let cooldownMs := cooldownMinutes * 60 * 1000
      if cooldownMinutes > 0 ∧ elapsed < cooldownMs then
        ⟨true, some existingAlert, some (.withinCooldown (-((elapsed - cooldownMs) / 60000)))⟩
      else if existingAlert.resolutionStatus ≠ some .resolved then
        ⟨true, some existingAlert, some .unresolvedAlertExists⟩
      else ⟨false, none, none⟩

/-! ## Quiet hours -/

/-- `Number(s)` of a string of digits; other strings are not a number. -/
def stringToNumber (s : List Char) : Option Int :=
  if s.all Char.isDigit then some (s.foldl (fun n c => 10 * n + (c.toNat - 48 : Nat)) 0) else none

/-- `hours * 60 + minutes` of a string `HH:mm`; what follows is ignored. -/
def minutesOf (s : List Char) : Option Int :=
  match s.splitOn ':' with
  | h :: m :: _ => do return (← stringToNumber h) * 60 + (← stringToNumber m)
  | _ => none

def padStart2 (n : Int) : String :=
  let s := toString n
  if s.length < 2 then "0" ++ s else s

/-- A time that is not a number is printed as one. -/
def convertToUTC (localTime offset : String) : String :=
  let sign : Int := if offset.toList.head? = some '-' then -1 else 1
  match minutesOf localTime.toList, minutesOf (offset.toList.drop 1) with
  | some totalLocal, some totalOffset =>
    let totalUtc := (totalLocal - sign * totalOffset) % 1440
    padStart2 (totalUtc / 60) ++ ":" ++ padStart2 (totalUtc % 60)
  | _, _ => "NaN:NaN"

def isWithinQuietHours (currentTime : Int) (quietStart quietEnd : String) : Bool :=
  let currentMinutes := currentTime / 60000 % 1440
  if quietStart = "00:00" ∧ quietEnd = "00:00" then true
  else
    match minutesOf quietStart.toList, minutesOf quietEnd.toList with
    | some startMinutes, some endMinutes =>
      if startMinutes = endMinutes then false
      else if startMinutes > endMinutes then startMinutes ≤ currentMinutes || currentMinutes < endMinutes
      else startMinutes ≤ currentMinutes && currentMinutes < endMinutes
    | _, _ => false

end IntellApi.Alerts
