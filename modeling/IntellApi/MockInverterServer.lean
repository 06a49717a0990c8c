import IntellApi.InverterAdapters
import IntellApi.Json
import IntellApi.Lts

/-!
# The mock inverter server

It stands in for Victron's cloud: three devices whose readings move every half
minute, by the hour of the day or by an override that was asked for, and the
three answers that the adapters read. Figures are exact; `exp` is the
exponential of the daylight curve, and each random number comes with the tick.
-/

namespace IntellApi.MockInverterServer

open InverterAdapters

inductive DeviceMode
  | normal
  | charging
  | discharging
  deriving DecidableEq, Repr

structure DeviceState where
  installationId : String
  name : String
  identifier : String
  victronUserId : Nat
  batterySoc : ℚ
  batteryVoltageV : ℚ
  batteryCurrentA : ℚ
  batteryTemperatureC : ℚ
  batteryTimeToGoMin : ℚ
  solarPowerKw : ℚ
  acOutputPowerKw : ℚ
  gridVoltageV : ℚ
  gridFrequencyHz : ℚ
  inverterTemperatureC : ℚ
  inverterStatus : String
  panelCapacityKw : ℚ
  batteryCapacityKwh : ℚ
  mode : DeviceMode
  modeExpiresAt : Option ℚ
  deriving DecidableEq, Repr

def siteA : DeviceState :=
  { installationId := "100001", name := "Intell Test Site A", identifier := "MOCK-VIC-001", victronUserId := 9001
    batterySoc := 75, batteryVoltageV := 52.4, batteryCurrentA := 8, batteryTemperatureC := 28
    batteryTimeToGoMin := 240, solarPowerKw := 2.5, acOutputPowerKw := 1.8, gridVoltageV := 230, gridFrequencyHz := 50
    inverterTemperatureC := 34, inverterStatus := "normal", panelCapacityKw := 5, batteryCapacityKwh := 10
    mode := .normal, modeExpiresAt := none }

def siteB : DeviceState :=
  { installationId := "100002", name := "Intell Test Site B", identifier := "MOCK-VIC-002", victronUserId := 9002
    batterySoc := 45, batteryVoltageV := 49.8, batteryCurrentA := -3.5, batteryTemperatureC := 31
    batteryTimeToGoMin := 90, solarPowerKw := 0.8, acOutputPowerKw := 2.2, gridVoltageV := 228, gridFrequencyHz := 50
    inverterTemperatureC := 38, inverterStatus := "normal", panelCapacityKw := 3, batteryCapacityKwh := 7.5
    mode := .normal, modeExpiresAt := none }

def siteC : DeviceState :=
  { installationId := "100003", name := "Intell Test Site C (Low Battery)", identifier := "MOCK-VIC-003"
    victronUserId := 9003
    batterySoc := 18, batteryVoltageV := 45.2, batteryCurrentA := -10, batteryTemperatureC := 35
    batteryTimeToGoMin := 25, solarPowerKw := 0, acOutputPowerKw := 2.5, gridVoltageV := 231, gridFrequencyHz := 50
    inverterTemperatureC := 40, inverterStatus := "normal", panelCapacityKw := 4, batteryCapacityKwh := 5
    mode := .normal, modeExpiresAt := none }

abbrev Devices := List DeviceState

def init : Devices := [siteA, siteB, siteC]

/-! ## A tick -/

/-- The random numbers of one device in one tick, each in `[0, 1)`. -/
structure Draws where
  solar : ℚ
  load : ℚ
  voltage : ℚ
  current : ℚ
  batteryTemperature : ℚ
  inverterTemperature : ℚ
  gridVoltage : ℚ
  gridFrequency : ℚ
  deriving DecidableEq, Repr

def noise (range random : ℚ) : ℚ := (random * 2 - 1) * range

def clamp (value min max : ℚ) : ℚ := Max.max min (Min.min max value)

def socToVoltage (soc : ℚ) : ℚ := 44 + soc / 100 * 14

def timeToGo (soc capacityKwh netDrawKw : ℚ) : ℚ :=
  if netDrawKw ≤ 0 then 9999 else JsNumber.roundRat (soc / 100 * capacityKwh / netDrawKw * 60)

/-- The hour of the day at UTC+1, with the minutes as its fraction. -/
def hourOfDay (now : Int) : ℚ :=
  let lagosHour := (now / 3600000 % 24 + 1) % 24
  let lagosMinute := now / 60000 % 60
  lagosHour + lagosMinute / 60

section
variable (exp : ℚ → ℚ)

def solarMultiplier (hourOfDay : ℚ) : ℚ :=
  if hourOfDay < 6 ∨ hourOfDay ≥ 19 then 0
  else
    let x := (hourOfDay - 13) / 4
    exp (-(x * x))

def tickDurationMinutes : ℚ := 1 / 2

/-- An override that has expired by `now` is given up. -/
def revert (now : Int) (device : DeviceState) : DeviceState :=
  if device.mode ≠ .normal ∧ device.modeExpiresAt.any fun t : ℚ => decide (t ≤ now) then
    { device with mode := .normal, modeExpiresAt := none }
  else device

/-- Solar power and load. -/
def powers (now : Int) (draws : Draws) (device : DeviceState) : ℚ × ℚ :=
  match device.mode with
  | .charging =>
    (clamp (device.panelCapacityKw * 0.95 + noise 0.1 draws.solar) 0 device.panelCapacityKw,
      clamp (0.8 + noise 0.15 draws.load) 0.3 1.2)
  | .discharging => (0, clamp (3.2 + noise 0.3 draws.load) 2.5 4)
  | .normal =>
    (clamp (device.panelCapacityKw * solarMultiplier exp (hourOfDay now) + noise 0.15 draws.solar) 0
        device.panelCapacityKw,
      clamp (1.5 + noise 0.4 draws.load) 0.3 4)

def socAfter (device : DeviceState) (netKw : ℚ) : ℚ :=
  clamp (device.batterySoc + netKw * (tickDurationMinutes / 60) / device.batteryCapacityKwh * 100) 0 100

def inverterStatus (soc solarPowerKw acOutputPowerKw : ℚ) : String :=
  if soc < 5 then "fault" else if solarPowerKw < 0.05 ∧ acOutputPowerKw < 0.2 then "standby" else "normal"

def tickDevice (now : Int) (draws : Draws) (d : DeviceState) : DeviceState :=
  let device := revert now d
  let (solarPowerKw, acOutputPowerKw) := powers exp now draws device
  let netKw := solarPowerKw - acOutputPowerKw
  let batterySoc := socAfter device netKw
  let batteryVoltageV := clamp (socToVoltage batterySoc + noise 0.2 draws.voltage) 44 58
  { device with
    solarPowerKw, acOutputPowerKw, batterySoc, batteryVoltageV
    batteryCurrentA := clamp (netKw * 1000 / batteryVoltageV + noise 0.5 draws.current) (-60) 60
    batteryTemperatureC := clamp (device.batteryTemperatureC + noise 0.3 draws.batteryTemperature) 20 50
    inverterTemperatureC := clamp (device.inverterTemperatureC + noise 0.5 draws.inverterTemperature) 25 65
    gridVoltageV := clamp (230 + noise 3 draws.gridVoltage) 220 240
    gridFrequencyHz := clamp (50 + noise 0.1 draws.gridFrequency) 49.5 50.5
    batteryTimeToGoMin := timeToGo batterySoc device.batteryCapacityKwh (acOutputPowerKw - solarPowerKw)
    inverterStatus := inverterStatus batterySoc solarPowerKw acOutputPowerKw }

def tick (now : Int) (draws : String → Draws) (devices : Devices) : Devices :=
  devices.map fun device => tickDevice exp now (draws device.installationId) device

end

/-! ## Overrides -/

def defaultDurationMinutes : ℚ := 60
def maxDurationMinutes : ℚ := 480

def getDeviceByInstallationId (devices : Devices) (id : String) : Option DeviceState :=
  devices.find? (·.installationId = id)

def overridden (mode : DeviceMode) (durationMinutes : ℚ) (now : Int) (device : DeviceState) : DeviceState :=
  match mode with
  | .normal => { device with mode := .normal, modeExpiresAt := none }
  | _ =>
    let safeDuration := if 0 < durationMinutes then min durationMinutes maxDurationMinutes else defaultDurationMinutes
    { device with mode, modeExpiresAt := some (now + safeDuration * 60000) }

def setDeviceMode (devices : Devices) (id : String) (mode : DeviceMode) (durationMinutes : ℚ) (now : Int) : Devices :=
  devices.modify (devices.findIdx (·.installationId = id)) (overridden mode durationMinutes now)

inductive ControlReply
  | badRequest (error : String)
  | notFound (error : String)
  | ok (device : DeviceState) (expiresAt : Option String) (durationMinutes : Option ℚ)
  deriving DecidableEq, Repr

section
-- `Number(raw)`
variable (number : Json → JsNumber)

/-- The minutes asked for; a body or a member that is missing asks for the default. -/
def parseDuration (body : Option Json) : Option ℚ :=
  match body with
  | some (.object members) =>
    match Json.lookup "durationMinutes" members with
    | none | some .null => some defaultDurationMinutes
    | some raw =>
      match number raw with
      | .num parsed => if parsed ≤ 0 then none else some (min parsed maxDurationMinutes)
      | _ => none
  | _ => some defaultDurationMinutes

def duration (mode : DeviceMode) (body : Option Json) : Option ℚ :=
  if mode = .normal then some defaultDurationMinutes else parseDuration number body

def expiresAt (device : DeviceState) : Option String :=
  (device.modeExpiresAt.filter (· ≠ 0)).map fun t => IsoDate.toISOString (t.num.tdiv t.den)

def handleOverride (mode : DeviceMode) (devices : Devices) (id : String) (body : Option Json) (now : Int) :
    Devices × ControlReply :=
  match duration number mode body with
  | none => (devices, .badRequest "`durationMinutes must be a positive number (max 480)")
  | some minutes =>
    let devices' := setDeviceMode devices id mode minutes now
    match getDeviceByInstallationId devices' id with
    | none =>
      (devices', .notFound ("Installation " ++ id ++ " not found. Valid IDs: 100001, 100002, 100003"))
    | some device => (devices', .ok device (expiresAt device) (if mode = .normal then none else some minutes))

end

/-! ## The answers of the cloud -/

def tokenToUser (token : String) : Option Nat :=
  if token = "mock-token-a" then some 9001
  else if token = "mock-token-b" then some 9002
  else if token = "mock-token-c" then some 9003
  else none

/-- What an object has of its prototype. -/
def inherited : List String :=
  ["constructor", "__defineGetter__", "__defineSetter__", "hasOwnProperty", "__lookupGetter__", "__lookupSetter__",
    "isPrototypeOf", "propertyIsEnumerable", "toString", "valueOf", "toLocaleString"]

/-- `GET /users/me`, of a request with the token, if it has one; the user's id as the adapter writes it. -/
def usersMe (token : String) : Reply (Option String) :=
  if token = "" then .refused 401
  -- the table of tokens is an object: what it inherits is no number, and a function is left out of the answer
  else if token ∈ inherited then .ok none
  else if token = "__proto__" then .ok (some "[object Object]")
  else .ok (some (toString ((tokenToUser token).getD 9001)))

/-- `GET /users/:idUser/installations` -/
def installations (devices : Devices) (idUser : String) : InstallationsResponse :=
  match devices.find? fun d => JsNumber.parseInt idUser = some (d.victronUserId : Int) with
  | none => ⟨true, []⟩
  | some device =>
    ⟨true, [{
      idSite := ((JsNumber.parseInt device.installationId).getD 0).toNat
      name := device.name
      identifier := device.identifier
      pvMax := device.panelCapacityKw * 1000
      timezone := some "Africa/Lagos"
      isOnGrid := true
      hasGenerator := false
      mqttHost := none }]⟩

section
-- `String(x)`, for a figure from `10 ^ 21` on
variable (string : ℚ → List Char)

/-- A figure with so many decimals, and its unit. -/
def formatted (code : String) (decimals : Nat) (value : ℚ) (unit : String) : DiagnosticAttribute :=
  ⟨code, some (String.ofList (JsNumber.toFixedString string decimals value ++ unit.toList))⟩

def records (device : DeviceState) : List DiagnosticAttribute :=
  let formatted := formatted string
  [formatted "bs" 1 device.batterySoc "%", formatted "bv" 2 device.batteryVoltageV "V",
    formatted "Bc" 1 device.batteryCurrentA "A", formatted "Tb" 1 device.batteryTemperatureC "°C",
    formatted "Ttg" 0 device.batteryTimeToGoMin "min", formatted "Pdc" 2 device.solarPowerKw "kW",
    formatted "Pac" 2 device.acOutputPowerKw "kW", formatted "Gv" 1 device.gridVoltageV "V",
    formatted "Gf" 2 device.gridFrequencyHz "Hz", formatted "Ti" 1 device.inverterTemperatureC "°C",
    ⟨"S", some device.inverterStatus⟩]

/-- `GET /installations/:installationId/diagnostics` -/
def diagnostics (devices : Devices) (token installationId : String) : Reply (Option (List DiagnosticAttribute)) :=
  if token = "" then .refused 401
  else
    match getDeviceByInstallationId devices installationId with
    | none => .refused 404
    | some device => .ok (some (records string device))

end

/-! ## Runs -/

inductive Action
  | tick (now : Int) (draws : String → Draws)
  | override (mode : DeviceMode) (id : String) (body : Option Json) (now : Int)

def step (exp : ℚ → ℚ) (number : Json → JsNumber) (devices : Devices) : Action → Option Devices
  | .tick now draws => some (tick exp now draws devices)
  | .override mode id body now => some (handleOverride number mode devices id body now).1

def machine (exp : ℚ → ℚ) (number : Json → JsNumber) : Lts.Machine Devices Action := ⟨init, step exp number⟩

end IntellApi.MockInverterServer
