import IntellApi.JsText
import IntellApi.MetricEvents

/-!
# Adapters of the brands

Each adapter asks the brand's cloud and makes a reading, or the data of a
system, of what it answers. An answer is refused or has a body of the declared
type; a figure that a body leaves out is `none`. The bodies of Victron and the
sandbox have texts with units, that of Solarman texts, that of Growatt numerals.
-/

namespace IntellApi.InverterAdapters

open JsNumber MetricEvents

inductive Reply (β : Type)
  | refused (status : Nat)
  | ok (body : β)
  deriving Repr

inductive AdapterError
  | badRequest (message : String)
  | brandApi (upstreamStatus : Nat) (message : String)
  | rangeError
  deriving DecidableEq, Repr

/-- The status of the answer that a `BrandApiException` becomes. -/
def AdapterError.httpStatus : AdapterError → Nat
  | .badRequest _ => 400
  | .brandApi upstreamStatus _ => if 400 ≤ upstreamStatus ∧ upstreamStatus < 500 then 400 else 500
  | .rangeError => 500

structure VerifiedSystem where
  model : String
  serialNumber : String
  installationId : String
  brandDeviceId : Option String
  ratedCapacityKwh : ℚ
  timezone : Option String
  isOnGrid : Option Bool
  hasGenerator : Bool
  mqttHost : Option String
  deriving DecidableEq, Repr

/-- A reading with the figures that are fetched but not stored. -/
structure FetchedMetric extends NormalisedMetric where
  pvString1PowerKw : Option JsNumber
  pvString2PowerKw : Option JsNumber
  energyGeneratedTodayKwh : Option JsNumber
  totalEnergyGeneratedKwh : Option JsNumber
  batteryChargedTodayKwh : Option JsNumber
  batteryDischargedTodayKwh : Option JsNumber
  gridExportTodayKwh : Option JsNumber
  gridImportTodayKwh : Option JsNumber
  deriving DecidableEq, Repr

/-- `parseFloat((w / 1000).toFixed(3))`. -/
def kilowatts (watts : JsNumber) : JsNumber := (watts / 1000).toFixed 3

/-! ## Victron and the sandbox -/

structure DiagnosticAttribute where
  code : String
  formattedValue : Option String
  deriving DecidableEq, Repr

structure Installation where
  idSite : Nat
  name : String
  identifier : String
  pvMax : ℚ
  timezone : Option String
  isOnGrid : Bool
  hasGenerator : Bool
  mqttHost : Option String
  deriving DecidableEq, Repr

section
variable (records : List DiagnosticAttribute)

def getString (code : String) : Option String := (records.find? (·.code = code)).bind (·.formattedValue)

/-- The figure without its unit. -/
def getFloat (code : String) : Option JsNumber :=
  match given (getString records code) with
  | none => none
  | some text =>
    match parse (text.toList.filter isNumeral) with
    | .nan => none
    | val => some val

/-- What the adapters of Victron and of the sandbox read, each under its own brand. -/
def readDiagnostics (inverterBrand : InverterBrand) (inverterId : Uuid) (now : Int) : FetchedMetric where
  inverterId
  inverterBrand
  recordedAt := IsoDate.toISOString now
  inverterStatus := (getString records "S").getD "unknown"
  solarPowerKw := getFloat records "Pdc"
  acOutputPowerKw := getFloat records "Pac"
  gridVoltageV := getFloat records "Gv"
  gridFrequencyHz := getFloat records "Gf"
  batterySoc := getFloat records "bs"
  batteryVoltageV := getFloat records "bv"
  batteryCurrentA := getFloat records "Bc"
  batteryTemperatureC := getFloat records "Tb"
  batteryTimeToGoMin := getFloat records "Ttg"
  inverterTemperatureC := getFloat records "Ti"
  pvString1PowerKw := none
  pvString2PowerKw := none
  energyGeneratedTodayKwh := none
  totalEnergyGeneratedKwh := none
  batteryChargedTodayKwh := none
  batteryDischargedTodayKwh := none
  gridExportTodayKwh := none
  gridImportTodayKwh := none

end

/-- What differs between the two: the brand and the name in its messages. -/
structure DiagnosticsApi where
  inverterBrand : InverterBrand
  name : String
  account : String

def victronApi : DiagnosticsApi := ⟨.victron, "Victron VRM", "Victron VRM"⟩

def sandboxApi : DiagnosticsApi := ⟨.sandbox, "Sandbox", "Sandbox"⟩

def fetchDiagnostics (api : DiagnosticsApi) (installationId : String) (inverterId : Uuid) (now : Int)
    (res : Reply (Option (List DiagnosticAttribute))) : Except AdapterError FetchedMetric :=
  match res with
  | .refused status =>
    throw (.brandApi status (api.name ++ " diagnostics request failed for installation " ++ installationId))
  | .ok records => return readDiagnostics (records.getD []) api.inverterBrand inverterId now

structure InstallationsResponse where
  success : Bool
  records : List Installation
  deriving DecidableEq, Repr

def verifiedInstallation (site : Installation) : VerifiedSystem where
  model := site.name
  serialNumber := site.identifier
  installationId := toString site.idSite
  brandDeviceId := none
  ratedCapacityKwh := if site.pvMax = 0 then 0 else toFixedRat 2 (site.pvMax / 1000)
  timezone := site.timezone
  isOnGrid := some site.isOnGrid
  hasGenerator := site.hasGenerator
  mqttHost := site.mqttHost

/-- First the user's id is asked for, then his installations, whose status is not looked at. -/
def verifyInstallation (api : DiagnosticsApi) (me : Reply (Option String))
    (installations : String → InstallationsResponse) : Except AdapterError VerifiedSystem :=
  match me with
  | .refused _ =>
    throw (.badRequest ("Could not connect to your " ++ api.account ++ " account. Check your access token."))
  | .ok idUser =>
    match installations (idUser.getD "undefined") with
    | ⟨true, site :: _⟩ => return verifiedInstallation site
    | _ => throw (.badRequest ("No installations found on your " ++ api.account ++ " account."))

namespace VictronAdapter

def fetchMetrics := fetchDiagnostics victronApi

def verifyAndGetVictronSystem := verifyInstallation victronApi

end VictronAdapter

namespace SandboxAdapter

def fetchMetrics := fetchDiagnostics sandboxApi

def sandboxConnectionFailed : String := "Could not connect to your Sandbox Inverter. Check your access token"

def validateSandboxToken (toLowerCase : String → String) (token : String) (allowedTokens : List String) :
    Except AdapterError Unit :=
  if allowedTokens.any fun allowed => toLowerCase allowed = toLowerCase token then return ()
  else throw (.badRequest sandboxConnectionFailed)

def verifyAndGetSandboxSystem (toLowerCase : String → String) (allowedTokens : List String) (accessToken : String)
    (me : Reply (Option String)) (installations : String → InstallationsResponse) :
    Except AdapterError VerifiedSystem := do
  validateSandboxToken toLowerCase accessToken allowedTokens
  verifyInstallation sandboxApi me installations

end SandboxAdapter

/-! ## Growatt -/

namespace GrowattAdapter

structure StorageData where
  time : Option String
  status : ℚ
  ppv : Option ℚ
  ppv2 : Option ℚ
  outPutPower : Option ℚ
  vGrid : Option ℚ
  freqGrid : Option ℚ
  vBat : Option ℚ
  capacity : Option ℚ
  chgCurr : Option ℚ
  dischgCurr : Option ℚ
  invTemperature : Option ℚ
  epvToday : Option ℚ
  epvTotal : Option ℚ
  eacChargeToday : Option ℚ
  eBatDisChargeToday : Option ℚ
  eacDisChargeToday : Option ℚ
  eToGridToday : Option ℚ
  eToUserToday : Option ℚ
  deriving DecidableEq, Repr

structure MinData where
  time : Option String
  status : ℚ
  ppv : Option ℚ
  ppv1 : Option ℚ
  ppv2 : Option ℚ
  pac : Option ℚ
  eacToday : Option ℚ
  eacTotal : Option ℚ
  vac1 : Option ℚ
  fac : Option ℚ
  temp1 : Option ℚ
  etoUserToday : Option ℚ
  etoGridToday : Option ℚ
  bdc1Vbat : Option ℚ
  bdc1Soc : Option ℚ
  bmsSOC : Option ℚ
  bmsVbat : Option ℚ
  echargeToday : Option ℚ
  edischargeToday : Option ℚ
  deriving DecidableEq, Repr

/-- The `data` of an answer; each list may be missing, which is as good as empty. -/
structure LastData where
  storage : List StorageData
  min : List MinData
  deriving DecidableEq, Repr

structure QueryLastDataResponse where
  code : Int
  message : String
  data : LastData
  deriving DecidableEq, Repr

def normaliseStatus (status : ℚ) : String :=
  if status = 0 ∨ status = 3 then "standby"
  else if status = 2 then "fault"
  else if status ∈ ([1, 5, 6, 7, 8, 9, 10, 11, 12] : List ℚ) then "normal"
  else "unknown"

/-- A `0` counts as no grid. -/
def grid (x : Option ℚ) : Option JsNumber := (x.filter (· ≠ 0)).map ofRat

def kw (watts : Option ℚ) : Option JsNumber := watts.map fun w => kilowatts (ofRat w)

section
-- `dateOf` is `new Date(text)` on the server: Growatt's texts are no ISO dates
variable (dateOf : String → Option Int) (now : Int)

def recordedAt (time : Option String) : Except AdapterError String :=
  match given time with
  | none => return IsoDate.toISOString now
  | some text =>
    match dateOf text with
    | some t => return IsoDate.toISOString t
    | none => throw .rangeError

def normaliseStorageMetrics (d : StorageData) : Except AdapterError FetchedMetric := do
  let recordedAt ← recordedAt dateOf now d.time
  return {
    -- the poller fills it in
    inverterId := 0
    inverterBrand := .growatt
    recordedAt
    inverterStatus := normaliseStatus d.status
    solarPowerKw := kw d.ppv
    acOutputPowerKw := kw d.outPutPower
    gridVoltageV := grid d.vGrid
    gridFrequencyHz := grid d.freqGrid
    batterySoc := d.capacity.map ofRat
    batteryVoltageV := d.vBat.map ofRat
    batteryCurrentA := (d.chgCurr.or d.dischgCurr).map ofRat
    batteryTemperatureC := none
    batteryTimeToGoMin := none
    inverterTemperatureC := d.invTemperature.map ofRat
    pvString1PowerKw := kw d.ppv
    pvString2PowerKw := kw d.ppv2
    energyGeneratedTodayKwh := d.epvToday.map ofRat
    totalEnergyGeneratedKwh := d.epvTotal.map ofRat
    batteryChargedTodayKwh := d.eacChargeToday.map ofRat
    batteryDischargedTodayKwh := (d.eBatDisChargeToday.or d.eacDisChargeToday).map ofRat
    gridExportTodayKwh := d.eToGridToday.map ofRat
    gridImportTodayKwh := d.eToUserToday.map ofRat }

def normaliseMinMetrics (d : MinData) : Except AdapterError FetchedMetric := do
  let recordedAt ← recordedAt dateOf now d.time
  return {
    inverterId := 0
    inverterBrand := .growatt
    recordedAt
    inverterStatus := normaliseStatus d.status
    solarPowerKw := kw d.ppv
    acOutputPowerKw := kw d.pac
    gridVoltageV := d.vac1.map ofRat
    gridFrequencyHz := d.fac.map ofRat
    batterySoc := (d.bmsSOC.or d.bdc1Soc).map ofRat
    batteryVoltageV := (d.bmsVbat.or d.bdc1Vbat).map ofRat
    batteryCurrentA := none
    batteryTemperatureC := none
    batteryTimeToGoMin := none
    inverterTemperatureC := d.temp1.map ofRat
    pvString1PowerKw := kw d.ppv1
    pvString2PowerKw := kw d.ppv2
    energyGeneratedTodayKwh := d.eacToday.map ofRat
    totalEnergyGeneratedKwh := d.eacTotal.map ofRat
    batteryChargedTodayKwh := d.echargeToday.map ofRat
    batteryDischargedTodayKwh := d.edischargeToday.map ofRat
    gridExportTodayKwh := d.etoGridToday.map ofRat
    gridImportTodayKwh := d.etoUserToday.map ofRat }

def queryLastData (deviceSn : String) (res : Reply QueryLastDataResponse) : Except AdapterError LastData :=
  match res with
  | .refused status =>
    throw (.brandApi status ("Growatt API error for device " ++ deviceSn ++ ": " ++ toString status))
  | .ok json =>
    if json.code ≠ 0 then
      throw (.brandApi 502 ("Growatt API returned error code " ++ toString json.code ++ " for device " ++ deviceSn
        ++ ": " ++ json.message))
    else return json.data

/-- `min` is only asked for when the storage answer has no data. -/
def fetchMetrics (deviceSn : String) (storage min : Reply QueryLastDataResponse) : Except AdapterError FetchedMetric := do
  let storageData ← queryLastData deviceSn storage
  match storageData.storage with
  | d :: _ => normaliseStorageMetrics dateOf now d
  | [] =>
    let minData ← queryLastData deviceSn min
    match minData.min with
    | d :: _ => normaliseMinMetrics dateOf now d
    | [] => throw (.brandApi 502 ("Growatt returned no data for device " ++ deviceSn))

end

structure Device where
  deviceSn : String
  model : String
  manufacturer : String
  type : Int
  deriving DecidableEq, Repr

structure ListResponse (α : Type) where
  errorCode : Int
  items : List α
  deriving Repr

def orElse (text : String) (other : String) : String := if text = "" then other else text

/-- The plant's id is a text already; an empty one or `0` is none. -/
def verifyAndGetGrowattSystem (plants : Reply (ListResponse (Option String)))
    (devices : String → Reply (ListResponse Device)) : Except AdapterError VerifiedSystem :=
  let noStation : AdapterError := .badRequest "No power stations found on your Growatt account."
  match plants with
  | .refused _ => throw (.badRequest "Could not connect to your Growatt account. Check your API token.")
  | .ok ⟨0, some plantId :: _⟩ =>
    match devices plantId with
    | .refused _ => throw (.badRequest "Could not retrieve inverter device from your Growatt plant.")
    | .ok ⟨0, d :: ds⟩ =>
      match (d :: ds).find? fun d => d.type = 1 ∨ d.type = 2 with
      | some device =>
        if device.deviceSn = "" then
          throw (.badRequest
            "No supported inverter device (grid-tie or storage) found under your Growatt plant.")
        else return {
          model := orElse device.model (orElse device.manufacturer "Growatt")
          serialNumber := device.deviceSn
          installationId := plantId
          brandDeviceId := some device.deviceSn
          ratedCapacityKwh := 0
          timezone := none
          isOnGrid := none
          hasGenerator := false
          mqttHost := none }
      | none =>
        throw (.badRequest
          "No supported inverter device (grid-tie or storage) found under your Growatt plant.")
    | .ok _ => throw (.badRequest "No inverter device found under your Growatt plant.")
  | .ok _ => throw noStation

end GrowattAdapter

/-! ## Solarman, for Sunsynk and Deye -/

namespace SunsynkAdapter

structure DataPoint where
  key : String
  value : Option String
  deriving DecidableEq, Repr

structure CurrentData where
  deviceState : ℚ
  collectionTime : Option ℚ
  dataList : List DataPoint
  deriving DecidableEq, Repr

structure CurrentDataResponse where
  success : Bool
  msg : String
  data : Option CurrentData
  deriving DecidableEq, Repr

structure TokenResponse where
  success : Bool
  accessToken : String
  deriving DecidableEq, Repr

def getAccessToken (res : Reply TokenResponse) : Except AdapterError String :=
  match res with
  | .refused _ =>
    throw (.badRequest "Could not connect to your Solarman account. Check your email and password.")
  | .ok data =>
    if !data.success ∨ data.accessToken = "" then
      throw (.badRequest "Solarman authentication failed. Check your email and password.")
    else return data.accessToken

/-- A `Map` keeps the last value of a key. -/
def lookup (dataList : List DataPoint) (key : String) : Option String :=
  (dataList.reverse.find? (·.key = key)).bind (·.value)

def get (dataList : List DataPoint) (key : String) : Option JsNumber :=
  match given (lookup dataList key) with
  | none => none
  | some raw =>
    match parseFloat raw with
    | .nan => none
    | n => some n

def normaliseDeviceState (state : ℚ) : String :=
  if state = 1 then "normal" else if state = 2 then "offline" else if state = 3 then "fault" else "unknown"

/-- `new Date(t).toISOString()`; the milliseconds are cut off to whole ones. -/
def isoOf (t : ℚ) : Except AdapterError String :=
  let ms := t.num.tdiv t.den
  if -IsoDate.maxTime ≤ ms ∧ ms ≤ IsoDate.maxTime then return IsoDate.toISOString ms else throw .rangeError

def recordedAt (now : Int) (collectionTime : Option ℚ) : Except AdapterError String :=
  match collectionTime.filter (· ≠ 0) with
  | some t => isoOf (t * 1000)
  | none => return IsoDate.toISOString now

def fetchMetrics (now : Int) (deviceSn : String) (token : Reply TokenResponse)
    (currentData : String → Reply CurrentDataResponse) : Except AdapterError FetchedMetric := do
  let accessToken ← getAccessToken token
  match currentData accessToken with
  | .refused status =>
    throw (.brandApi status ("Solarman API error for device " ++ deviceSn ++ ": " ++ toString status))
  | .ok res =>
    match res.success, res.data with
    | true, some ⟨deviceState, collectionTime, point :: points⟩ =>
      let get := get (point :: points)
      let recordedAt ← recordedAt now collectionTime
      return {
        inverterId := 0
        inverterBrand := .sunsynk
        recordedAt
        inverterStatus := normaliseDeviceState deviceState
        solarPowerKw := (get "TotalPower").map kilowatts
        acOutputPowerKw := (get "Pac").map kilowatts
        gridVoltageV := get "GridVoltage"
        gridFrequencyHz := get "GridFrequency"
        batterySoc := get "SoC"
        batteryVoltageV := none
        batteryCurrentA := none
        batteryTemperatureC := none
        batteryTimeToGoMin := none
        inverterTemperatureC := none
        pvString1PowerKw := none
        pvString2PowerKw := none
        energyGeneratedTodayKwh := get "DailyPVGeneration"
        totalEnergyGeneratedKwh := get "TotalPVGeneration"
        batteryChargedTodayKwh := none
        batteryDischargedTodayKwh := none
        gridExportTodayKwh := none
        gridImportTodayKwh := none }
    | _, _ => throw (.brandApi 502 ("Solarman returned no data for device " ++ deviceSn ++ ": " ++ res.msg))

structure Station where
  id : Nat
  name : String
  installedCapacity : Option ℚ
  deriving DecidableEq, Repr

structure DeviceItem where
  deviceSn : String
  deviceType : String
  deriving DecidableEq, Repr

structure ListResponse (α : Type) where
  success : Bool
  items : List α
  deriving Repr

/-- The first inverter of the first station, or its first device. -/
def verifyAndGetSunsynkSystem (token : Reply TokenResponse) (stations : String → Reply (ListResponse Station))
    (devices : String → Nat → Reply (ListResponse DeviceItem)) : Except AdapterError VerifiedSystem := do
  let accessToken ← getAccessToken token
  match stations accessToken with
  | .refused _ => throw (.badRequest "Could not retrieve your Solarman power station.")
  | .ok ⟨true, station :: _⟩ =>
    match devices accessToken station.id with
    | .refused _ => throw (.badRequest "Could not retrieve inverter device from your Solarman station.")
    | .ok ⟨true, d :: ds⟩ =>
      let device := ((d :: ds).find? (·.deviceType = "INVERTER")).getD d
      return {
        model := station.name
        serialNumber := device.deviceSn
        installationId := toString station.id
        brandDeviceId := some device.deviceSn
        ratedCapacityKwh := station.installedCapacity.getD 0
        timezone := none
        isOnGrid := none
        hasGenerator := false
        mqttHost := none }
    | .ok _ => throw (.badRequest "No inverter device found under your Solarman station.")
  | .ok _ => throw (.badRequest "No power stations found on your Solarman account.")

end SunsynkAdapter

end IntellApi.InverterAdapters
