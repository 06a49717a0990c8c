import IntellApi.FeedbackService
import IntellApi.Savings

/-!
# Personal settings

An update of the personal settings writes the names first, then looks for the
settings of the account and creates or changes them: `create` fails if another
update has created them meanwhile, and a change sets the columns of its own
fields alone. The machine is about one account, which exists throughout.
-/

namespace IntellApi.PersonalSettings

open FeedbackService (DtoField)

/-! ## The row -/

/-- The columns the update may set. -/
structure Settings where
  profileUrl : Option String
  businessName : Option String
  businessType : Option String
  state : Option String
  city : Option String
  aiLanguage : Option String
  customFuelPriceNaira : Option ℚ
  generatorRatedPowerKw : Option ℚ
  generatorFuelType : GeneratorFuelType
  generatorAverageDailyRuntimeHours : Option Int
  deriving DecidableEq, Repr

def Settings.defaults : Settings := ⟨none, none, none, none, none, none, none, none, .pms, none⟩

/-- What the metrics and the alerts read; the other columns have their defaults. -/
def Settings.toUserSettings (settings : Settings) : UserSettings where
  quietHoursStart := none
  quietHoursEnd := none
  timezone := none
  alertCooldownMinutes := some 15
  depletionThreshold := some 10
  generatorFuelType := settings.generatorFuelType
  generatorRatedPowerKw := settings.generatorRatedPowerKw
  customFuelPriceNaira := settings.customFuelPriceNaira

/-- `decimal(precision, scale)`. -/
def decimal (precision scale : Nat) (q : ℚ) : Except ServiceError ℚ :=
  let rounded := JsNumber.toFixedRat scale q
  if -10 ^ (precision - scale) < rounded ∧ rounded < 10 ^ (precision - scale) then return rounded
  else throw (.error "numeric field overflow")

def int (q : ℚ) : Except ServiceError Int :=
  if q.den = 1 then return q.num else throw (.error "invalid input syntax for type integer")

def generatorFuelTypeEnum : String → Except ServiceError GeneratorFuelType
  | "DIESEL" => return .diesel
  | "PMS" => return .pms
  | _ => throw (.error "invalid input value for enum")

inductive Assignment
  | profileUrl (value : Option String)
  | businessName (value : Option String)
  | businessType (value : Option String)
  | state (value : Option String)
  | city (value : Option String)
  | aiLanguage (value : Option String)
  | customFuelPriceNaira (value : Option ℚ)
  | generatorRatedPowerKw (value : Option ℚ)
  | generatorFuelType (value : String)
  | generatorAverageDailyRuntimeHours (value : Option ℚ)
  deriving DecidableEq, Repr

def Settings.assign (settings : Settings) : Assignment → Except ServiceError Settings
  | .profileUrl profileUrl => return { settings with profileUrl }
  | .businessName businessName => return { settings with businessName }
  | .businessType businessType => return { settings with businessType }
  | .state state => return { settings with state }
  | .city city => return { settings with city }
  | .aiLanguage aiLanguage => return { settings with aiLanguage }
  | .customFuelPriceNaira value => do
    let customFuelPriceNaira ← value.mapM (decimal 10 2)
    return { settings with customFuelPriceNaira }
  | .generatorRatedPowerKw value => do
    let generatorRatedPowerKw ← value.mapM (decimal 5 2)
    return { settings with generatorRatedPowerKw }
  | .generatorFuelType value => do
    let generatorFuelType ← generatorFuelTypeEnum value
    return { settings with generatorFuelType }
  | .generatorAverageDailyRuntimeHours value => do
    let generatorAverageDailyRuntimeHours ← value.mapM int
    return { settings with generatorAverageDailyRuntimeHours }

/-- One statement sets all columns of a payload, or none. -/
def Settings.write (settings : Settings) (payload : List Assignment) : Except ServiceError Settings :=
  payload.foldlM Settings.assign settings

/-! ## The request -/

structure UpdateUserPersonalSettingsDto where
  firstName : DtoField String
  lastName : DtoField String
  profileUrl : DtoField String
  businessName : DtoField String
  businessType : DtoField String
  state : DtoField String
  city : DtoField String
  aiLanguage : DtoField String
  customFuelPriceNaira : DtoField ℚ
  generatorRatedPowerKw : DtoField ℚ
  generatorFuelType : DtoField String
  generatorAverageDailyRuntimeHours : DtoField ℚ
  deriving DecidableEq, Repr

def generatorFuelTypes : List String := ["DIESEL", "PMS"]

/-- A value that is left out or `null` is not checked. -/
def optional {α : Type} (check : α → Bool) : DtoField α → Bool
  | .value a => check a
  | .undefined | .null => true

/-- The checks of the numbers and of the fuel type. -/
def UpdateUserPersonalSettingsDto.valid (dto : UpdateUserPersonalSettingsDto) : Bool :=
  optional (0 ≤ ·) dto.customFuelPriceNaira && optional (0.1 ≤ ·) dto.generatorRatedPowerKw &&
    optional generatorFuelTypes.contains dto.generatorFuelType &&
    optional (fun hours => 0 ≤ hours && hours ≤ 24) dto.generatorAverageDailyRuntimeHours

def isValidGeneratorType (t : Option String) : Bool :=
  t.any fun t => (generatorFuelTypes.map (·.toLower)).contains t.toLower

/-- The columns the update sets. -/
def UpdateUserPersonalSettingsDto.updatePayload (dto : UpdateUserPersonalSettingsDto) : List Assignment :=
  List.reduceOption [
    dto.profileUrl.given.map .profileUrl,
    dto.businessName.given.map .businessName,
    dto.businessType.given.map .businessType,
    dto.state.given.map .state,
    dto.city.given.map .city,
    dto.aiLanguage.given.map .aiLanguage,
    dto.customFuelPriceNaira.given.map .customFuelPriceNaira,
    dto.generatorRatedPowerKw.given.map .generatorRatedPowerKw,
    -- `null` is no fuel type
    (dto.generatorFuelType.given.filter isValidGeneratorType).bind fun t =>
      t.map fun t => .generatorFuelType t.toUpper,
    dto.generatorAverageDailyRuntimeHours.given.map .generatorAverageDailyRuntimeHours]

/-! ## Calls -/

inductive Stage
  | updatingUser
  | findingSettings
  | findingUser (settings : Option Settings)
  | creating
  | updating
  | returned
  | threw (error : ServiceError)
  deriving DecidableEq, Repr

def Stage.ended : Stage → Bool
  | .returned | .threw _ => true
  | _ => false

structure Call where
  dto : UpdateUserPersonalSettingsDto
  stage : Stage
  deriving DecidableEq, Repr

/-- `log` has the calls whose statements have set columns of the settings, in this order. -/
structure State where
  firstName : String
  lastName : String
  settings : Option Settings
  calls : List Call
  log : List (Nat × UpdateUserPersonalSettingsDto)
  deriving DecidableEq, Repr

inductive Action
  | updatePersonalSettings (dto : UpdateUserPersonalSettingsDto)
  | userUpdated (c : Nat) (answer : Answer)
  | settingsFound (c : Nat) (answer : Answer)
  | userFound (c : Nat) (answer : Answer)
  | settingsWritten (c : Nat) (answer : Answer)
  deriving DecidableEq, Repr

def init (firstName lastName : String) : State := ⟨firstName, lastName, none, [], []⟩

/-- A column that is not nullable. -/
def notNull (name : String) : DtoField String → Except ServiceError String
  | .undefined => return name
  | .value name => return name
  | .null => throw (.error "null value violates not-null constraint")

namespace State

def goOn (s : State) (c : Nat) (call : Call) (stage : Stage) : State :=
  { s with calls := s.calls.set c { call with stage } }

/-- The statement on the names. -/
def writeNames (s : State) (c : Nat) (call : Call) (answer : Answer) : State :=
  match notNull s.firstName call.dto.firstName, notNull s.lastName call.dto.lastName with
  | .ok firstName, .ok lastName =>
    let next := answer.orThrow .findingSettings .threw
    if answer.applied then { s with firstName, lastName }.goOn c call next else s.goOn c call next
  | .error error, _ | _, .error error => s.goOn c call (.threw error)

/-- A statement that sets the columns of a payload on `row`. -/
def write (s : State) (c : Nat) (call : Call) (row : Settings) (answer : Answer) : State :=
  match row.write call.dto.updatePayload with
  | .error error => s.goOn c call (.threw error)
  | .ok written =>
    let next := answer.orThrow .returned .threw
    if answer.applied then
      { s with settings := some written, log := s.log ++ [(c, call.dto)] }.goOn c call next
    else s.goOn c call next

end State

def start (dto : UpdateUserPersonalSettingsDto) : Stage :=
  if dto.firstName ≠ .undefined ∨ dto.lastName ≠ .undefined then .updatingUser else .findingSettings

def step (s : State) : Action → Option State
  | .updatePersonalSettings dto => some { s with calls := s.calls ++ [⟨dto, start dto⟩] }
  | .userUpdated c answer => do
    let call ← s.calls[c]?
    match call.stage with
    | .updatingUser => some (s.writeNames c call answer)
    | _ => none
  | .settingsFound c answer => do
    let call ← s.calls[c]?
    match call.stage with
    | .findingSettings => some (s.goOn c call (answer.orThrow (.findingUser s.settings) .threw))
    | _ => none
  | .userFound c answer => do
    let call ← s.calls[c]?
    match call.stage with
    | .findingUser settings =>
      let next := match settings with
        | none => .creating
        | some _ => if call.dto.updatePayload.length = 0 then .returned else .updating
      some (s.goOn c call (answer.orThrow next .threw))
    | _ => none
  | .settingsWritten c answer => do
    let call ← s.calls[c]?
    match call.stage, s.settings with
    | .creating, none => some (s.write c call .defaults answer)
    | .creating, some _ =>
      some (s.goOn c call (.threw (.error "duplicate key value violates unique constraint")))
    | .updating, some settings => some (s.write c call settings answer)
    | _, _ => none

def machine (firstName lastName : String) : Lts.Machine State Action := ⟨init firstName lastName, step⟩

end IntellApi.PersonalSettings
