import IntellApi.Alerts
import IntellApi.IsoOrder

/-!
# The alert filters of the chatbot

The tool takes its filters from a schema of its own. Its severities are not
those of the column, and a date stands for the instant it begins at in the
session's zone: the tool answers as described as long as no severity is named
and no alert lies between the two readings of a bound (`filters_iff`).
-/

namespace IntellApi.AlertReader

open Alerts Calendar IsoDate

def usPerDay : Int := 1000 * msPerDay

inductive Platform
  | victron
  | growatt
  | sunsynk
  deriving DecidableEq, Repr

inductive Status
  | active
  | resolved
  | all
  deriving DecidableEq, Repr

inductive Severity
  | low
  | medium
  | high
  | critical
  deriving DecidableEq, Repr

def Platform.text : Platform → String
  | .victron => "victron"
  | .growatt => "growatt"
  | .sunsynk => "sunsynk"

def Severity.text : Severity → String
  | .low => "low"
  | .medium => "medium"
  | .high => "high"
  | .critical => "critical"

/-- The arguments the schema lets through: a date is a day of the years 0000 to 9999. -/
structure Filters where
  endDate : Option CalendarDate
  platform : Option Platform
  status : Option Status
  severity : Option Severity
  startDate : Option CalendarDate
  type : Option String

structure FindAlertsDto where
  count : Option Nat
  endDate : Option CalendarDate
  platform : Option String
  status : Option Status
  severity : Option String
  startDate : Option CalendarDate
  type : Option String

def Filters.dto (filters : Filters) : FindAlertsDto :=
  { count := none, endDate := filters.endDate, platform := filters.platform.map (·.text)
    status := some (filters.status.getD .all), severity := filters.severity.map (·.text), startDate := filters.startDate
    type := filters.type }

/-! ## The table -/

structure AlertRow extends Alert where
  id : Uuid
  platform : String
  message : String
  isActive : Bool
  deletedAt : Option Int
  deriving DecidableEq, Repr

def typeText : AlertType → String
  | .batteryPercentage => "BATTERY_PERCENTAGE"
  | .batteryTemperature => "BATTERY_TEMPERATURE"
  | .energy => "ENERGY"
  | .other => "OTHER"
  | .power => "POWER"
  | .solarGen => "SOLAR_GEN"
  | .inverterFault => "INVERTER_FAULT"
  | .inverterTemperature => "INVERTER_TEMPERATURE"

def severityText : AlertSeverity → String
  | .low => "LOW"
  | .medium => "MEDIUM"
  | .high => "HIGH"
  | .warning => "WARNING"
  | .critical => "CRITICAL"
  | .none => "NONE"

/-- The zone of the database session, as the offset at the start of each day. -/
structure SessionZone where
  offset : Int → Int
  offset_lt : ∀ day, -usPerDay < offset day ∧ offset day < usPerDay

namespace SessionZone

variable (zone : SessionZone)

def midnight (day : Int) : Int := day * usPerDay - zone.offset day

def timestamptz (d : CalendarDate) : Except ServiceError Int :=
  -- the years are counted from 1
  if yearOfDay d.day = 0 then throw (.error "date/time field value out of range") else return zone.midnight d.day

end SessionZone

def varchar (text : String) : Except ServiceError String :=
  if Char.ofNat 0 ∈ text.toList then throw (.error "invalid byte sequence for encoding \"UTF8\": 0x00")
  else return text

def alertsSeverityEnum (text : String) : Except ServiceError AlertSeverity :=
  match text with
  | "LOW" => return .low
  | "MEDIUM" => return .medium
  | "HIGH" => return .high
  | "WARNING" => return .warning
  | "CRITICAL" => return .critical
  | "NONE" => return .none
  | _ => throw (.error ("invalid input value for enum alerts_severity_enum: \"" ++ text ++ "\""))

/-! ## The query -/

def createdAtWhere : Option Int → Option Int → Int → Bool
  | some startDate, some endDate, t => startDate ≤ t ∧ t ≤ endDate
  | none, some endDate, t => t ≤ endDate
  | some startDate, none, t => startDate ≤ t
  | none, none, _ => true

def statusWhere : Option Status → AlertRow → Bool
  -- null is not different from anything
  | some .active, a => a.isActive ∧ a.resolutionStatus.any (· ≠ .resolved)
  | some .resolved, a => a.resolutionStatus = some .resolved
  | some .all, _ | none, _ => true

structure WhereOptions where
  userId : Uuid
  startDate : Option Int
  endDate : Option Int
  platform : Option String
  status : Option Status
  severity : Option AlertSeverity
  type : Option String

def WhereOptions.selects (whereOptions : WhereOptions) (a : AlertRow) : Bool :=
  a.deletedAt = none ∧ a.userId = whereOptions.userId ∧
    createdAtWhere whereOptions.startDate whereOptions.endDate a.createdAt ∧
    (∀ p ∈ whereOptions.platform, a.platform = p) ∧ statusWhere whereOptions.status a ∧
    (∀ s ∈ whereOptions.severity, a.severity = s) ∧ ∀ t ∈ whereOptions.type, typeText a.type = t

def whereOptions (zone : SessionZone) (options : FindAlertsDto) (userId : Uuid) :
    Except ServiceError WhereOptions := do
  let startDate ← options.startDate.mapM zone.timestamptz
  let endDate ← options.endDate.mapM zone.timestamptz
  let platform ← (given options.platform).mapM varchar
  let severity ← (given options.severity).mapM alertsSeverityEnum
  let type ← (given options.type).mapM varchar
  return { userId, startDate, endDate, platform, status := options.status, severity, type }

def findAlertsWhere (zone : SessionZone) (alerts : List AlertRow) (options : FindAlertsDto) (userId : Uuid) :
    Except ServiceError (List AlertRow) := do
  let whereOptions ← whereOptions zone options userId
  let rows := alerts.filter whereOptions.selects
  match options.count with
  | some count => return if count ≠ 0 then rows.take count else rows
  | none => return rows

inductive Reply
  | noAlertsFound
  | records (alerts : List AlertRow)
  deriving DecidableEq, Repr

def reply (alerts : List AlertRow) : Reply := if alerts.length = 0 then .noAlertsFound else .records alerts

def readAlert (zone : SessionZone) (alerts : List AlertRow) (filters : Filters) (userId : Uuid) :
    Except ServiceError Reply :=
  (findAlertsWhere zone alerts filters.dto userId).map reply

/-! ## What the tool says -/

def Severity.Names (s : Severity) (severity : AlertSeverity) : Prop := (severityText severity).toLower = s.text

def Status.Describes : Status → AlertRow → Prop
  | .active, a => a.isActive ∧ a.resolutionStatus = some .unresolved
  | .resolved, a => a.resolutionStatus = some .resolved
  | .all, _ => True

/-- The filters other than those by date and severity. -/
structure Selected (filters : Filters) (userId : Uuid) (a : AlertRow) : Prop where
  kept : a.deletedAt = none
  owned : a.userId = userId
  platform : ∀ p ∈ filters.platform, a.platform = p.text
  status : ∀ s ∈ filters.status, s.Describes a
  type : ∀ t ∈ given filters.type, typeText a.type = t

/-- On or after the start day and on or before the end day. -/
structure InDays (filters : Filters) (t : Int) : Prop where
  onOrAfter : ∀ d ∈ filters.startDate, d.day * usPerDay ≤ t
  onOrBefore : ∀ d ∈ filters.endDate, t < (d.day + 1) * usPerDay

structure Documented (filters : Filters) (userId : Uuid) (a : AlertRow) : Prop where
  selected : Selected filters userId a
  days : InDays filters a.createdAt
  severity : ∀ s ∈ filters.severity, s.Names a.severity

instance : DecidableRel Severity.Names := fun _ _ => inferInstanceAs (Decidable (_ = _))

instance : (s : Status) → DecidablePred s.Describes
  | .active, _ => inferInstanceAs (Decidable (_ ∧ _))
  | .resolved, _ => inferInstanceAs (Decidable (_ = _))
  | .all, _ => instDecidableTrue

instance (filters : Filters) (userId : Uuid) : DecidablePred (Selected filters userId) := fun a =>
  decidable_of_iff (a.deletedAt = none ∧ a.userId = userId ∧ (∀ p ∈ filters.platform, a.platform = p.text) ∧
      (∀ s ∈ filters.status, s.Describes a) ∧ ∀ t ∈ given filters.type, typeText a.type = t)
    ⟨fun h => ⟨h.1, h.2.1, h.2.2.1, h.2.2.2.1, h.2.2.2.2⟩, fun h => ⟨h.kept, h.owned, h.platform, h.status, h.type⟩⟩

instance (filters : Filters) : DecidablePred (InDays filters) := fun t =>
  decidable_of_iff ((∀ d ∈ filters.startDate, d.day * usPerDay ≤ t) ∧
      ∀ d ∈ filters.endDate, t < (d.day + 1) * usPerDay)
    ⟨fun h => ⟨h.1, h.2⟩, fun h => ⟨h.onOrAfter, h.onOrBefore⟩⟩

instance (filters : Filters) (userId : Uuid) : DecidablePred (Documented filters userId) := fun a =>
  decidable_of_iff (Selected filters userId a ∧ InDays filters a.createdAt ∧
      ∀ s ∈ filters.severity, s.Names a.severity)
    ⟨fun h => ⟨h.1, h.2.1, h.2.2⟩, fun h => ⟨h.selected, h.days, h.severity⟩⟩

structure InBounds (zone : SessionZone) (filters : Filters) (t : Int) : Prop where
  low : ∀ d ∈ filters.startDate, zone.midnight d.day ≤ t
  high : ∀ d ∈ filters.endDate, t ≤ zone.midnight d.day

instance (zone : SessionZone) (filters : Filters) : DecidablePred (InBounds zone filters) := fun t =>
  decidable_of_iff ((∀ d ∈ filters.startDate, zone.midnight d.day ≤ t) ∧
      ∀ d ∈ filters.endDate, t ≤ zone.midnight d.day)
    ⟨fun h => ⟨h.1, h.2⟩, fun h => ⟨h.low, h.high⟩⟩

def MeansWhatItSays (zone : SessionZone) (alerts : List AlertRow) (filters : Filters) (userId : Uuid) : Prop :=
  readAlert zone alerts filters userId = .ok (reply (alerts.filter fun a => Documented filters userId a))

/-! ## When it does -/

/-- What the database takes without an error. -/
structure Accepted (filters : Filters) : Prop where
  severity : filters.severity = none
  startDate : ∀ d ∈ filters.startDate, yearOfDay d.day ≠ 0
  endDate : ∀ d ∈ filters.endDate, yearOfDay d.day ≠ 0
  type : ∀ t ∈ given filters.type, Char.ofNat 0 ∉ t.toList

/-- On one side of a bound by its day and on the other by the instant the day begins at in the session's zone. -/
inductive Misplaced (zone : SessionZone) (filters : Filters) (t : Int) : Prop
  | afterEnd (d : CalendarDate) (hd : d ∈ filters.endDate) (late : zone.midnight d.day < t) (days : InDays filters t)
  | beforeStart (d : CalendarDate) (hd : d ∈ filters.startDate) (early : t < zone.midnight d.day)
      (days : InDays filters t)
  | dayBefore (d : CalendarDate) (hd : d ∈ filters.startDate) (early : t < d.day * usPerDay)
      (bounds : InBounds zone filters t)

section
variable {zone : SessionZone} {alerts : List AlertRow} {filters : Filters} {userId : Uuid}

theorem alertsSeverityEnum_text (s : Severity) : ∃ e, alertsSeverityEnum s.text = .error e := by
  cases s <;> exact ⟨_, rfl⟩

theorem given_platform : given (filters.platform.map (·.text)) = filters.platform.map (·.text) := by
  cases filters.platform with
  | none => rfl
  | some p => cases p <;> rfl

theorem given_severity : given (filters.severity.map (·.text)) = filters.severity.map (·.text) := by
  cases filters.severity with
  | none => rfl
  | some s => cases s <;> rfl

theorem ite_throw_eq_ok {α : Type} {c : Prop} [Decidable c] {e : ServiceError} {a b : α} :
    (if c then throw e else return a : Except ServiceError α) = .ok b ↔ ¬ c ∧ b = a := by
  split
  · rename_i h
    exact ⟨fun he => (nomatch he), fun hb => absurd h hb.1⟩
  · rename_i h
    exact ⟨fun he => ⟨h, (Except.ok.inj he).symm⟩, fun hb => congrArg Except.ok hb.2.symm⟩

/-- A parameter is taken if it is absent or can be read. -/
theorem mapM_eq_ok {α β : Type} {f : α → Except ServiceError β} {g : α → β} {ok : α → Prop}
    (hf : ∀ a b, f a = .ok b ↔ ok a ∧ b = g a) {x : Option α} {y : Option β} :
    x.mapM f = .ok y ↔ (∀ a ∈ x, ok a) ∧ y = x.map g := by
  cases x with
  | none => simp [pure, Except.pure, eq_comm]
  | some a =>
    cases h : f a with
    | error e =>
      have : ¬ ok a := fun ha => by
        have := (hf a (g a)).mpr ⟨ha, rfl⟩
        rw [h] at this
        cases this
      simp [h, this]
    | ok b =>
      obtain ⟨ha, rfl⟩ := (hf a b).mp h
      simp [h, ha, eq_comm]

theorem date_eq_ok {dates : Option CalendarDate} {y : Option Int} : dates.mapM zone.timestamptz = .ok y ↔
    (∀ d ∈ dates, yearOfDay d.day ≠ 0) ∧ y = dates.map fun d => zone.midnight d.day :=
  mapM_eq_ok fun _ _ => ite_throw_eq_ok

theorem text_eq_ok {text y : Option String} : text.mapM varchar = .ok y ↔
    (∀ t ∈ text, Char.ofNat 0 ∉ t.toList) ∧ y = text := by
  have h : text.mapM varchar = .ok y ↔ (∀ t ∈ text, Char.ofNat 0 ∉ t.toList) ∧ y = text.map fun t => t :=
    mapM_eq_ok fun _ _ => ite_throw_eq_ok
  rwa [Option.map_id'] at h

theorem severity_eq_ok {y : Option AlertSeverity} :
    (given filters.dto.severity).mapM alertsSeverityEnum = .ok y ↔ filters.severity = none ∧ y = none := by
  have ht : given filters.dto.severity = filters.severity.map (·.text) := given_severity
  rw [ht]
  cases filters.severity with
  | none => simp [pure, Except.pure, eq_comm]
  | some s =>
    obtain ⟨e, he⟩ := alertsSeverityEnum_text s
    simp [he]

theorem createdAtWhere_iff {t : Int} : createdAtWhere (filters.startDate.map fun d => zone.midnight d.day)
    (filters.endDate.map fun d => zone.midnight d.day) t ↔ InBounds zone filters t := by
  have h : InBounds zone filters t ↔ (∀ d ∈ filters.startDate, zone.midnight d.day ≤ t) ∧
      ∀ d ∈ filters.endDate, t ≤ zone.midnight d.day := ⟨fun h => ⟨h.low, h.high⟩, fun h => ⟨h.1, h.2⟩⟩
  rw [h]
  cases filters.startDate <;> cases filters.endDate <;> simp [createdAtWhere]

theorem statusWhere_iff {status : Option Status} {a : AlertRow} :
    statusWhere (some (status.getD .all)) a ↔ ∀ s ∈ status, s.Describes a := by
  rcases status with _ | _ | _ | _
  · simp [statusWhere]
  · simp only [Option.getD_some, statusWhere, Option.mem_some_iff, forall_eq', Status.Describes, decide_eq_true_eq]
    rcases a.resolutionStatus with _ | _ | _ <;> simp
  · simp [statusWhere, Status.Describes]
  · simp [statusWhere, Status.Describes]

def query (zone : SessionZone) (filters : Filters) (userId : Uuid) : WhereOptions :=
  { userId, startDate := filters.startDate.map fun d => zone.midnight d.day
    endDate := filters.endDate.map fun d => zone.midnight d.day, platform := filters.platform.map (·.text)
    status := some (filters.status.getD .all), severity := none, type := given filters.type }

theorem query_selects {a : AlertRow} : (query zone filters userId).selects a ↔
    Selected filters userId a ∧ InBounds zone filters a.createdAt := by
  have hp : (∀ p ∈ filters.platform.map (·.text), a.platform = p) ↔ ∀ p ∈ filters.platform, a.platform = p.text := by
    cases filters.platform <;> simp
  unfold WhereOptions.selects query
  rw [decide_eq_true_eq, createdAtWhere_iff, statusWhere_iff, hp]
  constructor
  · rintro ⟨kept, owned, bounds, platform, status, -, type⟩
    exact ⟨⟨kept, owned, platform, status, type⟩, bounds⟩
  · rintro ⟨⟨kept, owned, platform, status, type⟩, bounds⟩
    exact ⟨kept, owned, bounds, platform, status, fun s hs => (nomatch hs), type⟩

theorem whereOptions_eq_ok {w : WhereOptions} : whereOptions zone filters.dto userId = .ok w ↔
    Accepted filters ∧ w = query zone filters userId := by
  have hp : given filters.dto.platform = filters.platform.map (·.text) := given_platform
  have hps : ∀ t ∈ filters.platform.map (·.text), Char.ofNat 0 ∉ t.toList := by
    cases filters.platform with
    | none => simp
    | some p => cases p <;> decide
  unfold whereOptions
  simp only [bind_eq_ok, hp, date_eq_ok, text_eq_ok, severity_eq_ok]
  constructor
  · rintro ⟨_, ⟨hs, rfl⟩, _, ⟨he, rfl⟩, _, ⟨-, rfl⟩, _, ⟨hn, rfl⟩, _, ⟨ht, rfl⟩, h⟩
    exact ⟨⟨hn, hs, he, ht⟩, (Except.ok.inj h).symm⟩
  · rintro ⟨⟨hn, hs, he, ht⟩, rfl⟩
    exact ⟨_, ⟨hs, rfl⟩, _, ⟨he, rfl⟩, _, ⟨hps, rfl⟩, _, ⟨hn, rfl⟩, _, ⟨ht, rfl⟩, rfl⟩

theorem findAlertsWhere_eq_ok {rows : List AlertRow} : findAlertsWhere zone alerts filters.dto userId = .ok rows ↔
    Accepted filters ∧ rows = alerts.filter (query zone filters userId).selects := by
  unfold findAlertsWhere
  simp only [bind_eq_ok, whereOptions_eq_ok]
  constructor
  · rintro ⟨_, ⟨ha, rfl⟩, h⟩
    exact ⟨ha, (Except.ok.inj h).symm⟩
  · rintro ⟨ha, rfl⟩
    exact ⟨_, ⟨ha, rfl⟩, rfl⟩

theorem reply_inj {x y : List AlertRow} : reply x = reply y ↔ x = y := by
  cases x <;> cases y <;> simp [reply]

theorem filter_eq_iff {α : Type} {p q : α → Bool} {l : List α} :
    l.filter p = l.filter q ↔ ∀ a ∈ l, (p a ↔ q a) := by
  constructor
  · intro h a ha
    have hm : a ∈ l.filter p ↔ a ∈ l.filter q := by rw [h]
    simpa [ha] using hm
  · exact fun h => List.filter_congr fun a ha => Bool.eq_iff_iff.mpr (h a ha)

theorem SessionZone.midnight_range (zone : SessionZone) (d : Int) :
    d * usPerDay - usPerDay < zone.midnight d ∧ zone.midnight d < d * usPerDay + usPerDay := by
  have := zone.offset_lt d
  unfold SessionZone.midnight
  omega

theorem bounds_iff_days {t : Int} :
    (InBounds zone filters t ↔ InDays filters t) ↔ ¬ Misplaced zone filters t := by
  constructor
  · rintro h (⟨d, hd, late, days⟩ | ⟨d, hd, early, days⟩ | ⟨d, hd, early, bounds⟩)
    · exact Int.not_le.mpr late ((h.mpr days).high d hd)
    · exact Int.not_le.mpr early ((h.mpr days).low d hd)
    · exact Int.not_le.mpr early ((h.mp bounds).onOrAfter d hd)
  · intro h
    constructor
    · refine fun bounds => ⟨fun d hd => ?_, fun d hd => ?_⟩
      · exact Int.not_lt.mp fun early => h (.dayBefore d hd early bounds)
      · have := bounds.high d hd
        have := (zone.midnight_range d.day).2
        rw [Int.add_mul, Int.one_mul]
        omega
    · refine fun days => ⟨fun d hd => ?_, fun d hd => ?_⟩
      · exact Int.not_lt.mp fun early => h (.beforeStart d hd early days)
      · exact Int.not_lt.mp fun late => h (.afterEnd d hd late days)

theorem readAlert_eq_ok {rows : List AlertRow} : readAlert zone alerts filters userId = .ok (reply rows) ↔
    Accepted filters ∧ alerts.filter (query zone filters userId).selects = rows := by
  unfold readAlert
  constructor
  · intro h
    cases hf : findAlertsWhere zone alerts filters.dto userId with
    | error e => rw [hf] at h; cases h
    | ok found =>
      rw [hf] at h
      obtain ⟨ha, rfl⟩ := findAlertsWhere_eq_ok.mp hf
      exact ⟨ha, reply_inj.mp (Except.ok.inj h)⟩
  · rintro ⟨ha, rfl⟩
    rw [findAlertsWhere_eq_ok.mpr ⟨ha, rfl⟩]
    rfl

end

theorem filters_iff (zone : SessionZone) (alerts : List AlertRow) (filters : Filters) (userId : Uuid) :
    MeansWhatItSays zone alerts filters userId ↔ Accepted filters ∧
      ∀ a ∈ alerts, Selected filters userId a → ¬ Misplaced zone filters a.createdAt := by
  unfold MeansWhatItSays
  rw [readAlert_eq_ok, filter_eq_iff]
  refine and_congr_right fun accepted => forall₂_congr fun a _ => ?_
  have hd : Documented filters userId a ↔ Selected filters userId a ∧ InDays filters a.createdAt :=
    ⟨fun h => ⟨h.selected, h.days⟩, fun h => ⟨h.1, h.2, by rw [accepted.severity]; exact fun _ hs => (nomatch hs)⟩⟩
  rw [query_selects, decide_eq_true_eq, hd, and_congr_right_iff, bounds_iff_days]

def utc : SessionZone := ⟨fun _ => 0, fun _ => by decide⟩

/-- Midday of 14 May 2026. -/
def middayFault : AlertRow :=
  { id := 1, userId := 7, type := .inverterFault, platform := "victron", severity := .critical
    message := "Inverter fault", resolutionStatus := some .unresolved, triggeredAt := 1778760000000
    createdAt := 1778760000000000, isActive := true, deliverable := true, deletedAt := none }

def allAlerts : Filters :=
  { endDate := none, platform := none, status := none, severity := none, startDate := none, type := none }

def criticalAlerts : Filters := { allAlerts with severity := some .critical }

def untilTheDay : Filters := { allAlerts with endDate := some ⟨20587, by decide +kernel, by decide +kernel⟩ }

/-- The severity is no value of the column, and the day ends before it has begun. -/
theorem filters_hide_a_fault : ¬ MeansWhatItSays utc [middayFault] criticalAlerts 7 ∧
    ¬ MeansWhatItSays utc [middayFault] untilTheDay 7 := by
  unfold MeansWhatItSays
  decide +kernel

end IntellApi.AlertReader
