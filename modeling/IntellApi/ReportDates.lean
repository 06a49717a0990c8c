import IntellApi.InverterAccess
import IntellApi.IsoOrder
import IntellApi.Reports

/-!
# The dates of a request

The order of a custom range is checked on the texts of its dates and used on
their instants. The two agree as long as the zones and the forms of the texts
do not get in the way (`realRange_iff`).
-/

namespace IntellApi.Reports

open InverterAccess IsoDate

inductive GenerateReportMode
  | customRange
  | period
  deriving DecidableEq, Repr

structure ReportsBody where
  mode : Option GenerateReportMode
  inverterId : Uuid
  type : ReportType
  name : String
  recurring : Bool
  period : Option ReportPeriod
  referenceDate : Option Spelling
  startDate : Option Spelling
  endDate : Option Spelling

def validateDtoDates (dto : ReportsBody) : Except ServiceError Unit :=
  match dto.mode with
  | some .customRange =>
    match dto.startDate, dto.endDate with
    | none, _ => throw (.badRequest "startDate must be defined for custom range report mode")
    | some _, none => throw (.badRequest "endDate must be defined for custom range report mode")
    | some startDate, some endDate =>
      if dto.period ≠ some .custom then throw (.badRequest "period must be custom for custom range report mode")
      else if startDate.text ≥ endDate.text then throw (.badRequest "startDate must be less than endDate")
      else return ()
  | some .period =>
    match dto.period, dto.referenceDate with
    | none, _ => throw (.badRequest "period must be defined for period report mode")
    | some .custom, _ => throw (.badRequest "period must be weekly or monthly for period report mode")
    | some _, none => throw (.badRequest "Reference date must be defined for period report mode")
    | some _, some _ => return ()
  | none => throw (.unprocessable "mode must be custom-range or period")

/-- The dates as `new Date` reads them. -/
def ReportsBody.range (tza : Int) (dto : ReportsBody) : Option ReportRange :=
  match dto.mode with
  | some .customRange =>
    dto.startDate.bind fun startDate => dto.endDate.map fun endDate =>
      .custom (startDate.instant tza) (endDate.instant tza)
  | some .period =>
    match dto.period with
    | some .weekly => dto.referenceDate.map fun d => .weekly (d.instant tza)
    | some .monthly => dto.referenceDate.map fun d => .monthly (d.instant tza)
    | some .custom | none => none
  | none => none

def ReportRange.referenceDate : ReportRange → Option Int
  | .weekly d | .monthly d => some d
  | .custom _ _ => none

/-- `generateReport`, up to the row it creates. -/
def createReport (tza : Int) (inverters : Uuid → Option Inverter) (createdAt : Uuid → Int) (dto : ReportsBody)
    (userId seriesId : Uuid) (now : Int) : Except ServiceError Report := do
  let inverter ← findOne inverters dto.inverterId
  if dto.recurring ∧ dto.mode = some .customRange then
    throw (.badRequest "Recurring reports must use a period (weekly/monthly), not a custom date range.")
  else
    validateDtoDates dto
    if inverter.userId ≠ userId then throw (.forbidden SysMsg.forbidden)
    else
      match dto.range tza with
      | none => throw (.error "Invalid Date")
      | some range =>
        if range.referenceDate.any (· < createdAt inverter.id) then
          throw (.conflict "Reference Date cannot be before Inverter Creation")
        else
          return generateReport
            { inverterId := dto.inverterId, type := dto.type, name := dto.name, recurring := dto.recurring, range }
            userId seriesId now

/-- A custom range of two dates. -/
def ReportsBody.custom (dto : ReportsBody) (startDate endDate : Spelling) : ReportsBody :=
  { dto with mode := some .customRange, period := some .custom, startDate := some startDate, endDate := some endDate }

/-- What is stored is a range, and no range is refused for its order. -/
structure RealRange (tza : Int) (startDate endDate : Spelling) : Prop where
  stored : ∀ inverters createdAt (dto : ReportsBody) userId seriesId now report,
    createReport tza inverters createdAt (dto.custom startDate endDate) userId seriesId now = .ok report →
      ∃ start stop, report.startDate = some start ∧ report.endDate = some stop ∧ start < stop
  kept : startDate.instant tza < endDate.instant tza →
    ∀ dto : ReportsBody, validateDtoDates (dto.custom startDate endDate) = .ok ()

section
variable {tza : Int} {dto : ReportsBody} {s t : Spelling}

theorem validate_custom : validateDtoDates (dto.custom s t) = .ok () ↔ s.text < t.text := by
  simp only [validateDtoDates, ReportsBody.custom, ne_eq, not_true, if_false]
  split
  · rename_i hge
    exact ⟨fun h => (nomatch h), fun h => absurd hge (String.not_le.mpr h)⟩
  · rename_i hge
    exact ⟨fun _ => String.not_le.mp hge, fun _ => rfl⟩

/-- What passes the check names a range. -/
theorem range_of_valid (h : validateDtoDates dto = .ok ()) : (dto.range tza).isSome := by
  unfold validateDtoDates at h
  unfold ReportsBody.range
  split at h
  · split at h
    · cases h
    · cases h
    · rename_i hs he
      simp only [hs, he, Option.bind_some, Option.map_some, Option.isSome_some]
  · cases hp : dto.period with
    | none => rw [hp] at h; cases h
    | some period =>
      cases hd : dto.referenceDate with
      | none => cases period <;> (rw [hp, hd] at h; cases h)
      | some referenceDate =>
        cases period with
        | weekly => rfl
        | monthly => rfl
        | custom => rw [hp, hd] at h; cases h
  · cases h

theorem createReport_custom {inverters : Uuid → Option Inverter} {createdAt : Uuid → Int} {userId seriesId : Uuid}
    {now : Int} {report : Report}
    (h : createReport tza inverters createdAt (dto.custom s t) userId seriesId now = .ok report) :
    s.text < t.text ∧ report.startDate = some (s.instant tza) ∧ report.endDate = some (t.instant tza) := by
  unfold createReport at h
  obtain ⟨inverter, -, h⟩ := bind_eq_ok.mp h
  split at h
  · cases h
  · obtain ⟨_, hvalid, h⟩ := bind_eq_ok.mp h
    split at h
    · cases h
    · cases h
      exact ⟨validate_custom.mp hvalid, rfl, rfl⟩

def solarBody : ReportsBody := ⟨none, 1, .solar, "Solar", false, none, none, none, none⟩

theorem createReport_of_lt (h : s.text < t.text) : ∃ report, createReport tza
    (fun _ => some ⟨1, 5, .victron, true, false, 10, 5⟩) (fun _ => 0) (solarBody.custom s t) 5 9 0 = .ok report := by
  have hvalid : validateDtoDates (solarBody.custom s t) = .ok () := validate_custom.mpr h
  unfold createReport
  rw [hvalid]
  exact ⟨_, rfl⟩

/-- The check keeps exactly the real ranges where the texts sort as the instants do. -/
theorem realRange_iff (tza : Int) (s t : Spelling) : RealRange tza s t ↔ Spelling.InOrder tza s t := by
  rw [← Spelling.text_lt_iff]
  constructor
  · intro h
    refine ⟨fun hlt => ?_, fun hlt => validate_custom.mp (h.kept hlt solarBody)⟩
    obtain ⟨report, hr⟩ := createReport_of_lt hlt
    obtain ⟨start, stop, hs, ht, hreal⟩ := h.stored _ _ _ _ _ _ _ hr
    obtain ⟨-, hs', ht'⟩ := createReport_custom hr
    cases hs.symm.trans hs'
    cases ht.symm.trans ht'
    exact hreal
  · intro h
    refine ⟨fun _ _ _ _ _ _ report hr => ?_, fun hlt dto => validate_custom.mpr (h.mpr hlt)⟩
    obtain ⟨htext, hs, ht⟩ := createReport_custom hr
    exact ⟨_, _, hs, ht, h.mp htext⟩

/-- 18 June 2026. -/
def june18 : CalendarDate := ⟨20622, by decide +kernel, by decide +kernel⟩

theorem minute_pos : 0 < 60 := by decide

def noSeconds : Seconds := ⟨⟨0, minute_pos⟩, []⟩

theorem ten_inDay : 10 < 24 ∨ 10 = 24 ∧ ((⟨0, minute_pos⟩ : Fin 60) : Nat) = 0 ∧
    ∀ s ∈ some noSeconds, (s.second : Nat) = 0 ∧ ∀ d ∈ s.fraction, d = 0 := .inl (by decide)

def tenAt (zone : Zone) : Spelling := ⟨june18, some ⟨10, ⟨0, minute_pos⟩, some noSeconds, zone, ten_inDay⟩⟩

/-- From ten o'clock two hours west of Greenwich to ten o'clock there, which is over by then. -/
theorem ended_range_stored : ¬ ∀ tza s t, RealRange tza s t := by
  intro h
  have htext : (tenAt (.offset true 2 true 0)).text < (tenAt .utc).text := by decide +kernel
  obtain ⟨report, hr⟩ := createReport_of_lt htext
  obtain ⟨start, stop, hs, ht, hlt⟩ := (h 0 _ _).stored _ _ _ _ _ _ _ hr
  obtain ⟨-, hs', ht'⟩ := createReport_custom hr
  cases hs.symm.trans hs'
  cases ht.symm.trans ht'
  exact absurd hlt (by decide +kernel)

end

end IntellApi.Reports
