import IntellApi.ReportSeriesWindows
import IntellApi.Savings
import Mathlib.Order.Interval.Set.LinearOrder

/-!
# Lagos days

The windows of the savings are cut at the midnights of the server, the buckets
of their charts at those of Lagos. A window is a range of days either way; it is
the range that the caller names if the server keeps Lagos time.
-/

namespace IntellApi.Savings

open Calendar InverterAccess Metrics Reports

/-- The offset of a time zone is less than a day. -/
structure ServerZone where
  tza : Int
  west : -msPerDay < tza
  east : tza < msPerDay

/-! ## What a caller asks for -/

/-- The dates are what `new Date` makes of the ones in the request. -/
inductive SavingsRequest
  | daily (date : Int)
  | weekly (date : Int)
  | monthly (date : Int)
  | custom (startDate endDate : Int)
  deriving DecidableEq, Repr

def customRange (tza startDate endDate : Int) : Int × Int :=
  (startOfDay tza startDate, startOfDay tza (setDate tza endDate (getDate tza endDate + 1)))

section
variable (order : Paging.Order InverterMember) (tza : Int) (db : Tables)

/-- The endpoint of the savings. -/
def getSavings (inverterId userId : Uuid) :
    SavingsRequest → Except ServiceError (PeriodSavings ⊕ CustomRangeSavings)
  | .daily date => .inl <$> getPeriodSavings order tza db inverterId userId .daily date
  | .weekly date => .inl <$> getPeriodSavings order tza db inverterId userId .weekly date
  | .monthly date => .inl <$> getPeriodSavings order tza db inverterId userId .monthly date
  | .custom startDate endDate =>
    let range := customRange tza startDate endDate
    .inr <$> getCustomRangeSavings order db inverterId userId range.1 range.2

inductive AgentSavings
  | period (savings : AgentPeriodSavings)
  | custom (savings : AgentCustomRangeSavings)
  | error (message : String)
  deriving DecidableEq, Repr

def AgentSavings.ofPeriod : Option AgentPeriodSavings → AgentSavings
  | none => error "Inverter not found."
  | some savings => period savings

/-- The modes that aggregate over a window. -/
def getSavingsForAgent (inverterId : Uuid) : SavingsRequest → Except ServiceError AgentSavings
  | .daily date => .ofPeriod <$> agentPeriodSavings tza db inverterId .daily date
  | .weekly date => .ofPeriod <$> agentPeriodSavings tza db inverterId .weekly date
  | .monthly date => .ofPeriod <$> agentPeriodSavings tza db inverterId .monthly date
  | .custom startDate endDate =>
    let range := customRange tza startDate endDate
    if range.1 ≥ range.2 then return .error "startDate must be before endDate."
    else .custom <$> agentCustomRangeSavings db inverterId range.1 range.2

end

namespace SavingsRequest

/-- The window a request aggregates over, if it is not refused. -/
def window (tza : Int) : SavingsRequest → Option Window
  | daily date => some (periodWindow tza .daily date)
  | weekly date => some (periodWindow tza .weekly date)
  | monthly date => some (periodWindow tza .monthly date)
  | custom startDate endDate =>
    let range := customRange tza startDate endDate
    if range.1 ≥ range.2 then none else some (.halfOpen range.1 range.2)

/-- A reading is aggregated; its timestamp is in microseconds. -/
def includes (tza : Int) (request : SavingsRequest) (t : Int) : Bool := (request.window tza).any (·.contains t)

end SavingsRequest

def lagosDay (t : Int) : Int := day (t + lagosOffset)

/-- The days that a request names: one, an ISO week, a month or a range, by the date in Lagos. -/
def SavingsRequest.Names : SavingsRequest → Int → Prop
  | .daily date, d => d = lagosDay date
  | .weekly date, d => (d + 3) / 7 = (lagosDay date + 3) / 7
  | .monthly date, d => yearOfDay d = yearOfDay (lagosDay date) ∧ monthOfDay d = monthOfDay (lagosDay date)
  | .custom startDate endDate, d => lagosDay startDate ≤ d ∧ d ≤ lagosDay endDate

/-! ## The readings of a result -/

def Tables.included (db : Tables) (tza : Int) (request : SavingsRequest) : Tables :=
  { db with metrics := db.metrics.filter fun m => request.includes tza m.metricTimestamp }

section
variable {order : Paging.Order InverterMember} {tza : Int} {db : Tables} {inverterId userId : Uuid}
  {request : SavingsRequest} {w : Window} {period : Period} {date start stop : Int}

theorem savingsRows_included (h : request.window tza = some w) (brand : InverterBrand) (group : Granularity) :
    (db.included tza request).savingsRows brand inverterId w group = db.savingsRows brand inverterId w group := by
  have hr : readings (db.included tza request).metrics inverterId w.contains =
      readings db.metrics inverterId w.contains := by
    unfold readings Tables.included
    rw [List.filter_filter]
    refine List.filter_congr fun m _ => ?_
    simp only [SavingsRequest.includes, h, Option.any_some, Bool.and_assoc, Bool.and_self]
  unfold Tables.savingsRows
  rw [hr]

theorem getPeriodSavings_included (h : request.window tza = some (periodWindow tza period date)) :
    getPeriodSavings order tza (db.included tza request) inverterId userId period date =
      getPeriodSavings order tza db inverterId userId period date := by
  unfold getPeriodSavings
  simp only [savingsRows_included h]
  rfl

theorem agentPeriodSavings_included (h : request.window tza = some (periodWindow tza period date)) :
    agentPeriodSavings tza (db.included tza request) inverterId period date =
      agentPeriodSavings tza db inverterId period date := by
  unfold agentPeriodSavings
  simp only [savingsRows_included h]
  rfl

theorem getCustomRangeSavings_included (h : start < stop → request.window tza = some (.halfOpen start stop)) :
    getCustomRangeSavings order (db.included tza request) inverterId userId start stop =
      getCustomRangeSavings order db inverterId userId start stop := by
  unfold getCustomRangeSavings
  by_cases hs : start ≥ stop
  · simp only [if_pos hs]
    rfl
  · simp only [savingsRows_included (h (Int.not_le.mp hs))]
    rfl

theorem agentCustomRangeSavings_included (h : request.window tza = some (.halfOpen start stop)) :
    agentCustomRangeSavings (db.included tza request) inverterId start stop =
      agentCustomRangeSavings db inverterId start stop := by
  unfold agentCustomRangeSavings
  simp only [savingsRows_included h]
  rfl

/-- No other reading is seen by the endpoint. -/
theorem getSavings_included : getSavings order tza (db.included tza request) inverterId userId request =
    getSavings order tza db inverterId userId request := by
  cases request with
  | daily date => exact congrArg (Sum.inl <$> ·) (getPeriodSavings_included rfl)
  | weekly date => exact congrArg (Sum.inl <$> ·) (getPeriodSavings_included rfl)
  | monthly date => exact congrArg (Sum.inl <$> ·) (getPeriodSavings_included rfl)
  | custom startDate endDate =>
    exact congrArg (Sum.inr <$> ·) (getCustomRangeSavings_included fun h => if_neg (Int.not_le.mpr h))

theorem getSavingsForAgent_included : getSavingsForAgent tza (db.included tza request) inverterId request =
    getSavingsForAgent tza db inverterId request := by
  cases request with
  | daily date => exact congrArg (AgentSavings.ofPeriod <$> ·) (agentPeriodSavings_included rfl)
  | weekly date => exact congrArg (AgentSavings.ofPeriod <$> ·) (agentPeriodSavings_included rfl)
  | monthly date => exact congrArg (AgentSavings.ofPeriod <$> ·) (agentPeriodSavings_included rfl)
  | custom startDate endDate =>
    unfold getSavingsForAgent
    by_cases h : (customRange tza startDate endDate).1 ≥ (customRange tza startDate endDate).2
    · simp only [if_pos h]
    · simp only [if_neg h]
      exact congrArg (AgentSavings.custom <$> ·) (agentCustomRangeSavings_included (if_neg h))

end

/-! ## Ranges of days -/

namespace SavingsRequest

/-- The first day of the window and the first one after it, by the date at the server. -/
def days (tza : Int) : SavingsRequest → Int × Int
  | daily date => (day (date + tza), day (date + tza) + 1)
  | weekly date => (weekDay tza date, weekDay tza date + 7)
  | monthly date => (firstDay (monthOf tza date), firstDay (monthOf tza date + 1))
  | custom startDate endDate => (day (startDate + tza), day (endDate + tza) + 1)

/-- The same of the days named, where a year is what it is. -/
def namedDays : SavingsRequest → Int × Int
  | monthly date => (firstDay (monthIndex (lagosDay date)), firstDay (monthIndex (lagosDay date) + 1))
  | request => request.days lagosOffset

end SavingsRequest

def instants (tza : Int) (days : Int × Int) : Set Int :=
  {t | days.1 * msPerDay - tza ≤ t ∧ t < days.2 * msPerDay - tza}

section
variable {tza t d a b : Int} {request : SavingsRequest}

theorem contains_halfOpen : (Window.halfOpen a b).contains t = true ↔ a ≤ t / 1000 ∧ t / 1000 < b := by
  simp only [Window.contains, Bool.and_eq_true, decide_eq_true_eq]
  omega

theorem mem_instants {days : Int × Int} : t ∈ instants tza days ↔ days.1 ≤ day (t + tza) ∧ day (t + tza) < days.2 := by
  simp only [instants, Set.mem_ofPred_eq, day, msPerDay]
  omega

theorem startOfDay_next (t : Int) :
    startOfDay tza (setDate tza t (getDate tza t + 1)) = (day (t + tza) + 1) * msPerDay - tza := by
  rw [setDate_add]
  simp only [startOfDay, day, msPerDay]
  omega

theorem periodRange_daily (d : Int) :
    getPeriodRange tza .daily d = (day (d + tza) * msPerDay - tza, (day (d + tza) + 1) * msPerDay - tza) :=
  Prod.ext rfl (startOfDay_next d)

theorem contains_period (period : Period) (date : Int) : (periodWindow tza period date).contains t = true ↔
    (getPeriodRange tza period date).1 ≤ t / 1000 ∧ t / 1000 < (getPeriodRange tza period date).2 :=
  contains_halfOpen

theorem includes_iff : request.includes tza t = true ↔ t / 1000 ∈ instants tza (request.days tza) := by
  cases request with
  | daily date =>
    refine (contains_period .daily date).trans ?_
    rw [periodRange_daily]
    rfl
  | weekly date =>
    refine (contains_period .weekly date).trans ?_
    rw [periodRange_weekly, sub_add_eq_add_sub, ← Int.add_mul]
    rfl
  | monthly date =>
    refine (contains_period .monthly date).trans ?_
    rw [periodRange_monthly]
    rfl
  | custom startDate endDate =>
    simp only [SavingsRequest.includes, SavingsRequest.window, customRange, startOfDay_next]
    split
    · rename_i h
      refine iff_of_false (by simp) fun hm => ?_
      exact absurd (Int.lt_of_le_of_lt hm.1 hm.2) (Int.not_lt.mpr h)
    · exact contains_halfOpen

theorem names_iff : request.Names d ↔ request.namedDays.1 ≤ d ∧ d < request.namedDays.2 := by
  cases request with
  | daily date =>
    simp only [SavingsRequest.Names, SavingsRequest.namedDays, SavingsRequest.days, lagosDay]
    omega
  | weekly date =>
    simp only [SavingsRequest.Names, SavingsRequest.namedDays, SavingsRequest.days, lagosDay, weekDay]
    omega
  | monthly date =>
    have hd := monthOfDay_range d
    have hn := monthOfDay_range (lagosDay date)
    simp only [SavingsRequest.Names, SavingsRequest.namedDays]
    constructor
    · rintro ⟨hy, hm⟩
      have h : monthIndex d = monthIndex (lagosDay date) := by rw [monthIndex, hy, hm, monthIndex]
      exact h ▸ monthIndex_range d
    · rintro ⟨h1, h2⟩
      have h := monthIndex_eq h1 h2
      unfold monthIndex at h
      omega
  | custom startDate endDate =>
    simp only [SavingsRequest.Names, SavingsRequest.namedDays, SavingsRequest.days, lagosDay]
    omega

end

/-! ## Agreement -/

/-- A single day only needs the midnights of Lagos, which a server 23 hours behind has, too. -/
def SavingsRequest.Agrees (tza : Int) : SavingsRequest → Prop
  | .daily _ => msPerDay ∣ tza - lagosOffset
  | .weekly _ => tza = lagosOffset
  | .monthly date => tza = lagosOffset ∧ ¬(0 ≤ yearOfDay (lagosDay date) ∧ yearOfDay (lagosDay date) ≤ 99)
  | .custom startDate endDate => msPerDay ∣ tza - lagosOffset ∨
    lagosDay endDate < lagosDay startDate ∧ day (endDate + tza) < day (startDate + tza)

section
variable {zone : ServerZone} {request : SavingsRequest} {days named : Int × Int}

theorem instants_eq {tza offset : Int} (h : days.1 < days.2 ∨ named.1 < named.2) :
    instants tza days = instants offset named ↔
      tza - offset = (days.1 - named.1) * msPerDay ∧ tza - offset = (days.2 - named.2) * msPerDay := by
  refine (Set.Ico_eq_Ico_iff (by simp only [msPerDay]; omega)).trans ?_
  simp only [msPerDay]
  omega

theorem firstDay_shift {j k : Int} (h : firstDay j + 1 = firstDay k ∨ firstDay j = firstDay k) :
    firstDay j = firstDay k ∧ j = k := by
  have hlen := (month_length 0 j).1
  have hj : monthIndex (firstDay k) = j := by
    refine monthIndex_eq ?_ ?_ <;> unfold firstDay at h ⊢ <;> omega
  have hk : monthIndex (firstDay k) = k := monthIndex_eq (Int.le_refl _) (firstDay_lt k)
  have : j = k := hj.symm.trans hk
  exact ⟨congrArg firstDay this, this⟩

theorem makeFullYear_eq {y : Int} : makeFullYear y = y ↔ ¬(0 ≤ y ∧ y ≤ 99) := by
  unfold makeFullYear
  split <;> omega

theorem monthOf_lagos (date : Int) : monthOf lagosOffset date = monthIndex (lagosDay date) ↔
    ¬(0 ≤ yearOfDay (lagosDay date) ∧ yearOfDay (lagosDay date) ≤ 99) := by
  have h : monthOf lagosOffset date = 12 * makeFullYear (yearOfDay (lagosDay date)) + monthOfDay (lagosDay date) := rfl
  rw [← makeFullYear_eq, h, monthIndex]
  omega

theorem instants_agree :
    instants zone.tza (request.days zone.tza) = instants lagosOffset request.namedDays ↔ request.Agrees zone.tza := by
  have hw := zone.west
  have he := zone.east
  cases request with
  | daily date =>
    rw [instants_eq (.inl (Int.lt_succ _))]
    simp only [SavingsRequest.days, SavingsRequest.namedDays, SavingsRequest.Agrees, day, lagosOffset, msPerDay] at *
    omega
  | weekly date =>
    rw [instants_eq (.inl (by simp [SavingsRequest.days]))]
    simp only [SavingsRequest.days, SavingsRequest.namedDays, SavingsRequest.Agrees, weekDay, day, lagosOffset,
      msPerDay] at *
    omega
  | monthly date =>
    rw [instants_eq (.inl (firstDay_lt _))]
    simp only [SavingsRequest.days, SavingsRequest.namedDays, SavingsRequest.Agrees]
    rw [← monthOf_lagos]
    constructor
    · rintro ⟨h, -⟩
      have hs := firstDay_shift (j := monthOf zone.tza date) (k := monthIndex (lagosDay date))
        (by simp only [lagosOffset, msPerDay] at *; omega)
      have ht : zone.tza = lagosOffset := by
        rw [hs.1] at h
        omega
      exact ⟨ht, ht ▸ hs.2⟩
    · rintro ⟨ht, hm⟩
      rw [ht, hm]
      omega
  | custom startDate endDate =>
    by_cases hn : day (startDate + zone.tza) < day (endDate + zone.tza) + 1 ∨ lagosDay startDate < lagosDay endDate + 1
    · rw [instants_eq hn]
      simp only [SavingsRequest.days, SavingsRequest.namedDays, SavingsRequest.Agrees, lagosDay, day, lagosOffset,
        msPerDay] at *
      omega
    · have hempty : lagosDay endDate < lagosDay startDate ∧ day (endDate + zone.tza) < day (startDate + zone.tza) := by
        omega
      refine iff_of_true ?_ (.inr hempty)
      ext t
      rw [mem_instants, mem_instants]
      simp only [SavingsRequest.days, SavingsRequest.namedDays, lagosDay] at hempty ⊢
      omega

theorem names_day {ms : Int} : request.Names (lagosDay ms) ↔ ms ∈ instants lagosOffset request.namedDays :=
  names_iff.trans mem_instants.symm

theorem includes_named (h : request.Agrees zone.tza) (t : Int) :
    request.includes zone.tza t = true ↔ request.Names (lagosDay (t / 1000)) := by
  rw [includes_iff, names_day, instants_agree.mpr h]

/-- A reading is aggregated exactly if its day in Lagos is a day named. -/
theorem included_iff_named (zone : ServerZone) (request : SavingsRequest) :
    (∀ t, request.includes zone.tza t = true ↔ request.Names (lagosDay (t / 1000))) ↔ request.Agrees zone.tza := by
  refine ⟨fun h => instants_agree.mp ?_, includes_named⟩
  ext ms
  -- the reading at the start of the millisecond
  have hms : ms * 1000 / 1000 = ms := by omega
  simpa only [includes_iff, names_day, hms] using h (ms * 1000)

def utc : ServerZone := ⟨0, by decide, by decide⟩

/-- On 10 June, half past midnight in Lagos, at a server that keeps UTC. -/
theorem midnight_reading_missed : ¬ ∀ (zone : ServerZone) (request : SavingsRequest) (t : Int),
    request.includes zone.tza t = true ↔ request.Names (lagosDay (t / 1000)) := by
  intro h
  have hincl : (SavingsRequest.daily 1781049600000).includes utc.tza 1781047800000000 = true :=
    (h utc (.daily 1781049600000) 1781047800000000).mpr (by unfold SavingsRequest.Names; decide)
  exact absurd hincl (by decide)

end

end IntellApi.Savings
