import IntellApi.ReportPeriodsSound
import IntellApi.ReportSeries
import Mathlib.Data.List.ReduceOption

/-!
# The windows of a series

The next occurrence takes the instant of the last delivery for its reference
date. Its window begins where the last one ends as long as each delivery falls
into the period after the one it reports on (`windows_tiled`). A first date
some weeks back, or a worker that comes a period late, leaves a gap
(`past_reference_gap`).
-/

namespace IntellApi.Reports

open Calendar Lts

/-! ## Tiled windows -/

def Window.start : Window → Int
  | .between start _ | .halfOpen start _ => start

def Window.stop : Window → Int
  | .between _ stop | .halfOpen _ stop => stop

/-- The range over which a report aggregates readings, or alerts if it is about these. -/
def aggregationWindow (tza : Int) (inverter : Option Inverter) (report : Report) : Except ServiceError Window :=
  match report.type with
  | .general => do
    let windows ← generalReportWindows tza inverter report
    return windows.solar
  | .solar => solarReportWindow tza inverter report
  | .csc => costAndSavingsReportWindow tza inverter report
  | .alert => alertReportWindow tza report

def Tiled (tza : Int) (s : State) : Prop :=
  ∀ r r' seriesId n, some r ∈ s.reports → some r' ∈ s.reports →
    r.seriesId = some seriesId → r'.seriesId = some seriesId →
    r.occurrence = some n → r'.occurrence = some (n + 1) →
    ∀ inverter w w', aggregationWindow tza inverter r = .ok w → aggregationWindow tza inverter r' = .ok w' →
      w'.start = w.stop

/-- The ends of the window of a period report. -/
def bounds (tza : Int) (type : ReportType) (period : ReportPeriod) (referenceDate : Int) : Int × Int :=
  match type with
  | .alert => (referenceDate, referenceDate + (if period = .weekly then 7 else 30) * msPerDay)
  | _ => getPeriodRange tza period.toPeriod referenceDate

def following (tza : Int) (type : ReportType) (period : ReportPeriod) (window : Int × Int) : Int × Int :=
  (window.2, (bounds tza type period window.2).2)

/-- Delivered in the period after the one reported on. The range of an alert
report starts at the reference date itself, so there it has to be the instant. -/
def OnTime (tza : Int) (report : Report) (dateDelivered : Int) : Prop :=
  match report.referenceDate with
  | some referenceDate =>
    let stop := (bounds tza report.type report.period referenceDate).2
    if report.type = .alert then dateDelivered = stop
    else stop ≤ dateDelivered ∧ dateDelivered < (bounds tza report.type report.period stop).2
  | none => True

instance (tza : Int) (report : Report) (dateDelivered : Int) : Decidable (OnTime tza report dateDelivered) := by
  unfold OnTime
  split
  · dsimp only
    split <;> infer_instance
  · infer_instance

/-- What the rows and the executions say. -/
def State.known (s : State) : List Place := s.places.reduceOption ++ s.copies.map Report.place

/-- A series gets a fresh id, and its next occurrence is created on time. -/
def Timely (tza : Int) (s : State) : Action → Prop
  | .generateReport _ _ seriesId => ∀ p ∈ s.known, p.seriesId ≠ some seriesId
  | .execute e =>
    match s.executions[e]?.map Execution.phase with
    | some (.scheduling report dateDelivered) => OnTime tza report dateDelivered
    | _ => True
  | _ => True

instance (tza : Int) (s : State) : ∀ a, Decidable (Timely tza s a)
  | .generateReport _ _ seriesId => inferInstanceAs (Decidable (∀ p ∈ s.known, p.seriesId ≠ some seriesId))
  | .execute e => by
    unfold Timely
    dsimp only
    split <;> infer_instance
  | .tick _ | .cancelReports .. | .deleteReports .. | .request .. | .deliver _ | .computationFails _
  | .addRenewed .. | .crash _ | .resetStalledReports => instDecidableTrue

/-! ## The calendar -/

section
variable {tza d ref : Int} {type : ReportType} {period : ReportPeriod}

def weekDay (tza d : Int) : Int := day (d + tza) - (day (d + tza) + 3) % 7

theorem periodRange_weekly (tza d : Int) :
    getPeriodRange tza .weekly d = (weekDay tza d * msPerDay - tza, weekDay tza d * msPerDay - tza + 7 * msPerDay) := by
  have h : startOfDay tza (d + (if getDay tza d = 0 then -6 else 1 - getDay tza d) * msPerDay) =
      weekDay tza d * msPerDay - tza := by
    simp only [startOfDay, getDay, weekDay, day, msPerDay]
    omega
  simp only [getPeriodRange, setDate_add, h]

theorem weekly_following (h1 : (getPeriodRange tza .weekly ref).2 ≤ d)
    (h2 : d < (getPeriodRange tza .weekly (getPeriodRange tza .weekly ref).2).2) :
    getPeriodRange tza .weekly d =
      ((getPeriodRange tza .weekly ref).2, (getPeriodRange tza .weekly (getPeriodRange tza .weekly ref).2).2) := by
  simp only [periodRange_weekly, Prod.mk.injEq] at h1 h2 ⊢
  simp only [weekDay, day, msPerDay] at h1 h2 ⊢
  omega

/-- The month a report on `d` is about, as the two-digit years are read. -/
def monthOf (tza d : Int) : Int := 12 * makeFullYear (getFullYear tza d) + getMonth tza d

theorem periodRange_monthly (tza d : Int) :
    getPeriodRange tza .monthly d =
      (firstDay (monthOf tza d) * msPerDay - tza, firstDay (monthOf tza d + 1) * msPerDay - tza) := by
  simp only [getPeriodRange, newDate, makeDay_one, monthOf, Int.add_assoc]

theorem monthOf_eq {k : Int} (h1 : firstDay k * msPerDay - tza ≤ d) (h2 : d < firstDay (k + 1) * msPerDay - tza) :
    monthOf tza d = 12 * makeFullYear (k / 12) + k % 12 := by
  have hk : monthIndex (day (d + tza)) = k := by
    refine monthIndex_eq ?_ ?_ <;> simp only [day, msPerDay] at h1 h2 ⊢ <;> omega
  have hy := yearOfDay_eq (day (d + tza))
  have hm : monthOfDay (day (d + tza)) = k % 12 := by
    unfold monthIndex at hk hy
    omega
  rw [monthOf, getFullYear, getMonth, hm, hy, hk]

theorem monthly_following (ht : -msPerDay ≤ tza) (hd : 0 ≤ d) (h1 : (getPeriodRange tza .monthly ref).2 ≤ d)
    (h2 : d < (getPeriodRange tza .monthly (getPeriodRange tza .monthly ref).2).2) :
    getPeriodRange tza .monthly d =
      ((getPeriodRange tza .monthly ref).2, (getPeriodRange tza .monthly (getPeriodRange tza .monthly ref).2).2) := by
  have hlast := monthOf_eq (k := monthOf tza ref + 1) (d := (getPeriodRange tza .monthly ref).2)
    (by rw [periodRange_monthly]) (by
      rw [periodRange_monthly]
      have := firstDay_lt (monthOf tza ref + 1)
      simp only [msPerDay]
      omega)
  have hm := monthOfDay_range (day (ref + tza))
  have hj : monthOf tza ref = 12 * makeFullYear (getFullYear tza ref) + monthOfDay (day (ref + tza)) := rfl
  by_cases hy : 0 ≤ (monthOf tza ref + 1) / 12 ∧ (monthOf tza ref + 1) / 12 ≤ 99
  · -- the last month before the year 0, and what follows it is read as January 1900
    have h0 : monthOf tza ref + 1 = 0 := by
      unfold makeFullYear at hj
      split at hj <;> omega
    rw [h0] at hlast
    have h1900 : firstDay (12 * makeFullYear (0 / 12) + 0 % 12 + 1) = -25536 := by decide +kernel
    rw [periodRange_monthly, hlast, h1900] at h2
    simp only [msPerDay] at h2 ht
    omega
  · have hsame : monthOf tza (getPeriodRange tza .monthly ref).2 = monthOf tza ref + 1 := by
      rw [hlast, makeFullYear, if_neg hy]
      omega
    have hd' : monthOf tza d = monthOf tza ref + 1 := by
      rw [periodRange_monthly] at h1
      rw [periodRange_monthly tza (getPeriodRange tza .monthly ref).2, hsame] at h2
      rw [monthOf_eq h1 h2, makeFullYear, if_neg hy]
      omega
    rw [periodRange_monthly tza d, periodRange_monthly tza (getPeriodRange tza .monthly ref).2, hsame, hd',
      periodRange_monthly tza ref]

theorem periodRange_following (ht : -msPerDay ≤ tza) (hd : 0 ≤ d) (hp : period ≠ .custom)
    (h1 : (getPeriodRange tza period.toPeriod ref).2 ≤ d)
    (h2 : d < (getPeriodRange tza period.toPeriod (getPeriodRange tza period.toPeriod ref).2).2) :
    getPeriodRange tza period.toPeriod d = ((getPeriodRange tza period.toPeriod ref).2,
      (getPeriodRange tza period.toPeriod (getPeriodRange tza period.toPeriod ref).2).2) := by
  cases period with
  | weekly => exact weekly_following h1 h2
  | monthly => exact monthly_following ht hd h1 h2
  | custom => exact absurd rfl hp

theorem bounds_metric (h : type ≠ .alert) (period : ReportPeriod) (d : Int) :
    bounds tza type period d = getPeriodRange tza period.toPeriod d := by
  cases type with
  | alert => exact absurd rfl h
  | _ => rfl

theorem bounds_following {report : Report} (ht : -msPerDay ≤ tza) (hd : 0 ≤ d) (hp : report.period ≠ .custom)
    (href : report.referenceDate = some ref) (h : OnTime tza report d) :
    bounds tza report.type report.period d =
      following tza report.type report.period (bounds tza report.type report.period ref) := by
  simp only [OnTime, href] at h
  by_cases htype : report.type = .alert
  · rw [if_pos htype, htype] at h
    rw [htype, h]
    rfl
  · rw [if_neg htype] at h
    simp only [following, bounds_metric htype] at h ⊢
    exact periodRange_following ht hd hp h.1 h.2

theorem spanDays_period {report : Report} {days : Int} (h : getReportSpanDays report = some days)
    (hp : report.period ≠ .custom) : days = if report.period = .weekly then 7 else 30 := by
  unfold getReportSpanDays at h
  split at h
  · rename_i hc
    exact absurd hc hp
  · rename_i hw
    rw [if_pos hw]
    exact (Option.some.inj h).symm
  · rename_i hm
    rw [hm, if_neg (by simp)]
    exact (Option.some.inj h).symm

theorem aggregationWindow_bounds {inverter : Option Inverter} {report : Report} {w : Window}
    (h : aggregationWindow tza inverter report = .ok w) (hp : report.period ≠ .custom)
    (href : report.referenceDate = some ref) : (w.start, w.stop) = bounds tza report.type report.period ref := by
  have hmetric : solarReportWindow tza inverter report = .ok w →
      (w.start, w.stop) = getPeriodRange tza report.period.toPeriod ref := by
    intro h
    obtain ⟨ref', href', rfl⟩ := (metricWindow_ok h).2 hp
    cases href.symm.trans href'
    rfl
  unfold aggregationWindow at h
  cases htype : report.type with
  | general =>
    rw [htype] at h
    obtain ⟨windows, hw, h⟩ := bind_eq_ok.mp h
    cases h
    exact hmetric (generalReportWindows_ok hw).2.1
  | solar =>
    rw [htype] at h
    exact hmetric h
  | csc =>
    rw [htype] at h
    exact hmetric (solar_eq_costAndSavings ▸ h)
  | alert =>
    rw [htype] at h
    obtain ⟨days, start, hdays, -, hstart, -, hw⟩ := alertReportWindow_ok h
    rw [hw hp]
    have hs : start = ref := by
      rw [href] at hstart
      exact (Option.some.inj hstart).symm
    rw [hs, spanDays_period hdays hp]
    rfl

/-! ## Lines -/

/-- The windows of a series, the first one given and each one following the last. -/
structure Line where
  type : ReportType
  period : ReportPeriod
  first : Int × Int

def Line.window (tza : Int) (l : Line) (k : Nat) : Int × Int := (following tza l.type l.period)^[k] l.first

def OnLine (tza : Int) (lines : Uuid → Line) (p : Place) : Prop :=
  ∀ seriesId, p.seriesId = some seriesId → p.period ≠ .custom ∧ p.type = (lines seriesId).type ∧
    p.period = (lines seriesId).period ∧ ∃ (k : Nat) (ref : Int), p.occurrence = some ((k : Int) + 1) ∧
      p.referenceDate = some ref ∧ bounds tza p.type p.period ref = (lines seriesId).window tza k

def Phase.dateDelivered : Phase → Option Int
  | .writing _ dateDelivered | .scheduling _ dateDelivered => some dateDelivered
  | _ => none

/-- A date of delivery was a reading of the clock. -/
structure Past (s : State) : Prop where
  clock : 0 ≤ s.clock
  delivered : ∀ x ∈ s.executions, ∀ d, x.phase.dateDelivered = some d → 0 ≤ d

def Lined (tza : Int) (s : State) : Prop := ∃ lines, ∀ p ∈ s.known, OnLine tza lines p

end

section
variable {tza : Int} {s s' : State} {a : Action}

theorem known_of_place {p : Place} (h : some p ∈ s.places) : p ∈ s.known :=
  List.mem_append_left _ (List.reduceOption_mem_iff.mpr h)

theorem known_of_copy {q : Report} (h : q ∈ s.copies) : q.place ∈ s.known :=
  List.mem_append_right _ (List.mem_map_of_mem h)

theorem known_of_step (hw : Wf s) (hs : step tza s a = some s') {p : Place} (hp : p ∈ s'.known) :
    p ∈ s.known ∨ some p ∈ s'.places := by
  rcases List.mem_append.mp hp with hp | hp
  · exact .inr (List.reduceOption_mem_iff.mp hp)
  · obtain ⟨q, hq, rfl⟩ := List.mem_map.mp hp
    rcases copies_of_step hw hs hq with hq | hq
    · exact .inl (known_of_copy hq)
    · exact .inl (known_of_place (List.mem_map_of_mem hq))

theorem Past.move (h : Past s) {t : State} {e : Nat} {x : Execution} {ph : Phase} (hc : t.clock = s.clock)
    (hx : t.executions = s.executions) (he : s.executions[e]? = some x)
    (hp : ∀ d, ph.dateDelivered = some d → d = s.clock ∨ x.phase.dateDelivered = some d) : Past (t.move e x ph) where
  clock := hc ▸ h.clock
  delivered y hy d hd := by
    rcases List.mem_or_eq_of_mem_set hy with hy | rfl
    · exact h.delivered y (hx ▸ hy) d hd
    · rcases hp d hd with rfl | hd
      · exact h.clock
      · exact h.delivered x (List.mem_of_getElem? he) d hd

theorem past_step (hw : Wf s) (h : Past s) (hs : step tza s a = some s') : Past s' := by
  have hev := event_of_step hw hs
  cases hev with
  | tick ms =>
    refine ⟨?_, h.delivered⟩
    have := h.clock
    show 0 ≤ s.clock + ms
    omega
  | create dto userId seriesId delay r _ => exact ⟨h.clock, h.delivered⟩
  | ask a request _ => exact ⟨h.clock, h.delivered⟩
  | add r id delay _ => exact ⟨h.clock, h.delivered⟩
  | addFails r id delay _ => exact ⟨h.clock, h.delivered⟩
  | cancel r ok id row _ _ _ => exact ⟨h.clock, h.delivered⟩
  | refuse r ok id _ => exact ⟨h.clock, h.delivered⟩
  | delete r ok id _ => exact ⟨h.clock, h.delivered⟩
  | deliver j x _ _ hp =>
    refine ⟨h.clock, fun y hy d hd => ?_⟩
    rcases List.mem_append.mp hy with hy | hy
    · exact h.delivered y hy d hd
    · rw [List.mem_singleton.mp hy, hp] at hd
      cases hd
  | reset => exact ⟨h.clock, h.delivered⟩
  | read e x r he _ => exact h.move rfl rfl he (by simp [Phase.dateDelivered])
  | reject e x he _ _ => exact h.move rfl rfl he (by simp [Phase.dateDelivered])
  | claim e x r row he _ _ _ => exact h.move (t := s.update _ _) rfl rfl he (by simp [Phase.dateDelivered])
  | lose e x r he _ _ => exact h.move rfl rfl he (by simp [Phase.dateDelivered])
  | compute e x r d he hp =>
    simp only [step, he, Option.bind_some, hp, executionStep] at hs
    rw [← Option.some.inj hs]
    exact h.move rfl rfl he fun d hd => .inl (Option.some.inj hd).symm
  | write e x r d ph he hp hph =>
    refine h.move (t := s.update _ _) rfl rfl he fun d' hd => ?_
    rcases hph with rfl | ⟨rfl, _⟩
    · cases hd
    · exact .inr (by rw [hp]; exact hd)
  | schedule e x r d he _ => exact h.move rfl rfl he (by simp [Phase.dateDelivered])
  | renew e x r d delay renewed he _ _ => exact h.move (t := s.insert _) rfl rfl he (by simp [Phase.dateDelivered])
  | finish e x he _ => exact h.move (t := { s with jobs := _ }) rfl rfl he (by simp [Phase.dateDelivered])
  | throw e x he _ => exact h.move (t := { s with jobs := _ }) rfl rfl he (by simp [Phase.dateDelivered])
  | failure e x r he _ => exact h.move (t := s.update _ _) rfl rfl he (by simp [Phase.dateDelivered])
  | addRenewed e x id delay ok he _ =>
    cases ok <;> exact h.move (t := _) rfl rfl he (by simp [Phase.dateDelivered])
  | crash e x he => exact h.move rfl rfl he (by simp [Phase.dateDelivered])

def firstLine (tza : Int) (r : Report) : Line :=
  { type := r.type, period := r.period, first := bounds tza r.type r.period (r.referenceDate.getD 0) }

theorem generated_places {dto : ReportsDto} {userId seriesId sid : Uuid} {now : Int}
    (h : (generateReport dto userId seriesId now).seriesId = some sid) :
    sid = seriesId ∧ (generateReport dto userId seriesId now).period ≠ .custom ∧
      ∃ ref, (generateReport dto userId seriesId now).referenceDate = some ref := by
  cases hr : dto.range <;> by_cases hrec : dto.recurring = true <;> simp_all [generateReport]

theorem onLine_generated (lines : Uuid → Line) (dto : ReportsDto) (userId seriesId : Uuid) (now : Int) :
    OnLine tza (Function.update lines seriesId (firstLine tza (generateReport dto userId seriesId now)))
      (generateReport dto userId seriesId now).place := by
  intro sid hsid
  have hocc := generated_first hsid
  obtain ⟨rfl, hper, ref, href⟩ := generated_places hsid
  rw [Function.update_self]
  refine ⟨hper, rfl, rfl, 0, ref, hocc, href, ?_⟩
  simp [Line.window, firstLine, href, Report.place]

theorem OnLine.renewed {lines : Uuid → Line} {r renewed : Report} {d now : Int} (h : OnLine tza lines r.place)
    (ht : -msPerDay ≤ tza) (hd : 0 ≤ d) (ho : OnTime tza r d) (hr : generateNewSeriesReport r d now = some renewed) :
    OnLine tza lines renewed.place := by
  intro sid hsid
  unfold generateNewSeriesReport at hr
  split at hr
  · rename_i sid' n hs hn
    cases hr
    cases hsid
    obtain ⟨hper, htype, hperiod, k, ref, hk, href, hb⟩ := h sid hs
    cases hn.symm.trans hk
    refine ⟨hper, htype, hperiod, k + 1, d, by simp [Report.place], rfl, ?_⟩
    have hnext := bounds_following ht hd hper href ho
    rw [Line.window, Function.iterate_succ_apply', ← Line.window, ← hb, ← htype, ← hperiod]
    exact hnext
  · cases hr

theorem lined_step (ht : -msPerDay ≤ tza) (hw : Wf s) (hpast : Past s) (h : Lined tza s) (ho : Timely tza s a)
    (hs : step tza s a = some s') : Lined tza s' := by
  obtain ⟨lines, h⟩ := h
  cases change_of_step hw hs with
  | keep a s' hp =>
    refine ⟨lines, fun p hm => ?_⟩
    rcases known_of_step hw hs hm with hm | hm
    · exact h p hm
    · exact h p (known_of_place (hp ▸ hm))
  | delete r ok id s' _ hp =>
    refine ⟨lines, fun p hm => ?_⟩
    rcases known_of_step hw hs hm with hm | hm
    · exact h p hm
    · rw [hp] at hm
      rcases List.mem_or_eq_of_mem_set hm with hm | hm
      · exact h p (known_of_place hm)
      · cases hm
  | create dto userId seriesId s' _ hp =>
    have hold : ∀ l, ∀ p ∈ s.known, OnLine tza (Function.update lines seriesId l) p := by
      intro l p hm sid hsid
      have hne : sid ≠ seriesId := fun he => ho p hm (he ▸ hsid)
      rw [Function.update_of_ne hne]
      exact h p hm sid hsid
    refine ⟨Function.update lines seriesId (firstLine tza (generateReport dto userId seriesId s.clock)), fun p hm => ?_⟩
    rcases known_of_step hw hs hm with hm | hm
    · exact hold _ p hm
    · rw [hp] at hm
      rcases List.mem_append.mp hm with hm | hm
      · exact hold _ p (known_of_place hm)
      · cases List.mem_singleton.mp hm
        exact onLine_generated lines dto userId seriesId s.clock
  | renew e x r d renewed s' he hx hr _ hp =>
    refine ⟨lines, fun p hm => ?_⟩
    rcases known_of_step hw hs hm with hm | hm
    · exact h p hm
    · rw [hp] at hm
      rcases List.mem_append.mp hm with hm | hm
      · exact h p (known_of_place hm)
      · cases List.mem_singleton.mp hm
        have hcopy : r ∈ s.copies := mem_copies he (by rw [hx]; rfl)
        have hd : 0 ≤ d := hpast.delivered x (List.mem_of_getElem? he) d (by rw [hx]; rfl)
        simp only [Timely, he, Option.map_some, hx] at ho
        exact (h _ (known_of_copy hcopy)).renewed ht hd ho hr

theorem Lined.tiled (h : Lined tza s) : Tiled tza s := by
  obtain ⟨lines, h⟩ := h
  intro r r' seriesId n hr hr' hs hs' hn hn' inverter w w' hw hw'
  have hrow : ∀ {q : Report}, some q ∈ s.reports → some q.place ∈ s.places := fun hm => List.mem_map_of_mem hm
  obtain ⟨hper, htype, hperiod, k, ref, hk, href, hb⟩ := h _ (known_of_place (hrow hr)) seriesId hs
  obtain ⟨hper', htype', hperiod', k', ref', hk', href', hb'⟩ := h _ (known_of_place (hrow hr')) seriesId hs'
  have hkk : k' = k + 1 := by
    have h1 := Option.some.inj (hn.symm.trans hk)
    have h2 := Option.some.inj (hn'.symm.trans hk')
    omega
  have hbounds := aggregationWindow_bounds hw hper href
  have hbounds' := aggregationWindow_bounds hw' hper' href'
  calc w'.start = ((lines seriesId).window tza k').1 := congrArg Prod.fst (hbounds'.trans hb')
    _ = ((lines seriesId).window tza k).2 := by rw [hkk, Line.window, Function.iterate_succ_apply']; rfl
    _ = w.stop := (congrArg Prod.snd (hbounds.trans hb)).symm

/-- Each next occurrence created on time, the window of an occurrence begins
where that of the occurrence before it ends. -/
theorem windows_tiled (ht : -msPerDay ≤ tza) (h : (machine tza).Reach (Timely tza) s) : Tiled tza s := by
  have hinv : Wf s ∧ Past s ∧ Lined tza s := h.inv (I := fun s => Wf s ∧ Past s ∧ Lined tza s)
    ⟨wf_init, ⟨Int.le_refl 0, fun _ hx => absurd hx List.not_mem_nil⟩,
      ⟨fun _ => ⟨.solar, .weekly, 0⟩, fun _ hp => absurd hp List.not_mem_nil⟩⟩
    fun _ _ _ hi ho hs => ⟨wf_event hi.1 (event_of_step hi.1 hs), past_step hi.1 hi.2.1 hs,
      lined_step ht hi.1 hi.2.1 hi.2.2 ho hs⟩
  exact hinv.2.2.tiled

end

/-! ## Runs -/

/-- A weekly series whose first date is a month back. -/
def monthBack : List Action :=
  [.tick 2592000000, .generateReport weeklyDto 5 9, .request 0 true, .deliver 0, .execute 0, .execute 0, .execute 0,
    .execute 0, .execute 0]

def monthBackReport : Report :=
  { generateReport weeklyDto 5 9 2592000000 with status := .ready, dateDelivered := some 2592000000 }

def monthBackRenewed : Report :=
  { monthBackReport with
    status := .pending, referenceDate := some 2592000000, dateDelivered := none, occurrence := some 2 }

theorem past_reference_gap : ¬ ∀ s, (machine 0).Reach Free s → Tiled 0 s := by
  intro h
  have h0 : ((machine 0).run init monthBack).map (·.reports) = some [some monthBackReport, some monthBackRenewed] := by
    decide +kernel
  obtain ⟨s, hs, hr⟩ := Option.map_eq_some_iff.mp h0
  have hgap := h s (Machine.path_of_run hs) monthBackReport monthBackRenewed 9 1 (by simp [hr]) (by simp [hr])
    (by decide) (by decide) (by decide) (by decide) (some ⟨1, 5, .victron, true, false, 10, 0⟩)
    (.halfOpen (-259200000) 345600000) (.halfOpen 2160000000 2764800000) (by rfl) (by rfl)
  exact absurd hgap (by decide)

/-- The report is delivered in the next week. -/
theorem windows_tiled_renewed :
    ∃ s, ((machine 0).only (Timely 0)).run init renewedOnce = some s ∧ s.occurrences 9 = [some 1, some 2] ∧
      Tiled 0 s := by
  have h0 : (((machine 0).only (Timely 0)).run init renewedOnce).map (·.occurrences 9) = some [some 1, some 2] := by
    decide +kernel
  obtain ⟨s, hs, ho⟩ := Option.map_eq_some_iff.mp h0
  exact ⟨s, hs, ho, windows_tiled (by decide) (Machine.path_of_run_only hs)⟩

end IntellApi.Reports
