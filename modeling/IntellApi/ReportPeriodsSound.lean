import IntellApi.ReportPeriods

/-!
# The windows of a general report

Alerts are counted over a closed range that starts at the reference date, the
metric sub-reports aggregate a half-open calendar range. The two are never the
same set (`general_windows_differ`); up to the last instant of the alert range
they agree just when the reference date starts the week, or starts a month of
30 days (`alert_window_agrees_iff`).
-/

namespace IntellApi.Reports

open Calendar

/-! ## Closed and half-open ranges -/

theorem between_ne_halfOpen {a b c d : Int} (h : a ≤ b ∨ c < d) :
    ∃ t, (Window.between a b).contains t ≠ (Window.halfOpen c d).contains t := by
  by_cases hab : a ≤ b
  swap
  · refine ⟨c * 1000, ?_⟩
    have h1 : ¬ (a * 1000 ≤ c * 1000 ∧ c * 1000 ≤ b * 1000) := by omega
    have h2 : c * 1000 < d * 1000 := by omega
    simp only [Window.contains, h2, decide_true, le_refl, Bool.and_self, ne_eq]
    intro e
    simp only [Bool.and_eq_true, decide_eq_true_eq] at e
    exact h1 e
  by_cases hb : c ≤ b ∧ b < d
  · -- the microsecond after `b` is still before `d`
    refine ⟨b * 1000 + 1, ?_⟩
    have h1 : ¬ b * 1000 + 1 ≤ b * 1000 := by omega
    have h2 : c * 1000 ≤ b * 1000 + 1 ∧ b * 1000 + 1 < d * 1000 := by omega
    simp [Window.contains, h1, h2.1, h2.2]
  · refine ⟨b * 1000, ?_⟩
    have h1 : a * 1000 ≤ b * 1000 := by omega
    have h2 : ¬ (c * 1000 ≤ b * 1000 ∧ b * 1000 < d * 1000) := by omega
    simp only [Window.contains, h1, decide_true, le_refl, Bool.and_self]
    intro e
    have := e.symm
    simp only [Bool.and_eq_true, decide_eq_true_eq] at this
    exact h2 this

theorem agree_but_end_iff {a b c d : Int} (hab : a < b) (hcd : c < d) :
    (∀ t, t ≠ b * 1000 → (Window.between a b).contains t = (Window.halfOpen c d).contains t) ↔ a = c ∧ b = d := by
  constructor
  · intro h
    have hm : ∀ t, t ≠ b * 1000 → (a * 1000 ≤ t ∧ t ≤ b * 1000 ↔ c * 1000 ≤ t ∧ t < d * 1000) := fun t ht => by
      have := h t ht
      simp only [Window.contains] at this
      simpa only [Bool.and_eq_true, decide_eq_true_eq] using Bool.eq_iff_iff.mp this
    have ha := hm (a * 1000) (by omega)
    have hc := hm (c * 1000)
    have hb := hm (b * 1000 - 1) (by omega)
    have hd := hm (d * 1000 - 1) (by omega)
    have hb' := hm (b * 1000 + 1) (by omega)
    omega
  · intro hx t ht
    obtain ⟨rfl, rfl⟩ := hx
    have : t ≤ b * 1000 ↔ t < b * 1000 := by omega
    simp [Window.contains, this]

/-! ## The two calendars -/

section
variable {tza : Int} {report : Report} {inverter : Option Inverter}

theorem spanDays_nonneg {d : Int} (h : getReportSpanDays report = some d) : 0 ≤ d := by
  unfold getReportSpanDays at h
  split at h
  · split at h
    · split at h
      · cases h
      · simp only [Option.some.injEq] at h
        simp only [msPerDay] at h
        omega
    · cases h
  · cases h; decide
  · cases h; decide

theorem alertReportWindow_ok {w : Window} (h : alertReportWindow tza report = .ok w) :
    ∃ days start, getReportSpanDays report = some days ∧ days ≠ 0 ∧
      (report.referenceDate <|> report.startDate) = some start ∧
      (report.period = .custom → ∃ stop, report.endDate = some stop ∧ w = .between start stop) ∧
      (report.period ≠ .custom → w = .between start (start + days * msPerDay)) := by
  simp only [alertReportWindow] at h
  split at h
  · cases h
  · rename_i h0
    obtain ⟨days, hd⟩ : ∃ days, getReportSpanDays report = some days := by
      cases hd : getReportSpanDays report with
      | none => simp [hd] at h0
      | some days => exact ⟨days, rfl⟩
    rw [hd, Option.getD_some] at h h0
    split at h
    · cases h
    · rename_i start hs
      refine ⟨days, start, hd, h0, hs, ?_⟩
      split at h
      · rename_i hp
        refine ⟨fun _ => ?_, by simp [hp]⟩
        obtain ⟨stop, he⟩ : ∃ stop, report.endDate = some stop := by
          cases he : report.endDate with
          | none => simp [getReportSpanDays, hp, he] at hd
          | some stop => exact ⟨stop, rfl⟩
        rw [he] at h; cases h
        exact ⟨stop, he, rfl⟩
      · rename_i hp
        refine ⟨fun h => absurd h hp, fun _ => ?_⟩
        rw [setDate_add] at h; cases h; rfl

theorem metricWindow_ok {w : Window} (h : solarReportWindow tza inverter report = .ok w) :
    (report.period = .custom → ∃ start stop, report.startDate = some start ∧ report.endDate = some stop ∧
      w = .halfOpen start stop) ∧
    (report.period ≠ .custom → ∃ refDate, report.referenceDate = some refDate ∧
      w = .halfOpen (getPeriodRange tza report.period.toPeriod refDate).1
        (getPeriodRange tza report.period.toPeriod refDate).2) := by
  unfold solarReportWindow at h
  split at h
  · rename_i hp
    refine ⟨fun _ => ?_, fun hn => absurd hp hn⟩
    simp only [customRangeReportWindow, hp, ne_eq, not_true_eq_false, if_false] at h
    split at h
    · rename_i start stop hs he
      obtain ⟨_, _, h⟩ := bind_eq_ok.mp h
      cases h
      exact ⟨start, stop, hs, he, rfl⟩
    · cases h
  · rename_i hp
    refine ⟨fun hc => absurd hc hp, fun _ => ?_⟩
    simp only [periodReportWindow, hp, if_false] at h
    split at h
    · cases h
    · rename_i refDate hr
      obtain ⟨_, _, h⟩ := bind_eq_ok.mp h
      cases h
      exact ⟨refDate, hr, rfl⟩

theorem solar_eq_costAndSavings :
    costAndSavingsReportWindow tza inverter report = solarReportWindow tza inverter report := rfl

theorem generalReportWindows_ok {w : GeneralWindows} (h : generalReportWindows tza inverter report = .ok w) :
    alertReportWindow tza report = .ok w.alert ∧ solarReportWindow tza inverter report = .ok w.solar ∧
      w.costAndSavings = w.solar := by
  unfold generalReportWindows at h
  obtain ⟨a, ha, h⟩ := bind_eq_ok.mp h
  obtain ⟨c, hc, h⟩ := bind_eq_ok.mp h
  obtain ⟨m, hm, h⟩ := bind_eq_ok.mp h
  cases h
  rw [solar_eq_costAndSavings, hm] at hc
  cases hc
  exact ⟨ha, hm, rfl⟩

/-- Some instant counts for the alerts of a general report and not for its
metrics, or the other way round. -/
theorem general_windows_differ {w : GeneralWindows} (h : generalReportWindows tza inverter report = .ok w) :
    (∃ t, w.alert.contains t ≠ w.solar.contains t) ∧ ∃ t, w.alert.contains t ≠ w.costAndSavings.contains t := by
  obtain ⟨ha, hm, hc⟩ := generalReportWindows_ok h
  rw [hc, and_self]
  obtain ⟨days, start, hd, h0, -, hcustom, hperiod⟩ := alertReportWindow_ok ha
  have hpos := spanDays_nonneg hd
  by_cases hp : report.period = .custom
  · obtain ⟨stop, he, hw⟩ := hcustom hp
    obtain ⟨start', stop', hs', he', hw'⟩ := (metricWindow_ok hm).1 hp
    rw [he, Option.some.injEq] at he'
    subst he'
    rw [hw, hw']
    -- a span of no days is an error
    refine between_ne_halfOpen (.inr ?_)
    simp only [getReportSpanDays, hp, hs', he] at hd
    split at hd
    · cases hd
    · simp only [Option.some.injEq, msPerDay] at hd
      omega
  · obtain ⟨refDate, -, hw'⟩ := (metricWindow_ok hm).2 hp
    rw [hperiod hp, hw']
    refine between_ne_halfOpen (.inl ?_)
    simp only [msPerDay]; omega

theorem periodRange_week (tza d : Int) :
    (getPeriodRange tza .weekly d).2 = (getPeriodRange tza .weekly d).1 + 7 * msPerDay :=
  setDate_add tza _ 7

theorem periodRange_month (tza d : Int) :
    (getPeriodRange tza .monthly d).1 + 28 * msPerDay ≤ (getPeriodRange tza .monthly d).2 := by
  have := (month_length (makeFullYear (getFullYear tza d)) (getMonth tza d)).1
  simp only [getPeriodRange, newDate, msPerDay]
  omega

/-- Apart from the last instant of the alert range the ranges of a period
report agree exactly when the reference date starts the calendar range and
that range is as long as the span. -/
theorem alert_window_agrees_iff {w : GeneralWindows} (h : generalReportWindows tza inverter report = .ok w)
    {refDate days : Int} (hp : report.period ≠ .custom) (hr : report.referenceDate = some refDate)
    (hd : getReportSpanDays report = some days) :
    (∀ t, t ≠ (refDate + days * msPerDay) * 1000 → w.alert.contains t = w.solar.contains t) ↔
      refDate = (getPeriodRange tza report.period.toPeriod refDate).1 ∧
        refDate + days * msPerDay = (getPeriodRange tza report.period.toPeriod refDate).2 := by
  obtain ⟨ha, hm, -⟩ := generalReportWindows_ok h
  obtain ⟨days', start, hd', h0, hs, -, hw⟩ := alertReportWindow_ok ha
  obtain ⟨refDate', hr', hw'⟩ := (metricWindow_ok hm).2 hp
  rw [hd, Option.some.injEq] at hd'
  rw [hr, Option.some.injEq] at hr'
  simp only [hr, Option.orElse_eq_orElse, Option.orElse_eq_or, Option.some_or, Option.some.injEq] at hs
  subst hd' hr' hs
  rw [hw hp, hw']
  have hpos := spanDays_nonneg hd
  refine agree_but_end_iff (by simp only [msPerDay]; omega) ?_
  cases he : report.period with
  | weekly => simp only [ReportPeriod.toPeriod, periodRange_week, msPerDay]; omega
  | monthly =>
    have := periodRange_month tza refDate
    simp only [ReportPeriod.toPeriod]
    simp only [msPerDay] at this
    omega
  | custom => exact absurd he hp

end

/-- A weekly report for Wednesday, 10 June 2026, at an offset of one hour. -/
def wednesdayReport : Report :=
  { userId := 5, inverterId := 1, type := .general, name := "June", period := .weekly
    referenceDate := some 1781049600000, startDate := none, endDate := none, dateDelivered := none
    status := .processing, seriesId := none, occurrence := none, recurring := false, createdAt := 0, updatedAt := 0 }

theorem wednesdayReport_windows :
    generalReportWindows 3600000 (some ⟨1, 5, .victron, true, false, 10, 5⟩) wednesdayReport =
      .ok ⟨.between 1781049600000 1781654400000, .halfOpen 1780873200000 1781478000000,
        .halfOpen 1780873200000 1781478000000⟩ := by
  rfl

theorem general_windows_differ_wednesday :
    ∃ t, (Window.between 1781049600000 1781654400000).contains t ≠
      (Window.halfOpen 1780873200000 1781478000000).contains t :=
  (general_windows_differ wednesdayReport_windows).1

/-- The alerts of the following Tuesday count, its readings do not. -/
theorem general_windows_not_one :
    ¬ ∀ tza inverter report w, generalReportWindows tza inverter report = .ok w →
      ∀ t, w.alert.contains t = w.solar.contains t ∧ w.alert.contains t = w.costAndSavings.contains t := by
  intro h
  have := (h _ _ _ _ wednesdayReport_windows 1781600000000000).1
  exact absurd this (by decide)

end IntellApi.Reports
