import IntellApi.LagosDays

/-!
# The ranges of a period

The ranges of the days, the weeks and the months partition the time line,
except that a month of the years 0 to 99 is taken for one of the last century
(`periodRange_partitions`). The report service has a range function of its own,
which ends where that of the metrics does: a report is computed when its window
is over (`reportDelay_covers`). Dates are unbounded.
-/

namespace IntellApi.Reports

open Calendar Savings

/-! ## Ranges that partition a line -/

section
variable {α : Type*} [LE α] [LT α] {range : α → α × α} {c d t : α}

def Within (range : α × α) (t : α) : Prop := range.1 ≤ t ∧ t < range.2

/-- The range of a point holds it and is that of every point it holds. -/
structure IsPart (range : α → α × α) (d : α) : Prop where
  contains : Within (range d) d
  same : ∀ d', Within (range d) d' → range d' = range d

def Apart (range range' : α × α) : Prop := ∀ t, ¬(Within range t ∧ Within range' t)

/-- Where every range is a part, even if some are not those of their own points. -/
theorem eq_or_apart (h : ∀ d, ∃ c, IsPart range c ∧ range c = range d) (c d : α) :
    range c = range d ∨ Apart (range c) (range d) := by
  by_cases hne : range c = range d
  · exact .inl hne
  · right
    rintro t ⟨hc, hd⟩
    obtain ⟨c', hc', hcr⟩ := h c
    obtain ⟨d', hd', hdr⟩ := h d
    rw [← hcr] at hc
    rw [← hdr] at hd
    exact hne (hcr ▸ hdr ▸ (hc'.same t hc).symm.trans (hd'.same t hd))

end

/-! ## Days, weeks and months -/

structure MonthStart (tza t : Int) : Prop where
  midnight : startOfDay tza t = t
  first : getDate tza t = 1

/-- What the range of a period is to its date and to the other ranges. -/
structure Partitions (tza : Int) (period : Period) (d : Int) : Prop where
  part : IsPart (getPeriodRange tza period) d
  apart : ∀ d', getPeriodRange tza period d' = getPeriodRange tza period d ∨
    Apart (getPeriodRange tza period d') (getPeriodRange tza period d)
  weekly : period = .weekly → let range := getPeriodRange tza period d
    getDay tza range.1 = 1 ∧ startOfDay tza range.1 = range.1 ∧ range.2 = range.1 + 7 * msPerDay
  monthly : period = .monthly → let range := getPeriodRange tza period d
    MonthStart tza range.1 ∧ MonthStart tza range.2 ∧
      12 * getFullYear tza range.2 + getMonth tza range.2 = 12 * getFullYear tza range.1 + getMonth tza range.1 + 1

section
variable {tza d t k : Int} {period : Period}

theorem daily_part (d : Int) : IsPart (getPeriodRange tza .daily) d := by
  constructor
  · simp only [periodRange_daily, Within, day, msPerDay]
    omega
  · intro d' h
    simp only [periodRange_daily, Within] at h ⊢
    have : day (d' + tza) = day (d + tza) := by
      simp only [day, msPerDay] at h ⊢
      omega
    rw [this]

theorem weekDay_range : weekDay tza d * msPerDay - tza ≤ d ∧ d < weekDay tza d * msPerDay - tza + 7 * msPerDay := by
  simp only [weekDay, day, msPerDay]
  omega

theorem weekly_part (d : Int) : IsPart (getPeriodRange tza .weekly) d := by
  constructor
  · rw [periodRange_weekly]
    exact weekDay_range
  · intro d' h
    rw [periodRange_weekly] at h
    have : weekDay tza d' = weekDay tza d := by
      obtain ⟨h1, h2⟩ := h
      simp only [weekDay, day, msPerDay] at h1 h2 ⊢
      omega
    rw [periodRange_weekly, periodRange_weekly, this]

theorem monthOf_eq_iff : monthOf tza d = monthIndex (day (d + tza)) ↔
    ¬(0 ≤ getFullYear tza d ∧ getFullYear tza d ≤ 99) := by
  rw [← makeFullYear_eq]
  unfold monthOf monthIndex getFullYear getMonth
  omega

theorem within_month : Within (firstDay k * msPerDay - tza, firstDay (k + 1) * msPerDay - tza) t ↔
    monthIndex (day (t + tza)) = k := by
  constructor
  · rintro ⟨h1, h2⟩
    refine monthIndex_eq ?_ ?_ <;> simp only [day, msPerDay] at h1 h2 ⊢ <;> omega
  · rintro rfl
    obtain ⟨h1, h2⟩ := monthIndex_range (day (t + tza))
    constructor <;> simp only [day, msPerDay] at h1 h2 ⊢ <;> omega

theorem monthly_contains_iff : Within (getPeriodRange tza .monthly d) d ↔
    ¬(0 ≤ getFullYear tza d ∧ getFullYear tza d ≤ 99) := by
  rw [periodRange_monthly, within_month, ← monthOf_eq_iff]
  exact eq_comm

theorem monthly_part (h : ¬(0 ≤ getFullYear tza d ∧ getFullYear tza d ≤ 99)) :
    IsPart (getPeriodRange tza .monthly) d := by
  refine ⟨monthly_contains_iff.mpr h, fun d' h' => ?_⟩
  have hm := monthOf_eq_iff.mpr h
  rw [periodRange_monthly, within_month, hm] at h'
  -- the two dates are of one year
  have hy : getFullYear tza d' = getFullYear tza d := by
    unfold getFullYear
    rw [yearOfDay_eq, h', ← yearOfDay_eq]
  have hm' : monthOf tza d' = monthIndex (day (d' + tza)) := monthOf_eq_iff.mpr (hy ▸ h)
  rw [periodRange_monthly, periodRange_monthly, hm', h', hm]

theorem makeFullYear_range (y : Int) : ¬(0 ≤ makeFullYear y ∧ makeFullYear y ≤ 99) := by
  unfold makeFullYear
  split <;> omega

theorem monthIndex_firstDay (k : Int) : monthIndex (firstDay k) = k :=
  monthIndex_eq (Int.le_refl _) (firstDay_lt k)

theorem day_midnight (n : Int) : day (n * msPerDay - tza + tza) = n := by
  simp only [day, msPerDay]
  omega

/-- A month is the range of its first instant. -/
theorem monthly_start (d : Int) : ∃ c, IsPart (getPeriodRange tza .monthly) c ∧
    getPeriodRange tza .monthly c = getPeriodRange tza .monthly d := by
  have hd := monthOfDay_range (day (d + tza))
  have hk : monthOf tza d / 12 = makeFullYear (getFullYear tza d) := by
    unfold monthOf getMonth
    omega
  have hy : getFullYear tza (firstDay (monthOf tza d) * msPerDay - tza) = makeFullYear (getFullYear tza d) := by
    rw [getFullYear, day_midnight, yearOfDay_eq, monthIndex_firstDay, hk]
  have hgood : ¬(0 ≤ getFullYear tza (firstDay (monthOf tza d) * msPerDay - tza) ∧
      getFullYear tza (firstDay (monthOf tza d) * msPerDay - tza) ≤ 99) := by
    rw [hy]
    exact makeFullYear_range _
  refine ⟨_, monthly_part hgood, ?_⟩
  rw [periodRange_monthly, periodRange_monthly, monthOf_eq_iff.mpr hgood, day_midnight, monthIndex_firstDay]

theorem monthStart_firstDay (k : Int) : MonthStart tza (firstDay k * msPerDay - tza) := by
  constructor
  · rw [startOfDay, day_midnight]
  · obtain ⟨h0, h1⟩ := monthOfDay_range (firstDay k)
    have hq : monthOfDay (firstDay k) / 12 = 0 := by omega
    have hr : monthOfDay (firstDay k) % 12 = monthOfDay (firstDay k) := by omega
    have hk : firstDay k = makeDay (yearOfDay (firstDay k)) (monthOfDay (firstDay k)) 1 := by
      rw [makeDay_one, ← monthIndex, monthIndex_firstDay]
    simp only [makeDay, hq, hr, Int.add_zero] at hk
    rw [getDate, day_midnight]
    unfold dateOfDay
    omega

/-- Every range is a part, also if its date is not in it. -/
theorem range_part (h : period ≠ .hourly) (d : Int) : ∃ c, IsPart (getPeriodRange tza period) c ∧
    getPeriodRange tza period c = getPeriodRange tza period d := by
  cases period with
  | hourly => exact absurd rfl h
  | daily => exact ⟨d, daily_part d, rfl⟩
  | weekly => exact ⟨d, weekly_part d, rfl⟩
  | monthly => exact monthly_start d

theorem weekly_monday (d : Int) : let range := getPeriodRange tza .weekly d
    getDay tza range.1 = 1 ∧ startOfDay tza range.1 = range.1 ∧ range.2 = range.1 + 7 * msPerDay := by
  rw [periodRange_weekly]
  refine ⟨?_, ?_, rfl⟩
  · rw [getDay, day_midnight, weekDay]
    omega
  · rw [startOfDay, day_midnight]

theorem monthly_first (d : Int) : let range := getPeriodRange tza .monthly d
    MonthStart tza range.1 ∧ MonthStart tza range.2 ∧
      12 * getFullYear tza range.2 + getMonth tza range.2 = 12 * getFullYear tza range.1 + getMonth tza range.1 + 1 := by
  have hmonth : ∀ k, 12 * getFullYear tza (firstDay k * msPerDay - tza) + getMonth tza (firstDay k * msPerDay - tza) =
      k := by
    intro k
    rw [getFullYear, getMonth, day_midnight, ← monthIndex, monthIndex_firstDay]
  rw [periodRange_monthly]
  exact ⟨monthStart_firstDay _, monthStart_firstDay _, by rw [hmonth, hmonth]⟩

/-- The ranges partition time, as long as the year of a month has more than two digits. -/
theorem periodRange_partitions (tza : Int) {period : Period} (h : period ≠ .hourly) (d : Int) :
    Partitions tza period d ↔ ¬(period = .monthly ∧ 0 ≤ getFullYear tza d ∧ getFullYear tza d ≤ 99) := by
  constructor
  · rintro hp ⟨rfl, hy⟩
    exact monthly_contains_iff.mp hp.part.contains hy
  · intro hy
    refine ⟨?_, fun d' => eq_or_apart (range_part h) d' d, ?_, ?_⟩
    · cases period with
      | hourly => exact absurd rfl h
      | daily => exact daily_part d
      | weekly => exact weekly_part d
      | monthly => exact monthly_part fun hd => hy ⟨rfl, hd⟩
    · rintro rfl
      exact weekly_monday d
    · rintro rfl
      exact monthly_first d

/-- Of 15 June 2026. -/
theorem june_partitions : Partitions 0 .monthly 1781481600000 :=
  (periodRange_partitions 0 (by decide) 1781481600000).mpr (by decide +kernel)

/-- 15 June of the year 50 is not in its month, which is June 1950. -/
theorem year_fifty_misplaced : ¬ ∀ (tza : Int) (period : Period) (d : Int), period ≠ .hourly →
    Partitions tza period d := by
  intro h
  have := (h 0 .monthly (-60574953600000) (by decide)).part.contains
  exact absurd this (by unfold Within; decide +kernel)

end

/-! ## When a report is computed -/

section
variable {tza now ref : Int} {report : Report}

theorem serviceRangeEnd_eq {period : ReportPeriod} (h : period ≠ .custom) (d : Int) :
    serviceRangeEnd tza period d = some (getPeriodRange tza period.toPeriod d).2 := by
  cases period with
  | weekly => rfl
  | monthly => rfl
  | custom => exact absurd rfl h

theorem computeReportDelay_period (h : report.period ≠ .custom) (href : report.referenceDate = some ref) :
    computeReportDelay tza report now = .ok (max ((getPeriodRange tza report.period.toPeriod ref).2 - now) 0) := by
  have hs : serviceRangeEnd tza report.period ref = _ := serviceRangeEnd_eq h ref
  cases hp : report.period with
  | custom => exact absurd hp h
  | weekly =>
    rw [hp] at hs
    simp only [computeReportDelay, hp, href, hs]
    rfl
  | monthly =>
    rw [hp] at hs
    simp only [computeReportDelay, hp, href, hs]
    rfl

theorem computeReportDelay_custom {start stop : Int} (h : report.period = .custom) (hs : report.startDate = some start)
    (he : report.endDate = some stop) : computeReportDelay tza report now = .ok (max (stop - now) 0) := by
  simp only [computeReportDelay, h, hs, he]
  rfl

theorem le_add_max (stop now : Int) : stop ≤ now + max (stop - now) 0 := by omega

/-- At the end of its delay the window of a report is over. -/
theorem reportDelay_covers (tza now : Int) (report : Report) :
    (∀ ref, report.period ≠ .custom → report.referenceDate = some ref → ∃ delay,
      computeReportDelay tza report now = .ok delay ∧ 0 ≤ delay ∧
        (getPeriodRange tza report.period.toPeriod ref).2 ≤ now + delay) ∧
    ∀ start stop, report.period = .custom → report.startDate = some start → report.endDate = some stop → ∃ delay,
      computeReportDelay tza report now = .ok delay ∧ 0 ≤ delay ∧ stop ≤ now + delay := by
  constructor
  · intro ref hp href
    exact ⟨_, computeReportDelay_period hp href, Int.le_max_right .., le_add_max ..⟩
  · intro start stop hp hs he
    exact ⟨_, computeReportDelay_custom hp hs he, Int.le_max_right .., le_add_max ..⟩

/-- A week of June 2026, asked for on its Wednesday. -/
theorem weekly_report_delayed : ∃ delay, computeReportDelay 0
    (generateReport ⟨1, .solar, "Solar", false, .weekly 1781697600000⟩ 5 9 0) 1781697600000 = .ok delay ∧ 0 ≤ delay ∧
      (getPeriodRange 0 .weekly 1781697600000).2 ≤ 1781697600000 + delay :=
  (reportDelay_covers 0 1781697600000 (generateReport ⟨1, .solar, "Solar", false, .weekly 1781697600000⟩ 5 9 0)).1
    1781697600000 (by decide) rfl

end

end IntellApi.Reports
