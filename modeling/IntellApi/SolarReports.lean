import IntellApi.MetricsTotals
import IntellApi.Reports
import IntellApi.SavingsSound

/-!
# Solar reports

The average load of a solar report is its energy by the hours with a reading,
the average charge the mean of the means of its chart buckets. Both are means of
the readings if these fill the hours and spread evenly over the buckets, or as
if they did (`averages_iff`).
-/

namespace IntellApi.SolarReports

open Calendar InverterAccess JsNumber Metrics Reports Savings

structure SolarKeyMetrics where
  solarKwh : ℚ
  avgLoadKw : ℚ
  avgBatterySoc : ℚ
  totalActiveHours : Nat
  solarCoveragePercent : Option ℚ
  deriving DecidableEq, Repr

structure SolarReport where
  name : String
  type : ReportType
  period : ReportPeriod
  dateDelivered : Int
  status : ReportStatus
  keyMetrics : SolarKeyMetrics
  deriving DecidableEq, Repr

def keyMetrics (rows : List ReportRow) : SolarKeyMetrics :=
  let savings := rows.map (·.toSavingsRow)
  { solarKwh := totalSolarKwh savings
    avgLoadKw := if totalActiveHours savings > 0 then totalEnergyKwh savings / totalActiveHours savings else 0
    avgBatterySoc := if rows.length > 0 then (rows.map (·.avgBatterySoc)).sum / rows.length else 0
    totalActiveHours := totalActiveHours savings
    solarCoveragePercent := solarCoveragePercent savings }

/-- What the two functions have in common. -/
def solarReport (db : Tables) (now : Int) (report : Report) (window : Window) (group : Granularity) :
    Except ServiceError SolarReport := do
  let inverter ← findOne db.inverters report.inverterId
  let rows := reportRows (getPollingInterval inverter.brand) group.bucket
    (readings db.metrics report.inverterId window.contains)
  return {
    name := report.name, type := .solar, period := report.period, dateDelivered := now, status := .ready
    keyMetrics := keyMetrics rows }

section
variable (tza : Int) (db : Tables) (now : Int)

def getPeriodSolarReport (report : Report) : Except ServiceError SolarReport := do
  let window ← periodReportWindow tza (db.inverters report.inverterId) report
  solarReport db now report window (chartGroup report.period.toPeriod)

def getCustomRangeSolarReport (report : Report) : Except ServiceError SolarReport := do
  let window ← customRangeReportWindow (db.inverters report.inverterId) report
  solarReport db now report window (customGroup (spanDays (report.startDate.getD 0) (report.endDate.getD 0)))

def computeSolarReport (report : Report) : Except ServiceError SolarReport :=
  if report.period = .custom then getCustomRangeSolarReport db now report else getPeriodSolarReport tza db now report

end

/-! ## Averages -/

/-- The averages are those of the readings. -/
structure Averages (metrics : SolarKeyMetrics) (rows : List InvertersMetrics) : Prop where
  load : metrics.avgLoadKw = Sql.mean (·.loadKw) rows
  soc : metrics.avgBatterySoc = Sql.mean (·.batterySocPercent) rows
  loadBetween : ∀ low high, (∀ m ∈ rows, low ≤ m.loadKw ∧ m.loadKw ≤ high) →
    low ≤ metrics.avgLoadKw ∧ metrics.avgLoadKw ≤ high
  socBetween : ∀ low high, (∀ m ∈ rows, low ≤ m.batterySocPercent ∧ m.batterySocPercent ≤ high) →
    low ≤ metrics.avgBatterySoc ∧ metrics.avgBatterySoc ≤ high

/-- The readings last as long as the hours in which there is one. -/
def FillHours (brand : InverterBrand) (rows : List InvertersMetrics) : Prop :=
  rows.length * (pollMinutes brand / 60) = activeHours rows

/-- How many readings a bucket has says nothing about the charge in it. -/
def Even (bucket : Int → Int) (rows : List InvertersMetrics) : Prop :=
  let groups := Sql.groupBy (fun m => bucket m.metricTimestamp) rows
  (groups.map fun g => ((rows.length : ℚ) - groups.length * g.2.length) * Sql.mean (·.batterySocPercent) g.2).sum = 0

def chartOf (report : Report) : Granularity :=
  if report.period = .custom then customGroup (spanDays (report.startDate.getD 0) (report.endDate.getD 0))
  else chartGroup report.period.toPeriod

section
variable {brand : InverterBrand} {g : Granularity} {rows : List InvertersMetrics}

theorem savings_reportRows (pollInterval : Int) (bucket : Int → Int) (rows : List InvertersMetrics) :
    (reportRows pollInterval bucket rows).map (·.toSavingsRow) = savingsRows pollInterval bucket rows := by
  rw [reportRows, savingsRows, List.map_map]
  rfl

theorem activeHours_pos (h : rows ≠ []) : 0 < activeHours rows := by
  obtain ⟨m, hm⟩ := List.exists_mem_of_ne_nil rows h
  refine List.length_pos_of_mem (List.mem_dedup.mpr (List.mem_map_of_mem hm))

theorem avgLoadKw_eq (h : rows ≠ []) :
    (keyMetrics (reportRows (getPollingInterval brand) g.bucket rows)).avgLoadKw =
      (rows.map (·.loadKw)).sum * (pollMinutes brand / 60) / activeHours rows := by
  have hpos := activeHours_pos h
  simp only [keyMetrics, savings_reportRows, totalActiveHours_savingsRows, totalEnergyKwh_savingsRows,
    decimalFactor_minutes]
  exact if_pos hpos

theorem avgLoadKw_iff (h : rows ≠ []) :
    (keyMetrics (reportRows (getPollingInterval brand) g.bucket rows)).avgLoadKw = Sql.mean (·.loadKw) rows ↔
      (rows.map (·.loadKw)).sum = 0 ∨ FillHours brand rows := by
  have hrows : (rows.length : ℚ) ≠ 0 := Nat.cast_ne_zero.mpr (List.length_pos_iff.mpr h).ne'
  have hhours : (activeHours rows : ℚ) ≠ 0 := Nat.cast_ne_zero.mpr (activeHours_pos h).ne'
  rw [avgLoadKw_eq h, Sql.mean, div_eq_div_iff hhours hrows, FillHours, mul_assoc, mul_eq_mul_left_iff, or_comm,
    mul_comm (pollMinutes brand / 60)]

theorem avgBatterySoc_iff (h : rows ≠ []) :
    (keyMetrics (reportRows (getPollingInterval brand) g.bucket rows)).avgBatterySoc =
      Sql.mean (·.batterySocPercent) rows ↔ Even g.bucket rows := by
  have hgroups : 0 < (Sql.groupBy (fun m => g.bucket m.metricTimestamp) rows).length :=
    List.length_pos_iff.mpr (Sql.groupBy_ne_nil h)
  rw [Even, ← Sql.mean_means_iff _ h]
  simp only [keyMetrics, reportRows, List.length_map, List.map_map, Function.comp_def, reportRow, Sql.avg_getD]
  rw [if_pos hgroups]

theorem keyMetrics_averages_iff (h : rows ≠ []) :
    Averages (keyMetrics (reportRows (getPollingInterval brand) g.bucket rows)) rows ↔
      ((rows.map (·.loadKw)).sum = 0 ∨ FillHours brand rows) ∧ Even g.bucket rows := by
  rw [← avgLoadKw_iff h, ← avgBatterySoc_iff h]
  constructor
  · intro ha
    exact ⟨ha.load, ha.soc⟩
  · rintro ⟨hl, hs⟩
    refine ⟨hl, hs, fun low high hb => ?_, fun low high hb => ?_⟩
    · rw [hl]
      exact Sql.mean_between h hb
    · rw [hs]
      exact Sql.mean_between h hb

theorem solarReport_ok {db : Tables} {now : Int} {report : Report} {w : Window} {group : Granularity} {r : SolarReport}
    (h : solarReport db now report w group = .ok r) : ∃ inverter, db.inverters report.inverterId = some inverter ∧
      r.keyMetrics = keyMetrics (reportRows (getPollingInterval inverter.brand) group.bucket
        (readings db.metrics report.inverterId w.contains)) := by
  obtain ⟨inverter, hi, h⟩ := bind_eq_ok.mp h
  cases h
  refine ⟨inverter, ?_, rfl⟩
  unfold findOne at hi
  split at hi
  · rename_i i hi'
    cases hi
    exact hi'
  · cases hi

theorem computeSolarReport_ok {tza now : Int} {db : Tables} {report : Report} {r : SolarReport}
    (h : computeSolarReport tza db now report = .ok r) :
    ∃ inverter w, db.inverters report.inverterId = some inverter ∧
      solarReportWindow tza (some inverter) report = .ok w ∧
      r.keyMetrics = keyMetrics (reportRows (getPollingInterval inverter.brand) (chartOf report).bucket
        (readings db.metrics report.inverterId w.contains)) := by
  unfold computeSolarReport at h
  unfold solarReportWindow chartOf
  by_cases hc : report.period = .custom
  · rw [if_pos hc] at h ⊢
    obtain ⟨w, hw, h⟩ := bind_eq_ok.mp h
    obtain ⟨inverter, hi, hr⟩ := solarReport_ok h
    exact ⟨inverter, w, hi, by rw [if_pos hc, ← hi, hw], hr⟩
  · rw [if_neg hc] at h ⊢
    obtain ⟨w, hw, h⟩ := bind_eq_ok.mp h
    obtain ⟨inverter, hi, hr⟩ := solarReport_ok h
    exact ⟨inverter, w, hi, by rw [if_neg hc, ← hi, hw], hr⟩

/-- A report of a window with readings gives their averages if the readings
fill the hours, or have no load in all, and spread evenly over the chart. -/
theorem averages_iff {tza now : Int} {db : Tables} {report : Report} {r : SolarReport}
    (h : computeSolarReport tza db now report = .ok r) :
    ∃ inverter w, db.inverters report.inverterId = some inverter ∧
      solarReportWindow tza (some inverter) report = .ok w ∧
      let rows := readings db.metrics report.inverterId w.contains
      rows ≠ [] → (Averages r.keyMetrics rows ↔
        ((rows.map (·.loadKw)).sum = 0 ∨ FillHours inverter.brand rows) ∧ Even (chartOf report).bucket rows) := by
  obtain ⟨inverter, w, hi, hw, hr⟩ := computeSolarReport_ok h
  refine ⟨inverter, w, hi, hw, fun hne => ?_⟩
  rw [hr]
  exact keyMetrics_averages_iff hne

/-- A report on the first week of 1970, with one reading of 4 kW in it. -/
def weekReport : Report := generateReport ⟨1, .solar, "Solar", false, .weekly 0⟩ 5 9 0

theorem week_averages : ∃ r, computeSolarReport 0 (tables none) 0 weekReport = .ok r ∧
    ∃ inverter w, (tables none).inverters weekReport.inverterId = some inverter ∧
      solarReportWindow 0 (some inverter) weekReport = .ok w ∧
      let rows := readings (tables none).metrics weekReport.inverterId w.contains
      rows ≠ [] → (Averages r.keyMetrics rows ↔
        ((rows.map (·.loadKw)).sum = 0 ∨ FillHours inverter.brand rows) ∧ Even (chartOf weekReport).bucket rows) :=
  ⟨_, rfl, averages_iff rfl⟩

/-- The average of a load of 4 kW, read once in the hour, is 4/30 kW. -/
theorem one_reading_average : ¬ ∀ (tza now : Int) (db : Tables) (report : Report) (r : SolarReport) (inverter : Inverter)
    (w : Window), computeSolarReport tza db now report = .ok r → solarReportWindow tza (some inverter) report = .ok w →
    readings db.metrics report.inverterId w.contains ≠ [] →
    Averages r.keyMetrics (readings db.metrics report.inverterId w.contains) := by
  intro h
  have := (h 0 0 (tables none) weekReport _ victron _ rfl rfl (by decide +kernel)).load
  exact absurd this (by decide +kernel)

end

end IntellApi.SolarReports
