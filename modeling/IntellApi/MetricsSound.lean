import IntellApi.Metrics
import Mathlib.Algebra.BigOperators.Ring.List
import Mathlib.Tactic.NormNum

/-!
# From power to energy

A reading stands for one polling interval, so readings carry their sum times the
interval in hours. The queries that divide by a decimal compute that; the
dashboard and the energy usage divide two integers and get 0, which is right
only when the power adds up to 0 (`one_factor_iff`).
-/

namespace IntellApi.Metrics

def pollMinutes : InverterBrand → ℚ
  | .victron => 2
  | .sandbox => 1 / 2
  | _ => 5

def kwh (brand : InverterBrand) (f : InvertersMetrics → ℚ) (rows : List InvertersMetrics) : ℚ :=
  (rows.map f).sum * (pollMinutes brand / 60)

def inBucket (bucket : Int → Int) (rows : List InvertersMetrics) (k : Int) : List InvertersMetrics :=
  Sql.group (fun m => bucket m.metricTimestamp) rows k

/-- Every query gives the energy of the readings, in each bucket and in all. -/
structure OneFactor (brand : InverterBrand) (bucket : Int → Int) (rows : List InvertersMetrics) : Prop where
  dashboard : (energyKwh (getPollingInterval brand) rows).getD 0 = kwh brand (·.loadKw) rows
  usage : ∀ r ∈ usageRows (getPollingInterval brand) bucket rows,
    r.solarKwh = kwh brand (·.solarGenKw) (inBucket bucket rows r.bucket)
  usageTotal : ((usageRows (getPollingInterval brand) bucket rows).map (·.solarKwh)).sum =
    kwh brand (·.solarGenKw) rows
  savings : ∀ r ∈ savingsRows (getPollingInterval brand) bucket rows,
    r.energyKwh = kwh brand (·.loadKw) (inBucket bucket rows r.bucket) ∧
      r.solarKwh = kwh brand (·.solarGenKw) (inBucket bucket rows r.bucket)
  savingsTotal : ((savingsRows (getPollingInterval brand) bucket rows).map (·.energyKwh)).sum =
      kwh brand (·.loadKw) rows ∧
    ((savingsRows (getPollingInterval brand) bucket rows).map (·.solarKwh)).sum = kwh brand (·.solarGenKw) rows
  cumulative : ∀ r ∈ monthRows (getPollingInterval brand) rows,
    r.energyKwh = kwh brand (·.loadKw) (inBucket Granularity.month.bucket rows r.month) ∧
      r.solarKwh = kwh brand (·.solarGenKw) (inBucket Granularity.month.bucket rows r.month)
  report : ∀ r ∈ reportRows (getPollingInterval brand) bucket rows,
    r.energyKwh = kwh brand (·.loadKw) (inBucket bucket rows r.bucket) ∧
      r.solarKwh = kwh brand (·.solarGenKw) (inBucket bucket rows r.bucket)
  reportTotal : ((reportRows (getPollingInterval brand) bucket rows).map (·.energyKwh)).sum =
      kwh brand (·.loadKw) rows ∧
    ((reportRows (getPollingInterval brand) bucket rows).map (·.solarKwh)).sum = kwh brand (·.solarGenKw) rows

section
variable {brand : InverterBrand} {bucket : Int → Int} {rows : List InvertersMetrics}

theorem pollMinutes_pos (brand : InverterBrand) : 0 < pollMinutes brand := by
  cases brand <;> norm_num [pollMinutes]

theorem factor_zero (brand : InverterBrand) : (factor (getPollingInterval brand)).toRat = 0 := by
  unfold factor
  cases brand <;> exact Sql.Number.div_integer (by decide) (by decide)

theorem decimalFactor_minutes (brand : InverterBrand) :
    (decimalFactor (getPollingInterval brand)).toRat = pollMinutes brand / 60 := by
  unfold decimalFactor
  rw [Sql.Number.div_numeric]
  cases brand <;> norm_num [getPollingInterval, pollMinutes, basePoints]

theorem kwh_eq_zero {f : InvertersMetrics → ℚ} : kwh brand f rows = 0 ↔ (rows.map f).sum = 0 := by
  have := (pollMinutes_pos brand).ne'
  simp [kwh, this]

theorem bucket_kwh (f : InvertersMetrics → ℚ) (rows : List InvertersMetrics) :
    (Sql.sum f rows).getD 0 * (decimalFactor (getPollingInterval brand)).toRat = kwh brand f rows := by
  rw [Sql.sum_getD, decimalFactor_minutes]
  rfl

theorem total_kwh (f : InvertersMetrics → ℚ) (key : InvertersMetrics → Int) :
    ((Sql.groupBy key rows).map fun g => kwh brand f g.2).sum = kwh brand f rows := by
  unfold kwh
  rw [List.sum_map_mul_right, Sql.sum_groups]

theorem energyKwh_zero : (energyKwh (getPollingInterval brand) rows).getD 0 = 0 := by
  unfold energyKwh
  rw [factor_zero]
  cases Sql.sum (·.loadKw) rows with
  | none => rfl
  | some q => simp

theorem usage_zero : ∀ r ∈ usageRows (getPollingInterval brand) bucket rows, r.solarKwh = 0 := by
  intro r hr
  obtain ⟨k, _, rfl⟩ := Sql.mem_map_groupBy hr
  simp [usageRow, factor_zero]

theorem solar_eq_zero (h : ∀ k, ((inBucket bucket rows k).map (·.solarGenKw)).sum = 0) :
    (rows.map (·.solarGenKw)).sum = 0 := by
  rw [← Sql.sum_groups fun m => bucket m.metricTimestamp]
  apply List.sum_eq_zero
  intro q hq
  obtain ⟨k, _, rfl⟩ := Sql.mem_map_groupBy hq
  exact h k

theorem savings_kwh : ∀ r ∈ savingsRows (getPollingInterval brand) bucket rows,
    r.energyKwh = kwh brand (·.loadKw) (inBucket bucket rows r.bucket) ∧
      r.solarKwh = kwh brand (·.solarGenKw) (inBucket bucket rows r.bucket) := by
  intro r hr
  obtain ⟨k, _, rfl⟩ := Sql.mem_map_groupBy hr
  exact ⟨bucket_kwh _ _, bucket_kwh _ _⟩

theorem cumulative_kwh : ∀ r ∈ monthRows (getPollingInterval brand) rows,
    r.energyKwh = kwh brand (·.loadKw) (inBucket Granularity.month.bucket rows r.month) ∧
      r.solarKwh = kwh brand (·.solarGenKw) (inBucket Granularity.month.bucket rows r.month) := by
  intro r hr
  obtain ⟨k, _, rfl⟩ := Sql.mem_map_groupBy hr
  exact ⟨bucket_kwh _ _, bucket_kwh _ _⟩

theorem report_kwh : ∀ r ∈ reportRows (getPollingInterval brand) bucket rows,
    r.energyKwh = kwh brand (·.loadKw) (inBucket bucket rows r.bucket) ∧
      r.solarKwh = kwh brand (·.solarGenKw) (inBucket bucket rows r.bucket) := by
  intro r hr
  obtain ⟨k, _, rfl⟩ := Sql.mem_map_groupBy hr
  exact ⟨bucket_kwh _ _, bucket_kwh _ _⟩

/-- A division of integers makes every figure 0, which is right when the power adds up to 0. -/
theorem one_factor_iff : OneFactor brand bucket rows ↔
    (rows.map (·.loadKw)).sum = 0 ∧ ∀ k, ((inBucket bucket rows k).map (·.solarGenKw)).sum = 0 := by
  constructor
  · intro h
    refine ⟨kwh_eq_zero.mp (h.dashboard.symm.trans energyKwh_zero), fun k => ?_⟩
    by_cases hk : ∃ m ∈ rows, bucket m.metricTimestamp = k
    · obtain ⟨m, hm, rfl⟩ := hk
      have hmem : usageRow _ _ ∈ usageRows (getPollingInterval brand) bucket rows :=
        Sql.map_groupBy_mem (usageRow (getPollingInterval brand)) hm
      exact kwh_eq_zero.mp ((h.usage _ hmem).symm.trans (usage_zero _ hmem))
    · rw [inBucket, Sql.group_eq_nil fun m hm he => hk ⟨m, hm, he⟩]
      rfl
  · intro ⟨hl, hs⟩
    have hload : kwh brand (·.loadKw) rows = 0 := kwh_eq_zero.mpr hl
    have hsolar : kwh brand (·.solarGenKw) rows = 0 := kwh_eq_zero.mpr (solar_eq_zero hs)
    exact {
      dashboard := energyKwh_zero.trans hload.symm
      usage := fun r hr => (usage_zero r hr).trans (kwh_eq_zero.mpr (hs r.bucket)).symm
      usageTotal := by
        rw [hsolar]
        apply List.sum_eq_zero
        intro q hq
        obtain ⟨r, hr, rfl⟩ := List.mem_map.mp hq
        exact usage_zero r hr
      savings := savings_kwh
      savingsTotal := by
        simp only [savingsRows, List.map_map, savingsRow, Function.comp_def, bucket_kwh, total_kwh, and_self]
      cumulative := cumulative_kwh
      report := report_kwh
      reportTotal := by
        simp only [reportRows, List.map_map, reportRow, Function.comp_def, bucket_kwh, total_kwh, and_self] }

end

/-! ## One reading -/

theorem dashboard_factor_zero : ¬ ∀ brand bucket rows, OneFactor brand bucket rows := by
  intro h
  have hd := (h .victron id [⟨1, 2, 80, 3, none, none, 0⟩]).dashboard
  rw [energyKwh_zero] at hd
  norm_num [kwh, pollMinutes] at hd

end IntellApi.Metrics
