import IntellApi.MetricsSound
import IntellApi.Savings

/-!
# Totals of charts

A chart with coarser buckets has the same totals. Sums of power add up over any
buckets; the hours with a reading do so because no hour lies in two of them.
-/

namespace IntellApi.Metrics

open Calendar Savings

/-! ## Nested buckets -/

/-- The buckets of a Lagos local time. -/
def Granularity.truncate (g : Granularity) (ms : Int) : Int :=
  match g with
  | .hour => ms / 3600000 * 3600000
  | .day => Calendar.day ms * msPerDay
  | .week => (Calendar.day ms - (Calendar.day ms + 3) % 7) * msPerDay
  | .month => makeDay (yearOfDay (Calendar.day ms)) (monthOfDay (Calendar.day ms)) 1 * msPerDay

theorem bucket_truncate (g : Granularity) (t : Int) : g.bucket t = g.truncate (t / 1000 + lagosOffset) := by
  cases g <;> rfl

/-- An hour lies in one bucket. -/
theorem truncate_hour (g : Granularity) (ms : Int) : g.truncate (Granularity.hour.truncate ms) = g.truncate ms := by
  have hday : Calendar.day (ms / 3600000 * 3600000) = Calendar.day ms := by
    simp only [Calendar.day, msPerDay]
    omega
  cases g with
  | hour =>
    simp only [Granularity.truncate]
    omega
  | day => simp only [Granularity.truncate, hday]
  | week => simp only [Granularity.truncate, hday]
  | month => simp only [Granularity.truncate, hday]

theorem bucket_hour (g : Granularity) (t : Int) : g.bucket t = g.truncate (Granularity.hour.bucket t) := by
  rw [bucket_truncate, bucket_truncate, truncate_hour]

/-! ## Totals -/

section
variable (pollInterval : Int) (g : Granularity) (rows : List InvertersMetrics)

theorem sum_savings (f : InvertersMetrics → ℚ) (bucket : Int → Int) :
    ((Sql.groupBy (fun m => bucket m.metricTimestamp) rows).map fun group =>
      (Sql.sum f group.2).getD 0 * (decimalFactor pollInterval).toRat).sum =
      (rows.map f).sum * (decimalFactor pollInterval).toRat := by
  simp only [Sql.sum_getD]
  rw [List.sum_map_mul_right, Sql.sum_groups]

theorem totalEnergyKwh_savingsRows (bucket : Int → Int) : totalEnergyKwh (savingsRows pollInterval bucket rows) =
    (rows.map (·.loadKw)).sum * (decimalFactor pollInterval).toRat := by
  rw [← sum_savings pollInterval rows _ bucket, totalEnergyKwh, savingsRows, List.map_map]
  rfl

theorem totalSolarKwh_savingsRows (bucket : Int → Int) : totalSolarKwh (savingsRows pollInterval bucket rows) =
    (rows.map (·.solarGenKw)).sum * (decimalFactor pollInterval).toRat := by
  rw [← sum_savings pollInterval rows _ bucket, totalSolarKwh, savingsRows, List.map_map]
  rfl

theorem totalActiveHours_savingsRows :
    totalActiveHours (savingsRows pollInterval g.bucket rows) = activeHours rows := by
  have h : ∀ m : InvertersMetrics, g.bucket m.metricTimestamp = g.truncate (Granularity.hour.bucket m.metricTimestamp) :=
    fun m => bucket_hour g m.metricTimestamp
  rw [activeHours, ← Sql.countDistinct_groups _ _ h, totalActiveHours, savingsRows, List.map_map]
  rfl

/-- Of whatever buckets a chart has, its totals are those of the hours. -/
theorem totals_hourly :
    totalEnergyKwh (savingsRows pollInterval g.bucket rows) =
      totalEnergyKwh (savingsRows pollInterval Granularity.hour.bucket rows) ∧
    totalSolarKwh (savingsRows pollInterval g.bucket rows) =
      totalSolarKwh (savingsRows pollInterval Granularity.hour.bucket rows) ∧
    totalActiveHours (savingsRows pollInterval g.bucket rows) =
      totalActiveHours (savingsRows pollInterval Granularity.hour.bucket rows) := by
  refine ⟨?_, ?_, ?_⟩
  · rw [totalEnergyKwh_savingsRows, totalEnergyKwh_savingsRows]
  · rw [totalSolarKwh_savingsRows, totalSolarKwh_savingsRows]
  · rw [totalActiveHours_savingsRows, totalActiveHours_savingsRows]

/-- The money, too, as far as it is not shown by bucket. -/
theorem summary_hourly (rule : FuelRule) : rule.summary (savingsRows pollInterval g.bucket rows) =
    rule.summary (savingsRows pollInterval Granularity.hour.bucket rows) := by
  simp only [FuelRule.summary, FuelRule.generatorCostAvoidedNgn, totalEnergyKwh_savingsRows, totalSolarKwh_savingsRows,
    totalActiveHours_savingsRows]

end

end IntellApi.Metrics
