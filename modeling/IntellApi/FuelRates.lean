import IntellApi.Fuel
import IntellApi.StepTable
import Mathlib.Tactic.Linarith

/-!
# The shape of the fuel rate

The rate is a table of steps with a rule of thumb beyond its last row, and never
falls (`rate_mono`). Between two rows it is the rate of the upper one, while the
comment on the tables speaks of a line: the two meet at the rows only
(`rate_on_line_iff`).
-/

namespace IntellApi.Fuel

/-! ## The tables -/

def consumptionTable (fuelType : GeneratorFuelType) : List Bracket :=
  if fuelType = .diesel then dieselConsumptionTable else pmsConsumptionTable

def thumbRate (fuelType : GeneratorFuelType) (ratedPowerKw : ℚ) : ℚ :=
  JsNumber.toFixedRat 2 (ratedPowerKw * if fuelType = .diesel then 0.3 else 0.5)

variable {fuelType : GeneratorFuelType} {lower upper bracket : Bracket} {p q : ℚ}

theorem estimate_of_find (h : (consumptionTable fuelType).find? (p ≤ ·.maxKw) = some bracket) :
    estimateFuelConsumptionRate fuelType p = bracket.litresPerHour := by
  unfold consumptionTable at h
  simp only [estimateFuelConsumptionRate, h]

theorem estimate_beyond (h : (consumptionTable fuelType).find? (p ≤ ·.maxKw) = none) :
    estimateFuelConsumptionRate fuelType p = thumbRate fuelType p := by
  unfold consumptionTable at h
  simp only [estimateFuelConsumptionRate, h, thumbRate]

theorem bounds_rise (fuelType : GeneratorFuelType) : (consumptionTable fuelType).Pairwise (·.maxKw < ·.maxKw) := by
  cases fuelType <;> decide +kernel

theorem rates_rise (fuelType : GeneratorFuelType) :
    (consumptionTable fuelType).Pairwise (·.litresPerHour < ·.litresPerHour) := by
  cases fuelType <;> decide +kernel

/-! ## The line between two rows -/

def line (lower upper : Bracket) (p : ℚ) : ℚ :=
  lower.litresPerHour +
    (p - lower.maxKw) / (upper.maxKw - lower.maxKw) * (upper.litresPerHour - lower.litresPerHour)

theorem line_lower : line lower upper lower.maxKw = lower.litresPerHour := by
  simp [line]

theorem line_upper (h : lower.maxKw < upper.maxKw) : line lower upper upper.maxKw = upper.litresPerHour := by
  rw [line, div_self (sub_pos.mpr h).ne']
  ring

theorem line_lt (h : lower.maxKw < upper.maxKw) (hr : lower.litresPerHour < upper.litresPerHour)
    (hp : p < upper.maxKw) : line lower upper p < upper.litresPerHour := by
  have hshare : (p - lower.maxKw) / (upper.maxKw - lower.maxKw) < 1 := by
    rw [div_lt_one (sub_pos.mpr h)]
    linarith
  have := mul_lt_mul_of_pos_right hshare (sub_pos.mpr hr)
  unfold line
  linarith

/-- Between two rows of a table the rate is on the line through them at the rows and nowhere else. -/
theorem rate_on_line_iff (hn : [lower, upper] <:+: consumptionTable fuelType) (hl : lower.maxKw ≤ p)
    (hu : p ≤ upper.maxKw) :
    estimateFuelConsumptionRate fuelType p = line lower upper p ↔ p = lower.maxKw ∨ p = upper.maxKw := by
  have hbound : lower.maxKw < upper.maxKw := by simpa using (bounds_rise fuelType).sublist hn.sublist
  have hrate : lower.litresPerHour < upper.litresPerHour := by simpa using (rates_rise fuelType).sublist hn.sublist
  rcases hl.eq_or_lt with rfl | hl
  · have hmem : lower ∈ consumptionTable fuelType := hn.subset (by simp)
    rw [estimate_of_find (StepTable.find_self (bounds_rise fuelType) hmem), line_lower]
    simp
  · rw [estimate_of_find (StepTable.find_between (bounds_rise fuelType) hn hl hu)]
    constructor
    · intro h
      refine .inr (hu.eq_of_not_lt fun hp => ?_)
      exact (line_lt hbound hrate hp).ne' h
    · rintro (rfl | rfl)
      · exact absurd hl (lt_irrefl _)
      · rw [line_upper hbound]

theorem rate_on_line_at_two : estimateFuelConsumptionRate .pms 2 = line ⟨1.0, 0.6⟩ ⟨2.0, 0.9⟩ 2 ↔
    (2 : ℚ) = 1.0 ∨ (2 : ℚ) = 2.0 :=
  @rate_on_line_iff .pms ⟨1.0, 0.6⟩ ⟨2.0, 0.9⟩ 2 ⟨[], pmsConsumptionTable.drop 2, rfl⟩ (by norm_num) (by norm_num)

/-- 1.5 kW are taken for 2. -/
theorem no_interpolation : ¬ ∀ (fuelType : GeneratorFuelType) (lower upper : Bracket) (p : ℚ),
    [lower, upper] <:+: consumptionTable fuelType → lower.maxKw ≤ p → p ≤ upper.maxKw →
    estimateFuelConsumptionRate fuelType p = line lower upper p := by
  intro h
  have := h .pms ⟨1.0, 0.6⟩ ⟨2.0, 0.9⟩ 1.5 ⟨[], pmsConsumptionTable.drop 2, rfl⟩ (by norm_num) (by norm_num)
  revert this
  decide +kernel

/-! ## Larger generators -/

theorem thumbRate_mono (h : p ≤ q) : thumbRate fuelType p ≤ thumbRate fuelType q := by
  refine JsNumber.toFixedRat_mono 2 (mul_le_mul_of_nonneg_right h ?_)
  split <;> norm_num

theorem rate_le_thumbRate (fuelType : GeneratorFuelType) : ∃ last ∈ consumptionTable fuelType,
    ∀ row ∈ consumptionTable fuelType, row.litresPerHour ≤ thumbRate fuelType last.maxKw := by
  cases fuelType with
  | diesel => exact ⟨⟨20.0, 4.5⟩, by decide +kernel, by decide +kernel⟩
  | pms => exact ⟨⟨10.0, 3.5⟩, by decide +kernel, by decide +kernel⟩

theorem rate_mono (fuelType : GeneratorFuelType) : Monotone (estimateFuelConsumptionRate fuelType) := by
  intro p q hpq
  cases hq : (consumptionTable fuelType).find? (q ≤ ·.maxKw) with
  | some upper =>
    cases hp : (consumptionTable fuelType).find? (p ≤ ·.maxKw) with
    | some lower =>
      rw [estimate_of_find hp, estimate_of_find hq]
      exact StepTable.find_mono ((rates_rise fuelType).imp le_of_lt) hpq hp hq
    | none => rw [StepTable.find_none_mono hpq hp] at hq; cases hq
  | none =>
    rw [estimate_beyond hq]
    cases hp : (consumptionTable fuelType).find? (p ≤ ·.maxKw) with
    | some lower =>
      obtain ⟨last, hlast, hrow⟩ := rate_le_thumbRate fuelType
      rw [estimate_of_find hp]
      calc lower.litresPerHour ≤ thumbRate fuelType last.maxKw := hrow _ (List.mem_of_find?_eq_some hp)
        _ ≤ thumbRate fuelType q := thumbRate_mono (StepTable.lt_of_find_none hq hlast).le
    | none =>
      rw [estimate_beyond hp]
      exact thumbRate_mono hpq

end IntellApi.Fuel
