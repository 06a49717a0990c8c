import IntellApi.Dashboard
import IntellApi.DepletionSound
import IntellApi.SavingsSound

/-!
# Two estimates of the depletion

The system insights and the alerts estimate by the same formula. At 20 percent
and below nothing is left to draw: the alerts then count a discharging battery
as depleted, the insights report no estimate (`engines_agree_iff`).
-/

namespace IntellApi.Alerts

open JsNumber (num)

section
variable {soc load solar capacity threshold : ℚ} {rated : JsNumber}

theorem calculateDepletion_num (hc : 2 / 100 ≤ capacity) :
    let result := calculateDepletion ⟨num soc, num load, num capacity, num solar, rated⟩ (num threshold)
    (result.isCharging = true ↔ netLoadKw load solar ≤ 0) ∧ result.minutesUntilDepletion =
      if netLoadKw load solar ≤ 0 then none
      else if usablePercent soc threshold ≤ 0 then some (num 0)
      else some (num (minutesLeft (usablePercent soc threshold) capacity (netLoadKw load solar))) := by
  intro result
  have hpos : 0 < capacity := by linarith
  have hzero : (0 : JsNumber) = num 0 := congrArg num Nat.cast_zero
  have hcapacity : JsNumber.max 0 (num capacity) = num capacity := by
    rw [hzero, JsNumber.num_max, max_eq_right hpos.le]
  have hne : num capacity ≠ 0 := by
    rw [hzero]
    simp [hpos.ne']
  have hbig : ¬ num capacity < minMeaningfulCapacityKwh := by
    rw [minMeaningfulCapacityKwh, JsNumber.num_lt]
    exact not_lt.mpr hc
  have hlt : (0 : JsNumber) < num capacity := by
    rw [hzero, JsNumber.num_lt]
    exact hpos
  have hnet : JsNumber.max 0 (JsNumber.max 0 (num load) - JsNumber.max 0 (num solar)) = num (netLoadKw load solar) :=
    netLoad_num
  have hle : ∀ q : ℚ, num q ≤ 0 ↔ q ≤ 0 := fun q => by rw [hzero, JsNumber.num_le]
  have hresult : result = calculateDepletion ⟨num soc, num load, num capacity, num solar, rated⟩ (num threshold) := rfl
  unfold calculateDepletion at hresult
  simp only [hcapacity, hne, hbig, hnet, hle, hlt, usablePercent_num, if_false, true_and] at hresult
  by_cases h0 : netLoadKw load solar ≤ 0
  · rw [if_pos h0] at hresult
    rw [hresult, if_pos h0]
    exact ⟨iff_of_true rfl h0, rfl⟩
  · have hdraw : (0 : JsNumber) < num (netLoadKw load solar) := by
      rw [hzero, JsNumber.num_lt]
      exact not_le.mp h0
    rw [if_neg h0] at hresult
    rw [if_neg h0]
    by_cases hu : usablePercent soc threshold ≤ 0
    · rw [if_pos hu] at hresult
      rw [hresult, if_pos hu]
      exact ⟨iff_of_false (by simp) h0, congrArg some hzero⟩
    · rw [if_neg hu, if_pos hdraw] at hresult
      rw [hresult, if_neg hu]
      refine ⟨iff_of_false (by simp) h0, congrArg some ?_⟩
      have hminutes : num (usablePercent soc threshold) / 100 * num capacity / num (netLoadKw load solar) * 60 =
          num (usablePercent soc threshold / 100 * capacity / netLoadKw load solar * 60) := by
        rw [ofNat_eq, JsNumber.num_div _ _ (by norm_num), JsNumber.num_mul, JsNumber.num_div _ _ (not_le.mp h0).ne',
          ofNat_eq, JsNumber.num_mul]
        norm_num
      rw [hminutes, round2_num, minutesLeft]

end

end IntellApi.Alerts

namespace IntellApi.Dashboard

open Alerts InverterAccess Metrics Savings
open JsNumber (num roundRat)

/-- Null exactly while charging, and less than a minute apart otherwise. -/
structure EnginesAgree (minutes : Option Int) (result : DepletionResult) : Prop where
  charging : minutes = none ↔ result.isCharging = true
  close : ∀ k, minutes = some k → ∃ q : ℚ, result.minutesUntilDepletion = some (num q) ∧ |(k : ℚ) - q| < 1

def depletionInput (inverter : Inverter) (latest : InvertersMetrics) (rated : JsNumber) : DepletionInput where
  batterySocPercent := num latest.batterySocPercent
  loadKw := num latest.loadKw
  batteryCapacityKwh := num inverter.ratedCapacityKwh
  solarGenKw := num latest.solarGenKw
  inverterRatedPowerKw := rated

/-- A reading of a battery that the estimates are meant for. -/
structure Plausible (inverter : Inverter) (latest : InvertersMetrics) : Prop where
  load : 0 ≤ latest.loadKw
  solar : 0 ≤ latest.solarGenKw
  soc : 0 ≤ latest.batterySocPercent ∧ latest.batterySocPercent ≤ 100
  capacity : 2 / 100 ≤ inverter.ratedCapacityKwh

section
variable {inverter : Inverter} {latest : InvertersMetrics} {db : Tables} {now : Int} {inverterId : Uuid}

theorem round_near (q : ℚ) : |(roundRat q : ℚ) - q| ≤ 1 / 2 := by
  have h1 := Int.floor_le (q + 1 / 2)
  have h2 := Int.lt_floor_add_one (q + 1 / 2)
  rw [abs_le]
  unfold roundRat
  constructor <;> linarith

theorem minutes_close (q : ℚ) : |(roundRat q : ℚ) - roundRat (q * 100) / 100| < 1 := by
  have h1 := abs_le.mp (round_near q)
  have h2 := abs_le.mp (round_near (q * 100))
  rw [abs_lt]
  constructor <;> linarith

/-- The estimate is made for a discharging battery above 20 percent. -/
theorem depletionHours_some (h : Plausible inverter latest) (hd : latest.solarGenKw < latest.loadKw)
    (hs : 20 < latest.batterySocPercent) : depletionHours inverter latest =
      some ((latest.batterySocPercent - 20) / 100 * inverter.ratedCapacityKwh / (latest.loadKw - latest.solarGenKw)) := by
  have hcapacity : 0 < inverter.ratedCapacityKwh := by linarith [h.capacity]
  have husable : usableEnergyKwh inverter latest =
      (latest.batterySocPercent - 20) / 100 * inverter.ratedCapacityKwh := by
    rw [usableEnergyKwh, if_pos hcapacity, cutoffSocPercent, max_eq_left (by linarith)]
  have hnet : 0 < netDischargeKw latest := by
    unfold netDischargeKw
    linarith
  have hpos : 0 < usableEnergyKwh inverter latest := by
    rw [husable]
    have : 0 < latest.batterySocPercent - 20 := by linarith
    positivity
  rw [depletionHours, if_pos ⟨hnet, hpos⟩, husable, netDischargeKw]

theorem depletionHours_none (h : latest.loadKw ≤ latest.solarGenKw ∨ latest.batterySocPercent ≤ 20) :
    depletionHours inverter latest = none := by
  unfold depletionHours
  rw [if_neg]
  rintro ⟨hnet, hpos⟩
  rcases h with h | h
  · unfold netDischargeKw at hnet
    linarith
  · have hzero : usableEnergyKwh inverter latest = 0 := by
      rw [usableEnergyKwh, cutoffSocPercent, max_eq_right (by linarith)]
      simp
    exact absurd hzero hpos.ne'

theorem engines_agree_of_plausible (h : Plausible inverter latest) (rated : JsNumber) :
    EnginesAgree ((depletionHours inverter latest).map fun h => roundRat (h * 60))
      (calculateDepletion (depletionInput inverter latest rated) (num 20)) ↔
      ¬(latest.batterySocPercent ≤ 20 ∧ latest.solarGenKw < latest.loadKw) := by
  obtain ⟨hcharging, hminutes⟩ := @calculateDepletion_num latest.batterySocPercent latest.loadKw latest.solarGenKw
    inverter.ratedCapacityKwh 20 rated h.capacity
  have hnet : netLoadKw latest.loadKw latest.solarGenKw = max 0 (latest.loadKw - latest.solarGenKw) := by
    rw [netLoadKw, max_eq_right h.load, max_eq_right h.solar]
  have husable : usablePercent latest.batterySocPercent 20 = latest.batterySocPercent - 20 := by
    rw [usablePercent, min_eq_right h.soc.2, max_eq_right h.soc.1]
  by_cases hd : latest.solarGenKw < latest.loadKw
  · have hpos : 0 < latest.loadKw - latest.solarGenKw := by linarith
    rw [max_eq_right hpos.le] at hnet
    by_cases hs : latest.batterySocPercent ≤ 20
    · refine iff_of_false (fun ha => ?_) fun hn => hn ⟨hs, hd⟩
      rw [depletionHours_none (.inr hs)] at ha
      have := hcharging.mp (ha.charging.mp rfl)
      rw [hnet] at this
      linarith
    · refine iff_of_true ⟨iff_of_false ?_ fun hc => ?_, ?_⟩ fun hn => hs hn.1
      · simp [depletionHours_some h hd (not_le.mp hs)]
      · have := hcharging.mp hc
        rw [hnet] at this
        linarith
      · rw [depletionHours_some h hd (not_le.mp hs), Option.map_some]
        rintro k ⟨⟩
        rw [hnet, husable, if_neg (not_le.mpr hpos), if_neg (by linarith)] at hminutes
        exact ⟨_, hminutes, minutes_close _⟩
  · have hzero : netLoadKw latest.loadKw latest.solarGenKw ≤ 0 := by
      rw [hnet, max_eq_left (by linarith)]
    refine iff_of_true ⟨iff_of_true ?_ (hcharging.mpr hzero), ?_⟩ fun hn => hd hn.2
    · simp [depletionHours_none (.inl (not_lt.mp hd))]
    · simp [depletionHours_none (.inl (not_lt.mp hd))]

/-- The two engines agree on a fresh reading, except where a battery at or below 20 percent is drawn from. -/
theorem engines_agree_iff (hl : latestReading db.metrics inverterId = some latest)
    (hi : db.inverters inverterId = some inverter) (hfresh : (now - getTime latest.metricTimestamp) / 1000 ≤ 1200)
    (h : Plausible inverter latest) (rated : JsNumber) :
    ∃ insights, getSystemInsights db now inverterId = .ok (.available insights) ∧
      (EnginesAgree insights.depletion.estimatedDepletionMinutes
        (calculateDepletion (depletionInput inverter latest rated) (num 20)) ↔
        ¬(latest.batterySocPercent ≤ 20 ∧ latest.solarGenKw < latest.loadKw)) := by
  obtain ⟨rule, hr⟩ := fuelRule_ok .loose (db.settings inverter.userId)
  refine ⟨insights rule inverter latest ((now - getTime latest.metricTimestamp) / 1000), ?_,
    engines_agree_of_plausible h rated⟩
  unfold getSystemInsights
  rw [hl, hi]
  dsimp only
  rw [if_neg (Int.not_lt.mpr hfresh), hr]
  rfl

/-- Read a second ago, with 2 kW drawn from the battery. -/
def drawn (soc : ℚ) : InvertersMetrics := ⟨1, 0, soc, 2, none, none, 1000000⟩

def batteryTables (soc : ℚ) : Tables where
  inverters id := if id = 1 then some victron else none
  settings _ := none
  metrics := [drawn soc]
  members := []

theorem half_full_agrees : ∃ insights, getSystemInsights (batteryTables 50) 2000 1 = .ok (.available insights) ∧
    (EnginesAgree insights.depletion.estimatedDepletionMinutes
      (calculateDepletion (depletionInput victron (drawn 50) (num 5)) (num 20)) ↔
      ¬((drawn 50).batterySocPercent ≤ 20 ∧ (drawn 50).solarGenKw < (drawn 50).loadKw)) :=
  engines_agree_iff (by decide +kernel) rfl (by decide)
    ⟨by decide +kernel, by decide +kernel, by decide +kernel, by decide +kernel⟩ (num 5)

/-- At 20 percent, drawn from with 2 kW: depleted now, or no estimate. -/
theorem depleted_without_estimate : ¬ ∀ db now inverterId inverter latest rated insights,
    latestReading db.metrics inverterId = some latest → db.inverters inverterId = some inverter →
    Plausible inverter latest → getSystemInsights db now inverterId = .ok (.available insights) →
    EnginesAgree insights.depletion.estimatedDepletionMinutes
      (calculateDepletion (depletionInput inverter latest rated) (num 20)) := by
  intro h
  have := (h (batteryTables 20) 2000 1 victron (drawn 20) (num 5) _ (by decide +kernel) rfl
    ⟨by decide +kernel, by decide +kernel, by decide +kernel, by decide +kernel⟩ rfl).charging.mp (by decide +kernel)
  exact absurd this (by decide +kernel)

end

end IntellApi.Dashboard
