import IntellApi.Alerts
import Mathlib.Tactic.GCongr
import Mathlib.Tactic.Linarith
import Mathlib.Tactic.Positivity

/-!
# How alarming a battery is

The severity that a finite reading ends in, as a function of rational numbers,
and how it moves with the reading, the threshold and the capacity.
-/

namespace IntellApi.Alerts

open JsNumber (num roundRat)

/-! ## Severity -/

def severity (input : DepletionInput) (threshold : JsNumber) : Option AlertSeverity :=
  let result := calculateDepletion input threshold
  (shouldFireAlert result.minutesUntilDepletion result.isCharging).map (·.severity)

/-- No alert ranks below every severity that is fired. -/
def rank (fired : Option AlertSeverity) : Nat := fired.elim 0 severityRank

def netLoad (load solar : JsNumber) : JsNumber := JsNumber.max 0 (JsNumber.max 0 load - JsNumber.max 0 solar)

def usablePercent (soc threshold : ℚ) : ℚ := max 0 (min 100 soc) - threshold

def severityOfMinutes (minutes : ℚ) : Option AlertSeverity :=
  if minutes < 30 then some .critical else if minutes ≤ 60 then some .warning else none

/-! ## Finite numbers -/

variable {soc soc' load load' solar solar' capacity capacity' threshold threshold' : ℚ} {rated rated' : JsNumber}

theorem ofNat_eq (n : Nat) : (OfNat.ofNat n : JsNumber) = num n := rfl

theorem round2_num (q : ℚ) : round2 (num q) = num (roundRat (q * 100) / 100) := by
  rw [round2, ofNat_eq, JsNumber.num_mul, JsNumber.round, JsNumber.num_div _ _ (by norm_num)]
  norm_num

theorem usablePercent_num :
    JsNumber.max 0 (JsNumber.min 100 (num soc)) - num threshold = num (usablePercent soc threshold) := by
  simp only [ofNat_eq, Nat.cast_zero, Nat.cast_ofNat, JsNumber.num_min, JsNumber.num_max, JsNumber.num_sub,
    usablePercent]

theorem shouldFireAlert_num (minutes : ℚ) :
    (shouldFireAlert (some (num minutes)) false).map (·.severity) = severityOfMinutes minutes := by
  unfold shouldFireAlert severityOfMinutes
  simp only [ofNat_eq, Nat.cast_zero, Nat.cast_ofNat, JsNumber.num_le, JsNumber.num_lt]
  by_cases h0 : minutes ≤ 0
  · have : minutes < 30 := by linarith
    simp [h0, this]
  · by_cases h30 : minutes < 30
    · simp [h0, h30]
    · by_cases h60 : minutes ≤ 60
      · simp [h0, h30, h60]
      · simp [h0, h30, h60]

/-- The early returns, in an order in which each is one comparison. -/
theorem severity_eq (load solar : JsNumber) :
    severity ⟨num soc, load, num capacity, solar, rated⟩ (num threshold) =
      if netLoad load solar ≤ 0 then none
      else if capacity ≤ 0 then some .critical
      else if capacity < 2 / 100 then none
      else if usablePercent soc threshold ≤ 0 then some .critical
      else
        (shouldFireAlert (some (round2 ((if 0 < netLoad load solar then
          num (usablePercent soc threshold / 100 * capacity) / netLoad load solar else 0) * 60))) false).map
          (·.severity) := by
  have hzero : (0 : JsNumber) = num 0 := congrArg num Nat.cast_zero
  have hcritical : (shouldFireAlert (some 0) false).map (·.severity) = some .critical := by
    rw [hzero, shouldFireAlert_num]
    decide +kernel
  have hcapacity : JsNumber.max 0 (num capacity) = num (max 0 capacity) := by rw [hzero, JsNumber.num_max]
  unfold severity calculateDepletion netLoad
  simp only [usablePercent_num, hcapacity]
  by_cases hnet : JsNumber.max 0 (JsNumber.max 0 load - JsNumber.max 0 solar) ≤ 0
  · simp only [hnet, if_true]
    split
    · rfl
    · split <;> rfl
  · by_cases hc : capacity ≤ 0
    · simp only [hnet, hc, max_eq_left hc, if_false, if_true]
      rw [if_pos hzero.symm]
      exact hcritical
    · have hpos : 0 < capacity := not_le.mp hc
      have hne : num capacity ≠ 0 := by
        rw [hzero]
        simp [hpos.ne']
      have hlt : 0 < num capacity := by
        rw [hzero]
        simp [hpos]
      simp only [hnet, hc, max_eq_right hpos.le, if_false, hne, minMeaningfulCapacityKwh, JsNumber.num_lt, hlt, true_and]
      by_cases hsmall : capacity < 2 / 100
      · simp only [hsmall, if_true]
        rfl
      · by_cases husable : usablePercent soc threshold ≤ 0
        · have : num (usablePercent soc threshold) ≤ 0 := by
            rw [hzero]
            simp [husable]
          simp only [hsmall, husable, this, if_false, if_true]
          exact hcritical
        · have : ¬ num (usablePercent soc threshold) ≤ 0 := by
            rw [hzero]
            simp [husable]
          have hdiv : num (usablePercent soc threshold) / 100 * num capacity =
              num (usablePercent soc threshold / 100 * capacity) := by
            rw [ofNat_eq, JsNumber.num_div _ _ (by norm_num), JsNumber.num_mul]
            norm_num
          simp only [hsmall, husable, this, if_false, hdiv]

def netLoadKw (load solar : ℚ) : ℚ := max 0 (max 0 load - max 0 solar)

def minutesLeft (usable capacity net : ℚ) : ℚ := roundRat (usable / 100 * capacity / net * 60 * 100) / 100

theorem netLoad_num : netLoad (num load) (num solar) = num (netLoadKw load solar) := by
  simp only [netLoad, ofNat_eq, Nat.cast_zero, JsNumber.num_max, JsNumber.num_sub, netLoadKw]

theorem severity_num :
    severity ⟨num soc, num load, num capacity, num solar, rated⟩ (num threshold) =
      if netLoadKw load solar ≤ 0 then none
      else if capacity ≤ 0 then some .critical
      else if capacity < 2 / 100 then none
      else if usablePercent soc threshold ≤ 0 then some .critical
      else severityOfMinutes (minutesLeft (usablePercent soc threshold) capacity (netLoadKw load solar)) := by
  rw [severity_eq, netLoad_num]
  simp only [ofNat_eq, Nat.cast_zero, Nat.cast_ofNat, JsNumber.num_le, JsNumber.num_lt]
  by_cases hnet : netLoadKw load solar ≤ 0
  · simp [hnet]
  · have hpos : 0 < netLoadKw load solar := not_le.mp hnet
    have hminutes : round2 (num (usablePercent soc threshold / 100 * capacity) / num (netLoadKw load solar) * num 60) =
        num (minutesLeft (usablePercent soc threshold) capacity (netLoadKw load solar)) := by
      rw [JsNumber.num_div _ _ hpos.ne', JsNumber.num_mul, round2_num, minutesLeft]
    simp only [hpos, if_true, hminutes, shouldFireAlert_num]

/-! ## Monotonicity -/

theorem netLoadKw_mono (hload : load ≤ load') (hsolar : solar' ≤ solar) :
    netLoadKw load solar ≤ netLoadKw load' solar' := by
  unfold netLoadKw
  gcongr

theorem usablePercent_mono (hsoc : soc' ≤ soc) (hthreshold : threshold ≤ threshold') :
    usablePercent soc' threshold' ≤ usablePercent soc threshold := by
  unfold usablePercent
  gcongr

theorem minutesLeft_mono {usable usable' net net' : ℚ} (husable : 0 ≤ usable') (hle : usable' ≤ usable)
    (hcapacity : 0 ≤ capacity') (hcle : capacity' ≤ capacity) (hnet : 0 < net) (hnle : net ≤ net') :
    minutesLeft usable' capacity' net' ≤ minutesLeft usable capacity net := by
  have husable' := husable.trans hle
  have hcapacity' := hcapacity.trans hcle
  have hexact : usable' / 100 * capacity' / net' * 60 * 100 ≤ usable / 100 * capacity / net * 60 * 100 := by
    gcongr
  unfold minutesLeft
  have := JsNumber.roundRat_mono hexact
  gcongr

theorem rank_le (fired : Option AlertSeverity) : rank fired ≤ 4 := by
  cases fired with
  | none => decide
  | some severity => cases severity <;> decide

theorem rank_severityOfMinutes {minutes minutes' : ℚ} (h : minutes' ≤ minutes) :
    rank (severityOfMinutes minutes) ≤ rank (severityOfMinutes minutes') := by
  unfold severityOfMinutes
  by_cases h30 : minutes < 30
  · simp [h30, show minutes' < 30 by linarith]
  · by_cases h60 : minutes ≤ 60
    · by_cases h30' : minutes' < 30
      · simp [h30, h60, h30', rank, severityRank]
      · simp [h30, h60, h30', show minutes' ≤ 60 by linarith]
    · simp [h30, h60, rank]

/-- A worse reading is never less alarming. -/
theorem danger_mono (hsoc : soc' ≤ soc) (hload : load ≤ load') (hsolar : solar' ≤ solar)
    (hthreshold : threshold ≤ threshold') :
    rank (severity ⟨num soc, num load, num capacity, num solar, rated⟩ (num threshold)) ≤
      rank (severity ⟨num soc', num load', num capacity, num solar', rated'⟩ (num threshold')) := by
  have hnet := netLoadKw_mono hload hsolar
  have husable := usablePercent_mono hsoc hthreshold
  rw [severity_num, severity_num]
  by_cases h0 : netLoadKw load solar ≤ 0
  · simp [h0, rank]
  · have h0' : ¬ netLoadKw load' solar' ≤ 0 := fun h => h0 (hnet.trans h)
    by_cases hc : capacity ≤ 0
    · simp [h0, h0', hc]
    · by_cases hsmall : capacity < 2 / 100
      · simp [h0, hc, hsmall, rank]
      · by_cases hu' : usablePercent soc' threshold' ≤ 0
        · simp only [h0', hc, hsmall, hu', if_false, if_true]
          exact rank_le _
        · have hu : ¬ usablePercent soc threshold ≤ 0 := fun h => hu' (husable.trans h)
          simp only [h0, h0', hc, hsmall, hu, hu', if_false]
          exact rank_severityOfMinutes
            (minutesLeft_mono (not_le.mp hu').le husable (not_le.mp hc).le le_rfl (not_le.mp h0) hnet)

/-- A battery of 10 kWh, with two hours left and with 28 minutes. -/
theorem danger_mono_draining :
    severity ⟨num 40, num 2, num 10, num (1 / 2), num 5⟩ (num 10) = none ∧
      severity ⟨num 20, num 2, num 10, num (1 / 2), num 5⟩ (num 13) = some .critical ∧
      rank (severity ⟨num 40, num 2, num 10, num (1 / 2), num 5⟩ (num 10)) ≤
        rank (severity ⟨num 20, num 2, num 10, num (1 / 2), num 5⟩ (num 13)) :=
  ⟨by decide +kernel, by decide +kernel, danger_mono (by norm_num) le_rfl le_rfl (by norm_num)⟩

/-! ## Capacities -/

theorem capacity_mono (hc : 2 / 100 ≤ capacity) (hle : capacity ≤ capacity') :
    rank (severity ⟨num soc, num load, num capacity', num solar, rated'⟩ (num threshold)) ≤
      rank (severity ⟨num soc, num load, num capacity, num solar, rated⟩ (num threshold)) := by
  have hpos : 0 < capacity := by linarith
  rw [severity_num, severity_num]
  by_cases h0 : netLoadKw load solar ≤ 0
  · simp [h0]
  · have h1 : ¬ capacity ≤ 0 := not_le.mpr hpos
    have h1' : ¬ capacity' ≤ 0 := not_le.mpr (hpos.trans_le hle)
    have h2 : ¬ capacity < 2 / 100 := not_lt.mpr hc
    have h2' : ¬ capacity' < 2 / 100 := not_lt.mpr (hc.trans hle)
    by_cases hu : usablePercent soc threshold ≤ 0
    · simp [h0, h1, h1', h2, h2', hu]
    · simp only [h0, h1, h1', h2, h2', hu, if_false]
      exact rank_severityOfMinutes (minutesLeft_mono (not_le.mp hu).le le_rfl hpos.le hle (not_le.mp h0) le_rfl)

theorem netLoadKw_nonpos : netLoadKw load solar ≤ 0 ↔ max 0 load ≤ max 0 solar := by
  unfold netLoadKw
  simp

/-- A bigger battery is never more alarming from the cut-off on, a battery
below it raises no alert, and no battery at all counts as an empty one. -/
theorem capacity_severity (soc load solar threshold : ℚ) (rated : JsNumber) :
    (∀ capacity capacity', 2 / 100 ≤ capacity → capacity ≤ capacity' →
      rank (severity ⟨num soc, num load, num capacity', num solar, rated⟩ (num threshold)) ≤
        rank (severity ⟨num soc, num load, num capacity, num solar, rated⟩ (num threshold))) ∧
    (∀ capacity, 0 < capacity → capacity < 2 / 100 →
      severity ⟨num soc, num load, num capacity, num solar, rated⟩ (num threshold) = none) ∧
    ∀ capacity, capacity ≤ 0 →
      severity ⟨num soc, num load, num capacity, num solar, rated⟩ (num threshold) =
        if max 0 load ≤ max 0 solar then none else some .critical := by
  refine ⟨fun capacity capacity' => capacity_mono, fun capacity hpos hsmall => ?_, fun capacity hc => ?_⟩
  · rw [severity_num]
    simp [not_le.mpr hpos, hsmall]
  · rw [severity_num]
    simp [hc, netLoadKw_nonpos]

theorem capacity_severity_half :
    rank (severity ⟨num 50, num 2, num 10, num 0, num 5⟩ (num 10)) ≤
        rank (severity ⟨num 50, num 2, num (1 / 2), num 0, num 5⟩ (num 10)) ∧
      severity ⟨num 50, num 2, num (1 / 100), num 0, num 5⟩ (num 10) = none ∧
      severity ⟨num 50, num 2, num 0, num 0, num 5⟩ (num 10) = some .critical := by
  obtain ⟨hmono, hsmall, hzero⟩ := capacity_severity 50 2 0 10 (num 5)
  refine ⟨hmono (1 / 2) 10 (by norm_num) (by norm_num), hsmall (1 / 100) (by norm_num) (by norm_num), ?_⟩
  rw [hzero 0 le_rfl]
  decide +kernel

/-- An inverter whose capacity has not been configured yet, half full. -/
theorem unconfigured_critical : ¬ ∀ (soc load solar threshold : ℚ) (rated : JsNumber),
    (∀ capacity capacity', 2 / 100 ≤ capacity → capacity ≤ capacity' →
      rank (severity ⟨num soc, num load, num capacity', num solar, rated⟩ (num threshold)) ≤
        rank (severity ⟨num soc, num load, num capacity, num solar, rated⟩ (num threshold))) ∧
    ∀ capacity, capacity < 2 / 100 →
      severity ⟨num soc, num load, num capacity, num solar, rated⟩ (num threshold) = none := by
  intro h
  have := (h 50 2 0 10 (num 5)).2 0 (by norm_num)
  exact absurd this (by decide +kernel)

end IntellApi.Alerts
