import IntellApi.Health
import Mathlib.Tactic.Linarith

/-!
# Better readings and the colour

Each colour of an online system is a condition on its readings
(`status_eq_red`, `status_eq_green`). A higher state of charge never makes the
colour worse. More solar power does in one case: the rule for a low battery
without recovery asks whether the reading is zero, so a small negative reading
that rises to zero turns amber into red.
-/

namespace IntellApi.Health

namespace HealthInput

def critical (input : HealthInput) : ℚ := input.criticalSocThreshold.getD 15

def low (input : HealthInput) : ℚ := input.lowSocThreshold.getD 30

def daytime (input : HealthInput) (now : Int) : Bool := isDaytime (input.localHour.getD (lagosHour now))

end HealthInput

def status (now : Int) (input : HealthInput) : HealthStatus := (computeHealthStatus now input).1

def WorseThan : HealthStatus → HealthStatus → Prop
  | .red, .amber | .red, .green | .amber, .green => True
  | _, _ => False

theorem worseThan_iff {a b : HealthStatus} (ha : a ≠ .grey) (hb : b ≠ .grey) :
    WorseThan a b ↔ a = .red ∧ b ≠ .red ∨ a ≠ .green ∧ b = .green := by
  cases a <;> cases b <;> simp_all [WorseThan]

/-! ## The colours -/

def Red (now : Int) (input : HealthInput) (soc : ℚ) : Prop :=
  soc ≤ input.critical ∨ soc ≤ input.low ∧ input.solarKw = 0 ∧ input.daytime now = true

def SolarLow (now : Int) (input : HealthInput) : Prop :=
  input.daytime now = true ∧ input.panelCapacityKw > 0 ∧ input.solarKw < input.panelCapacityKw * 0.3

def Green (now : Int) (input : HealthInput) (soc : ℚ) : Prop :=
  input.critical < soc ∧ input.low < soc ∧ ¬ SolarLow now input

section
variable {now : Int} {input input' : HealthInput} {soc soc' : ℚ}

theorem status_eq_red (honline : input.systemOffline = false) (hsoc : input.socPercent = some soc) :
    status now input = .red ↔ Red now input soc := by
  unfold status computeHealthStatus Red HealthInput.critical HealthInput.low HealthInput.daytime
  simp only [honline, hsoc]
  grind

theorem status_eq_green (honline : input.systemOffline = false) (hsoc : input.socPercent = some soc) :
    status now input = .green ↔ Green now input soc := by
  unfold status computeHealthStatus Green SolarLow HealthInput.critical HealthInput.low HealthInput.daytime
  simp only [honline, hsoc]
  grind

theorem status_ne_grey (honline : input.systemOffline = false) (hsoc : input.socPercent = some soc) :
    status now input ≠ .grey := by
  unfold status computeHealthStatus
  simp only [honline, hsoc]
  grind

theorem worseThan_status (honline : input.systemOffline = false) (hsoc : input.socPercent = some soc)
    (honline' : input'.systemOffline = false) (hsoc' : input'.socPercent = some soc') :
    WorseThan (status now input') (status now input) ↔
      Red now input' soc' ∧ ¬ Red now input soc ∨ ¬ Green now input' soc' ∧ Green now input soc := by
  rw [worseThan_iff (status_ne_grey honline' hsoc') (status_ne_grey honline hsoc), Ne, Ne,
    status_eq_red honline' hsoc', status_eq_green honline' hsoc', status_eq_red honline hsoc,
    status_eq_green honline hsoc]

/-! ## Better readings -/

theorem raised_soc (honline : input.systemOffline = false) (hsoc : input.socPercent = some soc) (h : soc ≤ soc') :
    ¬ WorseThan (status now { input with socPercent := some soc' }) (status now input) := by
  rw [worseThan_status honline hsoc (by exact honline) rfl]
  rintro (⟨hr, hn⟩ | ⟨hn, hg⟩)
  · exact hn (hr.imp h.trans fun hl => ⟨h.trans hl.1, hl.2⟩)
  · exact hn ⟨hg.1.trans_le h, hg.2.1.trans_le h, hg.2.2⟩

/-- A low battery in daylight whose solar reading comes up to zero from below. -/
def ToZero (now : Int) (input : HealthInput) (soc solarKw : ℚ) : Prop :=
  input.solarKw < 0 ∧ solarKw = 0 ∧ input.critical < soc ∧ soc ≤ input.low ∧ input.daytime now = true

theorem raised_solar {solarKw : ℚ} (honline : input.systemOffline = false) (hsoc : input.socPercent = some soc)
    (h : input.solarKw ≤ solarKw) :
    WorseThan (status now { input with solarKw }) (status now input) ↔ ToZero now input soc solarKw := by
  rw [worseThan_status honline hsoc (by exact honline) (by exact hsoc)]
  constructor
  · rintro (⟨hr, hn⟩ | ⟨hn, hg⟩)
    · rw [Red, not_or] at hn
      obtain ⟨hl, h0, hd⟩ := hr.resolve_left hn.1
      have hne : input.solarKw ≠ 0 := fun h0' => hn.2 ⟨hl, h0', hd⟩
      exact ⟨lt_of_le_of_ne (h.trans_eq h0) hne, h0, not_le.mp hn.1, hl, hd⟩
    · refine absurd ⟨hg.1, hg.2.1, ?_⟩ hn
      exact fun hs => hg.2.2 ⟨hs.1, hs.2.1, h.trans_lt hs.2.2⟩
  · rintro ⟨hneg, h0, hc, hl, hd⟩
    refine .inl ⟨.inr ⟨hl, h0, hd⟩, ?_⟩
    rintro (hc' | ⟨-, h0', -⟩)
    · exact absurd hc' (not_le.mpr hc)
    · exact absurd h0' hneg.ne

end

/-- Better readings never give a worse colour, the rise of a low battery's solar reading to zero apart. -/
theorem health_keeps_up (now : Int) (input : HealthInput) (soc : ℚ) (honline : input.systemOffline = false)
    (hsoc : input.socPercent = some soc) :
    (∀ soc', soc ≤ soc' →
      ¬ WorseThan (computeHealthStatus now { input with socPercent := some soc' }).1 (computeHealthStatus now input).1) ∧
    ∀ solarKw, input.solarKw ≤ solarKw →
      (¬ WorseThan (computeHealthStatus now { input with solarKw }).1 (computeHealthStatus now input).1 ↔
        ¬ ToZero now input soc solarKw) :=
  ⟨fun _ h => raised_soc honline hsoc h, fun _ h => not_congr (raised_solar honline hsoc h)⟩

/-- At noon, with a sensor that reads a little below zero. -/
def sensorOffset : HealthInput := ⟨some 25, -1 / 100, 5, false, some 12, none, none⟩

theorem health_keeps_up_noon :
    (∀ soc', 25 ≤ soc' → ¬ WorseThan (computeHealthStatus 0 { sensorOffset with socPercent := some soc' }).1
      (computeHealthStatus 0 sensorOffset).1) ∧
    ∀ solarKw, sensorOffset.solarKw ≤ solarKw →
      (¬ WorseThan (computeHealthStatus 0 { sensorOffset with solarKw }).1 (computeHealthStatus 0 sensorOffset).1 ↔
        ¬ ToZero 0 sensorOffset 25 solarKw) :=
  health_keeps_up 0 sensorOffset 25 rfl rfl

theorem worse_at_zero : ¬ ∀ (now : Int) (input : HealthInput) (soc : ℚ), input.systemOffline = false →
    input.socPercent = some soc →
    (∀ soc', soc ≤ soc' →
      ¬ WorseThan (computeHealthStatus now { input with socPercent := some soc' }).1 (computeHealthStatus now input).1) ∧
    ∀ solarKw, input.solarKw ≤ solarKw →
      ¬ WorseThan (computeHealthStatus now { input with solarKw }).1 (computeHealthStatus now input).1 := by
  intro h
  refine (h 0 sensorOffset 25 rfl rfl).2 0 (by decide +kernel) ?_
  have hred : (computeHealthStatus 0 { sensorOffset with solarKw := 0 }).1 = .red := by decide +kernel
  have hamber : (computeHealthStatus 0 sensorOffset).1 = .amber := by decide +kernel
  rw [hred, hamber]
  trivial

end IntellApi.Health
