import IntellApi.MetricEventsSound
import IntellApi.MockInverterServer
import Mathlib.Data.List.Nodup
import Mathlib.Tactic.NormNum
import Mathlib.Tactic.Linarith

/-!
# From the mock server's devices to the stored rows

Whatever is drawn and asked for, each device's figures stay in their ranges. So
the text of each figure, read by the adapter, is that figure to half of its
last decimal, and a row holds what was read, unless the time to go has seven
digits.
-/

namespace IntellApi.MockInverterServer

open InverterAdapters JsNumber MetricEvents

variable {exp : ℚ → ℚ} {number : Json → JsNumber} {devices devices' : Devices} {device d : DeviceState} {a : Action}
  {now : Int} {string : ℚ → List Char}

/-! ## Ranges -/

/-- The bounds of a device's figures; the last one is in whole minutes. -/
structure InRange (d : DeviceState) : Prop where
  panelCapacityKw : 3 ≤ d.panelCapacityKw ∧ d.panelCapacityKw ≤ 5
  batterySoc : 0 ≤ d.batterySoc ∧ d.batterySoc ≤ 100
  batteryVoltageV : 44 ≤ d.batteryVoltageV ∧ d.batteryVoltageV ≤ 58
  batteryCurrentA : -60 ≤ d.batteryCurrentA ∧ d.batteryCurrentA ≤ 60
  batteryTemperatureC : 20 ≤ d.batteryTemperatureC ∧ d.batteryTemperatureC ≤ 50
  inverterTemperatureC : 25 ≤ d.inverterTemperatureC ∧ d.inverterTemperatureC ≤ 65
  solarPowerKw : 0 ≤ d.solarPowerKw ∧ d.solarPowerKw ≤ d.panelCapacityKw
  acOutputPowerKw : 0.3 ≤ d.acOutputPowerKw ∧ d.acOutputPowerKw ≤ 4
  gridVoltageV : 220 ≤ d.gridVoltageV ∧ d.gridVoltageV ≤ 240
  gridFrequencyHz : 49.5 ≤ d.gridFrequencyHz ∧ d.gridFrequencyHz ≤ 50.5
  batteryCapacityKwh : 0 < d.batteryCapacityKwh
  batteryTimeToGoMin : 0 ≤ d.batteryTimeToGoMin ∧ ∃ n : Int, d.batteryTimeToGoMin = n
  inverterStatus : d.inverterStatus = if d.batterySoc < 5 then "fault" else "normal"

theorem clamp_mem {lo hi : ℚ} (x : ℚ) (h : lo ≤ hi) : lo ≤ clamp x lo hi ∧ clamp x lo hi ≤ hi :=
  ⟨le_max_left .., max_le h (min_le_left ..)⟩

theorem timeToGo_spec {soc capacityKwh : ℚ} (net : ℚ) (hs : 0 ≤ soc) (hc : 0 < capacityKwh) :
    0 ≤ timeToGo soc capacityKwh net ∧ ∃ n : Int, timeToGo soc capacityKwh net = n := by
  unfold timeToGo
  split
  · exact ⟨by norm_num, 9999, by norm_num⟩
  · rename_i hn
    have hp : 0 ≤ soc / 100 * capacityKwh / net * 60 := by
      have : 0 < net := not_le.mp hn
      positivity
    exact ⟨by exact_mod_cast roundRat_nonneg hp, _, rfl⟩

/-- A device always draws some power, so it is never in standby. -/
theorem inverterStatus_of_load {soc solar load : ℚ} (h : 0.3 ≤ load) :
    inverterStatus soc solar load = if soc < 5 then "fault" else "normal" := by
  have : ¬(solar < 0.05 ∧ load < 0.2) := by
    rintro ⟨-, hl⟩
    norm_num at h hl
    linarith
  rw [inverterStatus, if_neg this]

theorem powers_mem (exp : ℚ → ℚ) (now : Int) (draws : Draws) (h : 0 ≤ d.panelCapacityKw) :
    (0 ≤ (powers exp now draws d).1 ∧ (powers exp now draws d).1 ≤ d.panelCapacityKw) ∧
      0.3 ≤ (powers exp now draws d).2 ∧ (powers exp now draws d).2 ≤ 4 := by
  unfold powers
  cases d.mode with
  | charging =>
    have hl := clamp_mem (0.8 + noise 0.15 draws.load) (show (0.3 : ℚ) ≤ 1.2 by norm_num)
    exact ⟨clamp_mem _ h, hl.1, hl.2.trans (by norm_num)⟩
  | discharging =>
    have hl := clamp_mem (3.2 + noise 0.3 draws.load) (show (2.5 : ℚ) ≤ 4 by norm_num)
    exact ⟨⟨le_refl _, h⟩, le_trans (by norm_num) hl.1, hl.2⟩
  | normal => exact ⟨clamp_mem _ h, clamp_mem _ (by norm_num)⟩

theorem revert_frame (now : Int) (d : DeviceState) :
    (revert now d).panelCapacityKw = d.panelCapacityKw ∧ (revert now d).batteryCapacityKwh = d.batteryCapacityKwh ∧
      (revert now d).batterySoc = d.batterySoc ∧ (revert now d).installationId = d.installationId := by
  unfold revert
  split <;> exact ⟨rfl, rfl, rfl, rfl⟩

theorem inRange_tickDevice (draws : Draws) (hp : 3 ≤ d.panelCapacityKw ∧ d.panelCapacityKw ≤ 5)
    (hc : 0 < d.batteryCapacityKwh) : InRange (tickDevice exp now draws d) := by
  obtain ⟨hpc, hbc, -, -⟩ := revert_frame now d
  have hw := powers_mem exp now draws (d := revert now d) (by rw [hpc]; linarith [hp.1])
  have hs : ∀ net, 0 ≤ socAfter (revert now d) net ∧ socAfter (revert now d) net ≤ 100 :=
    fun net => clamp_mem _ (by norm_num)
  exact {
    panelCapacityKw := hpc ▸ hp
    batterySoc := hs _
    batteryVoltageV := clamp_mem _ (by norm_num)
    batteryCurrentA := clamp_mem _ (by norm_num)
    batteryTemperatureC := clamp_mem _ (by norm_num)
    inverterTemperatureC := clamp_mem _ (by norm_num)
    solarPowerKw := hw.1
    acOutputPowerKw := hw.2
    gridVoltageV := clamp_mem _ (by norm_num)
    gridFrequencyHz := clamp_mem _ (by norm_num)
    batteryCapacityKwh := hbc ▸ hc
    batteryTimeToGoMin := timeToGo_spec _ (hs _).1 (hbc ▸ hc)
    inverterStatus := inverterStatus_of_load hw.2.1 }

theorem InRange.overridden (h : InRange d) (mode : DeviceMode) (minutes : ℚ) (now : Int) :
    InRange (overridden mode minutes now d) := by
  cases mode <;> exact { h with }

theorem inRange_init : ∀ d ∈ init, InRange d := by
  intro d hd
  simp only [init, List.mem_cons, List.not_mem_nil, or_false] at hd
  rcases hd with rfl | rfl | rfl
  all_goals
    constructor <;> first
      | (constructor <;> norm_num [siteA, siteB, siteC] <;> exact ⟨_, (Int.cast_ofNat _).symm⟩)
      | norm_num [siteA, siteB, siteC]

/-! ## Every run -/

theorem forall_modify {α : Type} {P : α → Prop} {l : List α} {f : α → α} (i : Nat) (h : ∀ x ∈ l, P x)
    (hf : ∀ x, P x → P (f x)) : ∀ x ∈ l.modify i f, P x := by
  intro x hx
  obtain ⟨j, hj⟩ := List.mem_iff_getElem?.mp hx
  rw [List.getElem?_modify] at hj
  obtain ⟨y, hy, rfl⟩ := Option.map_eq_some_iff.mp hj
  have hP := h y (List.mem_of_getElem? hy)
  split
  · exact hf y hP
  · exact hP

theorem map_modify_same {α β : Type} (g : α → β) {f : α → α} (hf : ∀ x, g (f x) = g x) (l : List α) (i : Nat) :
    (l.modify i f).map g = l.map g := by
  apply List.ext_getElem?
  intro j
  rw [List.getElem?_map, List.getElem?_modify, List.getElem?_map]
  cases l[j]? with
  | none => rfl
  | some x =>
    simp only [Option.map_eq_map, Option.map_some]
    split
    · rw [hf]
    · rfl

theorem overridden_id (mode : DeviceMode) (minutes : ℚ) (now : Int) (d : DeviceState) :
    (overridden mode minutes now d).installationId = d.installationId := by cases mode <;> rfl

/-- An override changes the modes alone, and a refused one nothing at all. -/
theorem handleOverride_devices (number : Json → JsNumber) (mode : DeviceMode) (devices : Devices) (id : String)
    (body : Option Json) (now : Int) :
    (handleOverride number mode devices id body now).1 =
      match duration number mode body with
      | none => devices
      | some minutes => setDeviceMode devices id mode minutes now := by
  unfold handleOverride
  cases duration number mode body with
  | none => rfl
  | some minutes =>
    dsimp only
    split <;> rfl

theorem tickDevice_id (draws : Draws) (d : DeviceState) :
    (tickDevice exp now draws d).installationId = d.installationId := (revert_frame now d).2.2.2

structure Inv (devices : Devices) : Prop where
  ids : devices.map (·.installationId) = ["100001", "100002", "100003"]
  inRange : ∀ d ∈ devices, InRange d

theorem inv_step (h : Inv devices) (hs : step exp number devices a = some devices') : Inv devices' := by
  cases a with
  | tick now draws =>
    cases hs
    constructor
    · rw [← h.ids]
      simp only [tick, List.map_map]
      exact List.map_congr_left fun d _ => tickDevice_id ..
    · intro d hd
      obtain ⟨e, he, rfl⟩ := List.mem_map.mp hd
      exact inRange_tickDevice _ (h.inRange e he).panelCapacityKw (h.inRange e he).batteryCapacityKwh
  | override mode id body now =>
    cases hs
    rw [handleOverride_devices]
    split
    · exact h
    · rename_i minutes hm
      exact ⟨(map_modify_same _ (overridden_id mode minutes now) ..).trans h.ids,
        forall_modify _ h.inRange fun d hd => hd.overridden ..⟩

theorem inv_of_reach (h : (machine exp number).Reach Lts.Free devices) : Inv devices :=
  h.inv ⟨rfl, inRange_init⟩ fun _ _ _ hi _ hs => inv_step hi hs

/-! ## What the adapter reads -/

/-- The figure as `toFixed` prints it. -/
def Shown (decimals : Nat) (value : ℚ) (x : Option JsNumber) : Prop :=
  x = some (num (toFixedRat decimals value)) ∧ |toFixedRat decimals value - value| ≤ 1 / 2 / 10 ^ decimals

/-- A unit has no character of a numeral. -/
def UnitText (unit : String) : Prop := ∀ c ∈ unit.toList, isNumeral c = false

theorem toFixedText_ne_nil (k : Nat) (q : ℚ) : toFixedText k q ≠ [] := by
  have hne : ∀ n, decimalText k n ≠ [] := fun n h => by
    obtain ⟨c, cs, he, -⟩ := head_decimalText k n []
    rw [h] at he
    cases he
  unfold toFixedText
  split
  · exact List.cons_ne_nil _ _
  · exact hne _

theorem getFloat_formatted {records : List DiagnosticAttribute} {code unit : String} {k : Nat} {q : ℚ}
    (h : records.find? (·.code = code) = some (formatted string code k q unit)) (hq : |q| < 10 ^ 21)
    (hu : UnitText unit) : Shown k q (getFloat records code) := by
  refine ⟨?_, abs_toFixedRat_sub k q⟩
  have hs : getString records code = some (String.ofList (toFixedText k q ++ unit.toList)) := by
    rw [getString, h, formatted, toFixedString, if_pos hq]
    rfl
  have hne : String.ofList (toFixedText k q ++ unit.toList) ≠ "" := by
    intro he
    have := congrArg String.toList he
    rw [String.toList_ofList] at this
    exact toFixedText_ne_nil k q (List.append_eq_nil_iff.mp this).1
  have hp := parse_toFixedText k hq ends_nil
  rw [List.append_nil] at hp
  unfold getFloat
  rw [hs, given, Option.filter_some, if_pos (decide_eq_true hne)]
  simp only [String.toList_ofList, filter_toFixedText k q hu, hp]

/-- The figures of a reading are the device's, each to half of its last decimal. -/
structure Reads (d : DeviceState) (metric : FetchedMetric) : Prop where
  batterySoc : Shown 1 d.batterySoc metric.batterySoc
  batteryVoltageV : Shown 2 d.batteryVoltageV metric.batteryVoltageV
  batteryCurrentA : Shown 1 d.batteryCurrentA metric.batteryCurrentA
  batteryTemperatureC : Shown 1 d.batteryTemperatureC metric.batteryTemperatureC
  batteryTimeToGoMin : Shown 0 d.batteryTimeToGoMin metric.batteryTimeToGoMin
  solarPowerKw : Shown 2 d.solarPowerKw metric.solarPowerKw
  acOutputPowerKw : Shown 2 d.acOutputPowerKw metric.acOutputPowerKw
  gridVoltageV : Shown 1 d.gridVoltageV metric.gridVoltageV
  gridFrequencyHz : Shown 2 d.gridFrequencyHz metric.gridFrequencyHz
  inverterTemperatureC : Shown 1 d.inverterTemperatureC metric.inverterTemperatureC
  inverterStatus : metric.inverterStatus = d.inverterStatus

theorem UnitText.of_toList {unit : String} {text : List Char} (h : unit.toList = text)
    (ht : (text.all fun c => !isNumeral c) = true) : UnitText unit := by
  intro c hc
  rw [h] at hc
  simpa using List.all_eq_true.mp ht c hc

theorem abs_lt_of_mem {lo hi q : ℚ} (h : lo ≤ q ∧ q ≤ hi) (h0 : -1000 ≤ lo) (h1 : hi ≤ 1000) : |q| < 10 ^ 21 :=
  abs_lt.mpr ⟨by linarith [h.1], by linarith [h.2]⟩

theorem reads_records (h : InRange d) (ht : d.batteryTimeToGoMin < 10 ^ 21) (brand : InverterBrand) (inverterId : Uuid)
    (now : Int) : Reads d (readDiagnostics (records string d) brand inverterId now) := by
  have hpercent : UnitText "%" := .of_toList rfl rfl
  have hvolt : UnitText "V" := .of_toList rfl rfl
  have hampere : UnitText "A" := .of_toList rfl rfl
  have hcelsius : UnitText "°C" := .of_toList rfl rfl
  have hmin : UnitText "min" := .of_toList rfl rfl
  have hkw : UnitText "kW" := .of_toList rfl rfl
  have hhertz : UnitText "Hz" := .of_toList rfl rfl
  have hpanel := h.solarPowerKw.2.trans h.panelCapacityKw.2
  constructor
  · exact getFloat_formatted rfl (abs_lt_of_mem h.batterySoc (by norm_num) (by norm_num)) hpercent
  · exact getFloat_formatted rfl (abs_lt_of_mem h.batteryVoltageV (by norm_num) (by norm_num)) hvolt
  · exact getFloat_formatted rfl (abs_lt_of_mem h.batteryCurrentA (by norm_num) (by norm_num)) hampere
  · exact getFloat_formatted rfl (abs_lt_of_mem h.batteryTemperatureC (by norm_num) (by norm_num)) hcelsius
  · exact getFloat_formatted rfl (abs_lt.mpr ⟨by linarith [h.batteryTimeToGoMin.1], ht⟩) hmin
  · exact getFloat_formatted rfl (abs_lt_of_mem ⟨h.solarPowerKw.1, hpanel⟩ (by norm_num) (by norm_num)) hkw
  · exact getFloat_formatted rfl (abs_lt_of_mem h.acOutputPowerKw (by norm_num) (by norm_num)) hkw
  · exact getFloat_formatted rfl (abs_lt_of_mem h.gridVoltageV (by norm_num) (by norm_num)) hvolt
  · exact getFloat_formatted rfl (abs_lt_of_mem h.gridFrequencyHz (by norm_num) (by norm_num)) hhertz
  · exact getFloat_formatted rfl (abs_lt_of_mem h.inverterTemperatureC (by norm_num) (by norm_num)) hcelsius
  · rfl

/-! ## What the row keeps -/

theorem twoDecimals_toFixedRat {k : Nat} (hk : k ≤ 2) (q : ℚ) : TwoDecimals (num (toFixedRat k q)) := by
  have key : ∀ n : Int, TwoDecimals (num (n / 10 ^ k)) := by
    intro n
    obtain ⟨m, hm⟩ := Nat.exists_eq_add_of_le hk
    refine ⟨n * 10 ^ m, congrArg num ?_⟩
    have hp : (10 : ℚ) ^ 2 = 10 ^ k * 10 ^ m := by rw [← pow_add, ← hm]
    push_cast
    rw [hp]
    field_simp
  unfold toFixedRat
  split
  · have := key (-roundRat (-q * 10 ^ k))
    push_cast at this
    exact this
  · exact key _

theorem Shown.fits {k : Nat} {q : ℚ} {x : Option JsNumber} (h : Shown k q x) (hk : k ≤ 2) : Fits x := by
  intro y hy
  rw [h.1, Option.some.injEq] at hy
  exact hy ▸ twoDecimals_toFixedRat hk q

/-- A figure of three digits fits each of the columns, with the half decimal that rounding may add. -/
theorem Shown.decimal {k p : Nat} {lo hi q : ℚ} {x : Option JsNumber} (h : Shown k q x) (hk : k ≤ 2)
    (hp : 5 ≤ p) (hq : lo ≤ q ∧ q ≤ hi) (h0 : -500 ≤ lo) (h1 : hi ≤ 500) :
    MetricEvents.decimal p 2 (x.getD 0) = some (x.getD 0) ∧ nullable p 2 x = some x := by
  obtain ⟨n, hn⟩ := h.fits hk _ h.1
  have hle : (1 : ℚ) / 2 / 10 ^ k ≤ 1 / 2 := div_le_self (by norm_num) (one_le_pow₀ (by norm_num))
  have he := abs_le.mp (h.2.trans hle)
  have hb : (10 : ℚ) ^ 3 ≤ 10 ^ (p - 2) := pow_le_pow_right₀ (by norm_num) (by omega)
  have hd : MetricEvents.decimal p 2 (num (toFixedRat k q)) = some (num (toFixedRat k q)) :=
    decimal_ok n (num.inj hn) (by linarith [hq.1]) (by linarith [hq.2])
  rw [h.1]
  exact ⟨hd, by rw [nullable, hd, Option.map_some]⟩

theorem toFixedRat_zero_int (n : Int) (h : 0 ≤ (n : ℚ)) : toFixedRat 0 n = n := by
  unfold toFixedRat
  rw [if_neg (not_lt.mpr h), pow_zero, mul_one, div_one, roundRat_int]

theorem decimal_minutes {q : ℚ} (hq : 0 ≤ q ∧ ∃ n : Int, q = n) :
    MetricEvents.decimal 8 2 (num (toFixedRat 0 q)) = if q < 10 ^ 6 then some (num (toFixedRat 0 q)) else none := by
  obtain ⟨h0, n, rfl⟩ := hq
  rw [toFixedRat_zero_int n h0]
  have hn : (n : ℚ) = ((n * 100 : Int) : ℚ) / 10 ^ 2 := by
    push_cast
    norm_num
  split
  · rename_i hlt
    exact decimal_ok (n * 100) hn (by norm_num; linarith) hlt
  · rename_i hge
    rw [hn]
    simp only [MetricEvents.decimal, toFixedRat_two]
    rw [← hn]
    exact if_neg fun h => hge h.2

theorem find_of_mem (h : devices.map (·.installationId) = ["100001", "100002", "100003"]) (hd : d ∈ devices) :
    getDeviceByInstallationId devices d.installationId = some d := by
  have hn : (devices.map (·.installationId)).Nodup := by rw [h]; decide
  unfold getDeviceByInstallationId
  cases hf : devices.find? (·.installationId = d.installationId) with
  | none => exact absurd hd fun hd => by simpa using List.find?_eq_none.mp hf d hd
  | some e =>
    have he : e.installationId = d.installationId := by simpa using List.find?_some hf
    exact congrArg some (List.inj_on_of_nodup_map hn (List.mem_of_find?_eq_some hf) hd he)

theorem reading_fits {metric : FetchedMetric} (h : Reads d metric) : FiguresFit metric.toNormalisedMetric where
  solarPowerKw := h.solarPowerKw.fits (by decide)
  acOutputPowerKw := h.acOutputPowerKw.fits (by decide)
  gridVoltageV := h.gridVoltageV.fits (by decide)
  gridFrequencyHz := h.gridFrequencyHz.fits (by decide)
  batterySoc := h.batterySoc.fits (by decide)
  batteryVoltageV := h.batteryVoltageV.fits (by decide)
  batteryCurrentA := h.batteryCurrentA.fits (by decide)
  batteryTemperatureC := h.batteryTemperatureC.fits (by decide)
  batteryTimeToGoMin := h.batteryTimeToGoMin.fits (by decide)
  inverterTemperatureC := h.inverterTemperatureC.fits (by decide)

theorem fault_or_normal (h : InRange d) : d.inverterStatus = "fault" ∨ d.inverterStatus = "normal" := by
  rw [h.inverterStatus]
  split
  · exact .inl rfl
  · exact .inr rfl

theorem varchar_status (h : InRange d) : varchar 50 d.inverterStatus = some d.inverterStatus := by
  rcases fault_or_normal h with hs | hs <;> rw [hs] <;> exact if_pos (by decide)

/-- What is saved of a reading in its ranges: nothing is refused but a time to go of seven digits. -/
theorem save_isSome {metric : FetchedMetric} (h : InRange d) (hr : Reads d metric)
    (hrec : metric.recordedAt = IsoDate.toISOString now) (h0 : minTimestamp ≤ now) (h1 : now ≤ IsoDate.maxTime) :
    (save metric.toNormalisedMetric).isSome = true ↔ d.batteryTimeToGoMin < 10 ^ 6 := by
  have hpanel := h.solarPowerKw.2.trans h.panelCapacityKw.2
  have hsolar := (hr.solarPowerKw.decimal (p := 10) (by decide) (by decide) ⟨h.solarPowerKw.1, hpanel⟩
    (by norm_num) (by norm_num)).1
  have hsoc := (hr.batterySoc.decimal (p := 5) (by decide) (by decide) h.batterySoc (by norm_num)
    (by norm_num)).1
  have hload := (hr.acOutputPowerKw.decimal (p := 10) (by decide) (by decide) h.acOutputPowerKw (by norm_num)
    (by norm_num)).1
  have hgv := (hr.gridVoltageV.decimal (p := 10) (by decide) (by decide) h.gridVoltageV (by norm_num)
    (by norm_num)).2
  have hgf := (hr.gridFrequencyHz.decimal (p := 5) (by decide) (by decide) h.gridFrequencyHz (by norm_num)
    (by norm_num)).2
  have hbv := (hr.batteryVoltageV.decimal (p := 10) (by decide) (by decide) h.batteryVoltageV (by norm_num)
    (by norm_num)).2
  have hbc := (hr.batteryCurrentA.decimal (p := 10) (by decide) (by decide) h.batteryCurrentA (by norm_num)
    (by norm_num)).2
  have hbt := (hr.batteryTemperatureC.decimal (p := 5) (by decide) (by decide) h.batteryTemperatureC
    (by norm_num) (by norm_num)).2
  have hit := (hr.inverterTemperatureC.decimal (p := 5) (by decide) (by decide) h.inverterTemperatureC
    (by norm_num) (by norm_num)).2
  have hst := varchar_status h
  rw [← hr.inverterStatus] at hst
  have hparse : IsoDate.parse metric.recordedAt = some now := by
    rw [hrec]
    exact IsoDate.parse_toISOString (le_trans (by decide) h0) h1
  have hts : timestamptz now = some now := if_pos h0
  simp only [save, hsolar, hsoc, hload, hgv, hgf, hbv, hbc, hbt, hit, hst, hparse, hts, Option.bind_eq_bind,
    Option.bind_some, Option.pure_def]
  rw [hr.batteryTimeToGoMin.1, nullable, decimal_minutes h.batteryTimeToGoMin]
  split
  · rename_i hlt
    exact ⟨fun _ => hlt, fun _ => rfl⟩
  · rename_i hge
    exact ⟨fun hf => absurd hf Bool.false_ne_true, fun hlt => absurd hlt hge⟩

/-- The row of a reading shows just this reading. -/
theorem snapshot_eq {metric : FetchedMetric} {row : InvertersMetrics} (h : InRange d) (hr : Reads d metric)
    (hb : metric.inverterBrand = .sandbox) (hrec : metric.recordedAt = IsoDate.toISOString now)
    (h0 : -IsoDate.maxTime ≤ now) (h1 : now ≤ IsoDate.maxTime) (hs : save metric.toNormalisedMetric = some row) :
    snapshot row .sandbox = metric.toNormalisedMetric := by
  have hw := saved_of_save hs
  have hf := reading_fits hr
  obtain ⟨status, hstatus, hrow⟩ := hw.inverterStatus
  rw [hr.inverterStatus, varchar_status h, Option.some.injEq] at hstatus
  have ht : IsoDate.toISOString row.metricTimestamp = metric.recordedAt := by
    have hp := hw.metricTimestamp
    rw [hrec, IsoDate.parse_toISOString h0 h1, Option.some.injEq] at hp
    rw [← hp, hrec]
  have key : ∀ {k precision : Nat} {q : ℚ} {x : Option JsNumber} {y : JsNumber}, Shown k q x → k ≤ 2 →
      MetricEvents.decimal precision 2 (x.getD 0) = some y → some y = x := by
    intro k precision q x y hx hk hd
    rw [hx.1] at hd ⊢
    rw [decimal_two (twoDecimals_toFixedRat hk q) hd]
  unfold snapshot
  rw [hw.inverterId, ht, hrow, ← hstatus, key hr.solarPowerKw (by decide) hw.solarGenKw,
    key hr.batterySoc (by decide) hw.batterySocPercent, key hr.acOutputPowerKw (by decide) hw.loadKw,
    nullable_two hf.gridVoltageV hw.gridVoltageV, nullable_two hf.gridFrequencyHz hw.gridFrequencyHz,
    nullable_two hf.batteryVoltageV hw.batteryVoltageV, nullable_two hf.batteryCurrentA hw.batteryCurrentA,
    nullable_two hf.batteryTemperatureC hw.batteryTemperatureC,
    nullable_two hf.batteryTimeToGoMin hw.batteryTimeToGoMin,
    nullable_two hf.inverterTemperatureC hw.inverterTemperatureC, Option.getD_some, ← hb, ← hr.inverterStatus]

/-- Whatever has been drawn and asked for: the sandbox's adapter reads each
device's figures to half of their last decimal, the reading is saved as long as
the time to go has six digits, and the row and the channel give it back. -/
theorem sandbox_reading_stored (h : (machine exp number).Reach Lts.Free devices) (hd : d ∈ devices) {token : String}
    (htoken : token ≠ "") (ht : d.batteryTimeToGoMin < 10 ^ 21) (inverterId : Uuid) (h0 : minTimestamp ≤ now)
    (h1 : now ≤ IsoDate.maxTime) :
    ∃ metric, SandboxAdapter.fetchMetrics d.installationId inverterId now
        (diagnostics string devices token d.installationId) = .ok metric ∧ Reads d metric ∧
      ((save metric.toNormalisedMetric).isSome = true ↔ d.batteryTimeToGoMin < 10 ^ 6) ∧
      viaJson metric.toNormalisedMetric = metric.toNormalisedMetric ∧
      ∀ row, save metric.toNormalisedMetric = some row → snapshot row .sandbox = metric.toNormalisedMetric := by
  have hi := inv_of_reach h
  have hr := hi.inRange d hd
  have hreads : Reads d (readDiagnostics (records string d) .sandbox inverterId now) := reads_records hr ht ..
  refine ⟨readDiagnostics (records string d) .sandbox inverterId now, ?_, hreads, ?_, ?_, fun row hs => ?_⟩
  · rw [diagnostics, if_neg htoken, find_of_mem hi.ids hd]
    rfl
  · exact save_isSome hr hreads rfl h0 h1
  · exact viaJson_eq (reading_fits hreads)
  · exact snapshot_eq hr hreads rfl rfl (le_trans (by decide) h0) h1 hs

theorem sandbox_reading_stored_siteA : ∃ metric row,
    SandboxAdapter.fetchMetrics "100001" 7 0 (diagnostics (fun _ => []) init "mock-token-a" "100001") = .ok metric ∧
      save metric.toNormalisedMetric = some row ∧ snapshot row .sandbox = metric.toNormalisedMetric := by
  have hr : (machine (fun _ => 0) fun _ => .nan).Reach Lts.Free init := .refl
  obtain ⟨metric, hf, -, hs, -, hrow⟩ := @sandbox_reading_stored _ _ _ siteA 0 (fun _ => []) hr List.mem_cons_self
    "mock-token-a" (by decide) (by norm_num [siteA]) 7 (by decide) (by decide)
  obtain ⟨row, hsave⟩ := Option.isSome_iff_exists.mp (hs.mpr (by norm_num [siteA]))
  exact ⟨metric, row, hf, hsave, hrow row hsave⟩

end IntellApi.MockInverterServer
