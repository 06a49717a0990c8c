import IntellApi.MetricEvents

/-!
# The snapshot and the live event of a reading

What fits its column comes back as it was. A missing figure stays missing on
the channel, but three columns of the row have no null, and `0` is written
there: these three figures, and a status that is cut off, make the difference.
-/

namespace IntellApi.MetricEvents

open IsoDate JsNumber

/-! ## What comes back from a column -/

def TwoDecimals (x : JsNumber) : Prop := ∃ n : Int, x = num (n / 10 ^ 2)

def Fits (x : Option JsNumber) : Prop := ∀ y, x = some y → TwoDecimals y

structure FiguresFit (metric : NormalisedMetric) : Prop where
  solarPowerKw : Fits metric.solarPowerKw
  acOutputPowerKw : Fits metric.acOutputPowerKw
  gridVoltageV : Fits metric.gridVoltageV
  gridFrequencyHz : Fits metric.gridFrequencyHz
  batterySoc : Fits metric.batterySoc
  batteryVoltageV : Fits metric.batteryVoltageV
  batteryCurrentA : Fits metric.batteryCurrentA
  batteryTemperatureC : Fits metric.batteryTemperatureC
  batteryTimeToGoMin : Fits metric.batteryTimeToGoMin
  inverterTemperatureC : Fits metric.inverterTemperatureC

def IsIso (s : String) : Prop := ∃ t, -maxTime ≤ t ∧ t ≤ maxTime ∧ s = toISOString t

section
variable {precision : Nat} {x y : JsNumber} {s s' : String}

theorem roundRat_int (n : Int) : roundRat n = n := by
  unfold roundRat
  rw [Int.floor_eq_iff]
  constructor <;> linarith

theorem toFixedRat_two (n : Int) : toFixedRat 2 (n / 10 ^ 2) = n / 10 ^ 2 := by
  have h1 : (n / 10 ^ 2 : ℚ) * 10 ^ 2 = (n : ℚ) := by norm_num
  have h2 : -(n / 10 ^ 2 : ℚ) * 10 ^ 2 = ((-n : Int) : ℚ) := by
    push_cast
    norm_num
  unfold toFixedRat
  rw [h1, h2, roundRat_int, roundRat_int]
  split
  · push_cast
    rw [neg_neg]
  · rfl

theorem decimal_two (h : TwoDecimals x) (hd : decimal precision 2 x = some y) : y = x := by
  obtain ⟨n, rfl⟩ := h
  simp only [decimal, toFixedRat_two, Option.ite_none_right_eq_some, Option.some.injEq] at hd
  exact hd.2.symm

theorem nullable_two {x y : Option JsNumber} (h : Fits x) (hd : nullable precision 2 x = some y) : y = x := by
  cases x with
  | none => exact (Option.some.inj hd).symm
  | some x =>
    obtain ⟨z, hz, rfl⟩ := Option.map_eq_some_iff.mp hd
    rw [decimal_two (h x rfl) hz]

theorem jsonNumber_two {x : Option JsNumber} (h : Fits x) : jsonNumber x = x := by
  cases x with
  | none => rfl
  | some x =>
    obtain ⟨n, rfl⟩ := h x rfl
    rfl

/-- Exactly the texts that are not too long come back as they were. -/
theorem varchar_eq {n : Nat} (h : varchar n s = some s') : s' = s ↔ s.toList.length ≤ n := by
  unfold varchar at h
  split at h
  · rename_i hle
    cases h
    exact ⟨fun _ => hle, fun _ => rfl⟩
  · rename_i hgt
    split at h <;> cases h
    refine ⟨fun he => ?_, fun hle => absurd hle hgt⟩
    have hl := congrArg (·.toList.length) he
    simp only [String.toList_ofList, List.length_take] at hl
    omega

end

theorem viaJson_eq {metric : NormalisedMetric} (h : FiguresFit metric) : viaJson metric = metric := by
  unfold viaJson
  rw [jsonNumber_two h.solarPowerKw, jsonNumber_two h.acOutputPowerKw, jsonNumber_two h.gridVoltageV,
    jsonNumber_two h.gridFrequencyHz, jsonNumber_two h.batterySoc, jsonNumber_two h.batteryVoltageV,
    jsonNumber_two h.batteryCurrentA, jsonNumber_two h.batteryTemperatureC, jsonNumber_two h.batteryTimeToGoMin,
    jsonNumber_two h.inverterTemperatureC]

/-! ## The row that is saved -/

/-- What `save` writes, column by column. -/
structure Saved (metric : NormalisedMetric) (row : InvertersMetrics) : Prop where
  inverterId : row.inverterId = metric.inverterId
  solarGenKw : decimal 10 2 (metric.solarPowerKw.getD 0) = some row.solarGenKw
  batterySocPercent : decimal 5 2 (metric.batterySoc.getD 0) = some row.batterySocPercent
  loadKw : decimal 10 2 (metric.acOutputPowerKw.getD 0) = some row.loadKw
  gridVoltageV : nullable 10 2 metric.gridVoltageV = some row.gridVoltageV
  gridFrequencyHz : nullable 5 2 metric.gridFrequencyHz = some row.gridFrequencyHz
  batteryVoltageV : nullable 10 2 metric.batteryVoltageV = some row.batteryVoltageV
  batteryCurrentA : nullable 10 2 metric.batteryCurrentA = some row.batteryCurrentA
  inverterStatus : ∃ status, varchar 50 metric.inverterStatus = some status ∧ row.inverterStatus = some status
  batteryTemperatureC : nullable 5 2 metric.batteryTemperatureC = some row.batteryTemperatureC
  batteryTimeToGoMin : nullable 8 2 metric.batteryTimeToGoMin = some row.batteryTimeToGoMin
  inverterTemperatureC : nullable 5 2 metric.inverterTemperatureC = some row.inverterTemperatureC
  metricTimestamp : parse metric.recordedAt = some row.metricTimestamp

theorem saved_of_save {metric : NormalisedMetric} {row : InvertersMetrics} (h : save metric = some row) :
    Saved metric row := by
  obtain ⟨solarGenKw, hsolar, h⟩ := Option.bind_eq_some_iff.mp h
  obtain ⟨batterySocPercent, hsoc, h⟩ := Option.bind_eq_some_iff.mp h
  obtain ⟨loadKw, hload, h⟩ := Option.bind_eq_some_iff.mp h
  obtain ⟨gridVoltageV, hvolt, h⟩ := Option.bind_eq_some_iff.mp h
  obtain ⟨gridFrequencyHz, hfreq, h⟩ := Option.bind_eq_some_iff.mp h
  obtain ⟨batteryVoltageV, hbvolt, h⟩ := Option.bind_eq_some_iff.mp h
  obtain ⟨batteryCurrentA, hcur, h⟩ := Option.bind_eq_some_iff.mp h
  obtain ⟨status, hstatus, h⟩ := Option.bind_eq_some_iff.mp h
  obtain ⟨batteryTemperatureC, htemp, h⟩ := Option.bind_eq_some_iff.mp h
  obtain ⟨batteryTimeToGoMin, httg, h⟩ := Option.bind_eq_some_iff.mp h
  obtain ⟨inverterTemperatureC, hitemp, h⟩ := Option.bind_eq_some_iff.mp h
  obtain ⟨recordedAt, hrec, h⟩ := Option.bind_eq_some_iff.mp h
  obtain ⟨metricTimestamp, hts, h⟩ := Option.bind_eq_some_iff.mp h
  cases h
  simp only [timestamptz, Option.ite_none_right_eq_some, Option.some.injEq] at hts
  exact ⟨rfl, hsolar, hsoc, hload, hvolt, hfreq, hbvolt, hcur, ⟨status, hstatus, rfl⟩, htemp, httg, hitemp,
    hts.2 ▸ hrec⟩

/-! ## Agreement -/

/-- Nothing that the row writes differently is missing or too long. -/
def Complete (metric : NormalisedMetric) : Prop :=
  metric.solarPowerKw ≠ none ∧ metric.batterySoc ≠ none ∧ metric.acOutputPowerKw ≠ none ∧
    metric.inverterStatus.toList.length ≤ 50

/-- A figure that is there comes back as it was, and a missing one as `0`. -/
theorem required_eq {precision : Nat} {x : Option JsNumber} {y : JsNumber} (h : Fits x)
    (hd : decimal precision 2 (x.getD 0) = some y) : some y = x ↔ x ≠ none := by
  cases x with
  | none => exact ⟨nofun, fun hn => absurd rfl hn⟩
  | some x =>
    rw [decimal_two (h x rfl) hd]
    exact ⟨fun _ => nofun, fun _ => rfl⟩

theorem kwToW_required {precision : Nat} {x : Option JsNumber} {y : JsNumber} (h : Fits x)
    (hd : decimal precision 2 (x.getD 0) = some y) : kwToW (some y) = kwToW x ↔ x ≠ none := by
  constructor
  · intro he heq
    subst heq
    cases he
  · intro hn
    rw [(required_eq h hd).mpr hn]

/-- The snapshot of a reading that was saved and its live event agree unless
the panel power, the state of charge or the load is missing, or the status was
too long for its column. -/
theorem events_agree {metric : NormalisedMetric} {row : InvertersMetrics} (hi : IsIso metric.recordedAt)
    (hf : FiguresFit metric) (hs : save metric = some row) (inverterBrand : InverterBrand) :
    snapshotEvent row inverterBrand = liveEvent metric ↔ Complete metric := by
  have hw := saved_of_save hs
  obtain ⟨status, hstatus, hrow⟩ := hw.inverterStatus
  obtain ⟨t, h0, h1, ht⟩ := hi
  have hts : toISOString row.metricTimestamp = metric.recordedAt := by
    have hp := hw.metricTimestamp
    rw [ht, parse_toISOString h0 h1, Option.some.injEq] at hp
    rw [← hp, ht]
  have hsolar := kwToW_required hf.solarPowerKw hw.solarGenKw
  have hload := kwToW_required hf.acOutputPowerKw hw.loadKw
  have hsoc := required_eq hf.batterySoc hw.batterySocPercent
  have hst := varchar_eq hstatus
  rw [snapshotEvent, liveEvent, viaJson_eq hf]
  simp only [toMetricEvent, snapshot, MetricEvent.mk.injEq, hw.inverterId, hts, hrow, Option.getD_some, hsolar, hload,
    hsoc, hst, nullable_two hf.gridVoltageV hw.gridVoltageV, nullable_two hf.gridFrequencyHz hw.gridFrequencyHz,
    nullable_two hf.batteryVoltageV hw.batteryVoltageV, nullable_two hf.batteryCurrentA hw.batteryCurrentA,
    nullable_two hf.batteryTemperatureC hw.batteryTemperatureC,
    nullable_two hf.batteryTimeToGoMin hw.batteryTimeToGoMin,
    nullable_two hf.inverterTemperatureC hw.inverterTemperatureC, Complete, true_and, and_true]
  exact and_left_comm

/-! ## Two readings -/

/-- A reading of 1.25 kW at midnight, by an inverter that gives no more than what is asked for. -/
def midnight (batterySoc : Option JsNumber) : NormalisedMetric where
  inverterId := 7
  inverterBrand := .growatt
  recordedAt := "2026-01-31T00:00:00.000Z"
  inverterStatus := "normal"
  solarPowerKw := some (num (5 / 4))
  acOutputPowerKw := some (num (1 / 2))
  gridVoltageV := none
  gridFrequencyHz := none
  batterySoc := batterySoc
  batteryVoltageV := none
  batteryCurrentA := none
  batteryTemperatureC := none
  batteryTimeToGoMin := none
  inverterTemperatureC := none

theorem text_midnight : "2026-01-31T00:00:00.000Z" = toISOString 1769817600000 := by decide

theorem isIso_midnight : IsIso "2026-01-31T00:00:00.000Z" := ⟨1769817600000, by decide, by decide, text_midnight⟩

theorem decimal_ok {precision : Nat} {q : ℚ} (n : Int) (hq : q = n / 10 ^ 2) (h0 : -(10 ^ (precision - 2) : ℚ) < q)
    (h1 : q < 10 ^ (precision - 2)) : decimal precision 2 (num q) = some (num q) := by
  subst hq
  simp only [decimal, toFixedRat_two]
  exact if_pos ⟨h0, h1⟩

theorem save_midnight {batterySoc : Option JsNumber} {x : JsNumber} (h : decimal 5 2 (batterySoc.getD 0) = some x) :
    ∃ row, save (midnight batterySoc) = some row := by
  have hsolar : decimal 10 2 (num (5 / 4)) = some (num (5 / 4)) :=
    decimal_ok 125 (by norm_num) (by norm_num) (by norm_num)
  have hload : decimal 10 2 (num (1 / 2)) = some (num (1 / 2)) :=
    decimal_ok 50 (by norm_num) (by norm_num) (by norm_num)
  have hparse : parse "2026-01-31T00:00:00.000Z" = some 1769817600000 := by
    rw [text_midnight]
    exact parse_toISOString (by decide) (by decide)
  have hstatus : varchar 50 "normal" = some "normal" := if_pos (by decide)
  have hts : timestamptz 1769817600000 = some 1769817600000 := if_pos (by decide)
  apply Option.isSome_iff_exists.mp
  simp only [save, midnight, Option.getD_some, hsolar, hload, h, nullable, hparse, hstatus, hts, Option.bind_eq_bind,
    Option.bind_some, Option.pure_def, Option.isSome_some]

theorem fits_midnight {batterySoc : Option JsNumber} (h : Fits batterySoc) : FiguresFit (midnight batterySoc) := by
  refine ⟨?_, ?_, nofun, nofun, h, nofun, nofun, nofun, nofun, nofun⟩
  · intro _ he
    cases he
    exact ⟨125, by norm_num⟩
  · intro _ he
    cases he
    exact ⟨50, by norm_num⟩

/-- A Growatt plant without a battery: the snapshot says it is empty. -/
theorem missing_soc_differs : ¬ ∀ (metric : NormalisedMetric) (row : InvertersMetrics) (inverterBrand : InverterBrand),
    IsIso metric.recordedAt → FiguresFit metric → metric.inverterBrand = inverterBrand → save metric = some row →
    snapshotEvent row inverterBrand = liveEvent metric := by
  intro h
  have hsoc : decimal 5 2 (num 0) = some (num 0) := decimal_ok 0 (by norm_num) (by norm_num) (by norm_num)
  obtain ⟨row, hrow⟩ := @save_midnight none _ hsoc
  have hf : Fits none := fun _ hn => nomatch hn
  have he := congrArg (·.batterySoc) (h _ row .growatt isIso_midnight (fits_midnight hf) rfl hrow)
  cases he

theorem events_agree_midnight : ∃ row, save (midnight (some (num 80))) = some row ∧
    snapshotEvent row .growatt = liveEvent (midnight (some (num 80))) := by
  have hsoc : decimal 5 2 (num 80) = some (num 80) := decimal_ok 8000 (by norm_num) (by norm_num) (by norm_num)
  obtain ⟨row, hrow⟩ := @save_midnight (some (num 80)) _ hsoc
  have hf : Fits (some (num 80)) := by
    intro _ he
    cases he
    exact ⟨8000, by norm_num⟩
  exact ⟨row, hrow, (events_agree isIso_midnight (fits_midnight hf) hrow .growatt).mpr
    ⟨nofun, nofun, nofun, by decide⟩⟩

end IntellApi.MetricEvents
