import IntellApi.AlertDetection
import IntellApi.Cyclic

/-!
# Quiet hours on the user's clock

A converted window is the local one turned by the offset (`convertToUTC_text`),
and the comparison of the minutes is membership in a window of the day's circle
(`isWithinQuietHours_utcText`). Both lose sight of the local `00:00`: the test
for it looks at the converted strings.
-/

namespace IntellApi.Alerts

/-- A local time of the form `HH:mm`. -/
structure LocalTime where
  hours : Fin 24
  mins : Fin 60
  deriving DecidableEq, Repr

/-- `+HH:MM`, or `-HH:MM` to the west. -/
structure Offset where
  west : Bool
  hours : Fin 100
  mins : Fin 60
  deriving DecidableEq, Repr

def hhmm (hours mins : Int) : String := padStart2 hours ++ ":" ++ padStart2 mins

def utcText (minutes : Int) : String := hhmm (minutes / 60) (minutes % 60)

namespace LocalTime

def minutes (time : LocalTime) : Int := time.hours * 60 + time.mins

def text (time : LocalTime) : String := hhmm time.hours time.mins

end LocalTime

namespace Offset

def minutes (offset : Offset) : Int :=
  (if offset.west then -1 else 1) * (offset.hours * 60 + offset.mins)

def text (offset : Offset) : String := (if offset.west then "-" else "+") ++ hhmm offset.hours offset.mins

end Offset

def localMinutes (offset : Offset) (now : Int) : Int := (now + offset.minutes * 60000) / 60000 % 1440

/-- What the user asks for: `00:00` to `00:00` is the whole day, any other empty window is none of it. -/
def LocallyQuiet (start stop : LocalTime) (offset : Offset) (now : Int) : Prop :=
  if start = stop then start = ⟨0, 0⟩ else Cyclic.Mem 1440 start.minutes stop.minutes (localMinutes offset now)

instance (start stop : LocalTime) (offset : Offset) (now : Int) : Decidable (LocallyQuiet start stop offset now) :=
  inferInstanceAs (Decidable (if start = stop then _ else _))

/-! ## Reading a printed time -/

def twoDigits (n : Nat) : List Char := [Nat.digitChar (n / 10), Nat.digitChar (n % 10)]

theorem padStart2_toList {n : Nat} (h : n < 100) : (padStart2 n).toList = twoDigits n := by
  have all : ∀ m : Fin 100, (padStart2 m.val).toList = twoDigits m.val := by decide +kernel
  exact all ⟨n, h⟩

theorem stringToNumber_twoDigits {n : Nat} (h : n < 100) : stringToNumber (twoDigits n) = some (n : Int) := by
  have all : ∀ m : Fin 100, stringToNumber (twoDigits m.val) = some (m.val : Int) := by decide +kernel
  exact all ⟨n, h⟩

theorem colon_notMem_twoDigits {n : Nat} (h : n < 100) : ':' ∉ twoDigits n := by
  have all : ∀ m : Fin 100, ':' ∉ twoDigits m.val := by decide +kernel
  exact all ⟨n, h⟩

theorem minutesOf_hhmm {hours mins : Nat} (hh : hours < 100) (hm : mins < 100) :
    minutesOf (hhmm hours mins).toList = some ((hours : Int) * 60 + mins) := by
  have hl : (hhmm hours mins).toList = twoDigits hours ++ ':' :: twoDigits mins := by
    simp only [hhmm, String.toList_append, padStart2_toList hh, padStart2_toList hm, List.append_assoc]
    rfl
  rw [hl, minutesOf, List.splitOn_append_cons_self_of_not_mem (colon_notMem_twoDigits hh),
    List.splitOn_eq_singleton (colon_notMem_twoDigits hm)]
  simp only [stringToNumber_twoDigits hh, stringToNumber_twoDigits hm, Option.bind_eq_bind, Option.bind_some]
  rfl

theorem minutesOf_utcText {t : Int} (h0 : 0 ≤ t) (h1 : t < 1440) : minutesOf (utcText t).toList = some t := by
  obtain ⟨m, rfl⟩ := Int.eq_ofNat_of_zero_le h0
  have hm := minutesOf_hhmm (show m / 60 < 100 by omega) (show m % 60 < 100 by omega)
  have hdiv : ((m / 60 : Nat) : Int) * 60 + (m % 60 : Nat) = m := by omega
  rw [hdiv] at hm
  exact hm

theorem utcText_inj {t u : Int} (ht : 0 ≤ t) (ht' : t < 1440) (hu : 0 ≤ u) (hu' : u < 1440) :
    utcText t = utcText u ↔ t = u := by
  constructor
  · intro h
    have hm := minutesOf_utcText ht ht'
    rw [h, minutesOf_utcText hu hu'] at hm
    exact (Option.some.inj hm).symm
  · rintro rfl
    rfl

theorem utcText_eq_midnight {t : Int} (ht : 0 ≤ t) (ht' : t < 1440) : utcText t = "00:00" ↔ t = 0 := by
  have h0 : utcText 0 = "00:00" := by decide +kernel
  rw [← h0]
  exact utcText_inj ht ht' (by decide) (by decide)

/-! ## The converted window -/

def inUTC (offset : Offset) (time : LocalTime) : Int := (time.minutes - offset.minutes) % 1440

section
variable (offset : Offset) (time : LocalTime)

theorem inUTC_nonneg : 0 ≤ inUTC offset time := Int.emod_nonneg _ (by decide)

theorem inUTC_lt : inUTC offset time < 1440 := Int.emod_lt_of_pos _ (by decide)

theorem LocalTime.minutes_nonneg : 0 ≤ time.minutes := by
  unfold minutes
  omega

theorem LocalTime.minutes_lt : time.minutes < 1440 := by
  unfold minutes
  omega

theorem LocalTime.minutes_inj {time other : LocalTime} : time.minutes = other.minutes ↔ time = other := by
  constructor
  · intro h
    unfold minutes at h
    cases time
    cases other
    simp only [LocalTime.mk.injEq, Fin.ext_iff] at *
    omega
  · rintro rfl
    rfl

theorem LocalTime.minutes_text : minutesOf time.text.toList = some time.minutes :=
  minutesOf_hhmm (by omega) (by omega)

theorem Offset.text_sign : (if offset.text.toList.head? = some '-' then (-1 : Int) else 1) =
    if offset.west then -1 else 1 := by
  unfold text
  cases offset.west <;> simp

theorem Offset.minutes_text :
    minutesOf (offset.text.toList.drop 1) = some ((offset.hours : Int) * 60 + offset.mins) := by
  have h : offset.text.toList.drop 1 = (hhmm offset.hours offset.mins).toList := by
    unfold text
    cases offset.west <;> simp
  rw [h]
  exact minutesOf_hhmm (by omega) (by omega)

/-- The conversion turns the day's circle. -/
theorem convertToUTC_text : convertToUTC time.text offset.text = utcText (inUTC offset time) := by
  unfold convertToUTC
  rw [time.minutes_text, offset.minutes_text]
  simp only [offset.text_sign]
  rfl

end

theorem isWithinQuietHours_utcText {start stop : Int} (hs : 0 ≤ start) (hs' : start < 1440) (he : 0 ≤ stop)
    (he' : stop < 1440) (now : Int) :
    isWithinQuietHours now (utcText start) (utcText stop) = true ↔
      if start = stop then start = 0 else Cyclic.Mem 1440 start stop (now / 60000) := by
  have h0 := Int.emod_nonneg (now / 60000) (show (1440 : Int) ≠ 0 by decide)
  have h1 := Int.emod_lt_of_pos (now / 60000) (show (0 : Int) < 1440 by decide)
  have hmem : Cyclic.Mem 1440 start stop (now / 60000) ↔ Cyclic.Mem 1440 start stop (now / 60000 % 1440) :=
    Cyclic.mem_congr (Int.emod_emod _ _).symm
  unfold isWithinQuietHours
  simp only [utcText_eq_midnight hs hs', utcText_eq_midnight he he', minutesOf_utcText hs hs',
    minutesOf_utcText he he']
  by_cases hz : start = 0 ∧ stop = 0
  · rw [if_pos hz, hz.1, hz.2]
    simp
  rw [if_neg hz]
  by_cases heq : start = stop
  · rw [if_pos heq, if_pos heq]
    simp only [Bool.false_eq_true, false_iff]
    exact fun h => hz ⟨h, heq ▸ h⟩
  rw [if_neg heq, if_neg heq, hmem]
  by_cases hgt : start > stop
  · rw [if_pos hgt, Cyclic.mem_iff_or hs hs' he he' h0 h1 hgt]
    simp
  · rw [if_neg hgt, Cyclic.mem_iff_and hs hs' he he' h0 h1 (by omega)]
    simp

/-- Past the two sentinels the converted window is the local one. -/
theorem mem_inUTC (start stop : LocalTime) (offset : Offset) (now : Int) :
    Cyclic.Mem 1440 (inUTC offset start) (inUTC offset stop) (now / 60000) ↔
      Cyclic.Mem 1440 start.minutes stop.minutes (localMinutes offset now) := by
  have hnow : (now + offset.minutes * 60000) / 60000 = now / 60000 + offset.minutes := by omega
  have hturn : Cyclic.Mem 1440 (start.minutes - offset.minutes) (stop.minutes - offset.minutes) (now / 60000) ↔
      Cyclic.Mem 1440 start.minutes stop.minutes (now / 60000 + offset.minutes) := by
    rw [← Cyclic.mem_add offset.minutes, Int.sub_add_cancel, Int.sub_add_cancel]
  rw [localMinutes, hnow, Cyclic.mem_congr (Int.emod_emod _ _), ← hturn, ← Cyclic.mem_emod,
    ← Cyclic.mem_emod (x := now / 60000)]
  simp only [inUTC, Int.emod_emod]

theorem inUTC_eq_iff (start stop : LocalTime) (offset : Offset) :
    inUTC offset start = inUTC offset stop ↔ start = stop := by
  rw [← LocalTime.minutes_inj]
  have hs := start.minutes_nonneg
  have hs' := start.minutes_lt
  have he := stop.minutes_nonneg
  have he' := stop.minutes_lt
  unfold inUTC
  omega

theorem isWithinQuietHours_convertToUTC (start stop : LocalTime) (offset : Offset) (now : Int) :
    isWithinQuietHours now (convertToUTC start.text offset.text) (convertToUTC stop.text offset.text) = true ↔
      if start = stop then inUTC offset start = 0
      else Cyclic.Mem 1440 (inUTC offset start) (inUTC offset stop) (now / 60000) := by
  rw [convertToUTC_text, convertToUTC_text,
    isWithinQuietHours_utcText (inUTC_nonneg _ _) (inUTC_lt _ _) (inUTC_nonneg _ _) (inUTC_lt _ _)]
  simp only [inUTC_eq_iff]

/-- The answer is the user's unless the window is empty and only one of the two clocks shows it as `00:00`. -/
theorem quiet_iff_locallyQuiet_iff (start stop : LocalTime) (offset : Offset) (now : Int) :
    (isWithinQuietHours now (convertToUTC start.text offset.text) (convertToUTC stop.text offset.text) = true ↔
        LocallyQuiet start stop offset now) ↔
      (start = stop → (start = ⟨0, 0⟩ ↔ (start.minutes - offset.minutes) % 1440 = 0)) := by
  rw [isWithinQuietHours_convertToUTC, LocallyQuiet]
  by_cases h : start = stop
  · rw [if_pos h, if_pos h, inUTC]
    constructor
    · intro hiff _
      exact hiff.symm
    · intro himp
      exact (himp h).symm
  · rw [if_neg h, if_neg h]
    simp only [mem_inUTC, h, false_imp_iff]

theorem midnight_east_of_utc_not_quiet :
    ¬ (isWithinQuietHours 0 (convertToUTC (LocalTime.text ⟨0, 0⟩) (Offset.text ⟨false, 1, 0⟩))
        (convertToUTC (LocalTime.text ⟨0, 0⟩) (Offset.text ⟨false, 1, 0⟩)) = true ↔
      LocallyQuiet ⟨0, 0⟩ ⟨0, 0⟩ ⟨false, 1, 0⟩ 0) := by
  decide +kernel

end IntellApi.Alerts

namespace IntellApi.AlertDetection

open Alerts

/-! ## Deferred deliveries -/

variable {settings : UserSettings} {start stop : LocalTime} {offset : Offset} {now : Int} {severity : AlertSeverity}

theorem quiet_of_deferDelivery (hstart : settings.quietHoursStart = some start.text)
    (hstop : settings.quietHoursEnd = some stop.text) (htz : timezone settings = offset.text)
    (h : deferDelivery settings now severity = true) :
    isWithinQuietHours now (convertToUTC start.text offset.text) (convertToUTC stop.text offset.text) = true := by
  unfold deferDelivery at h
  simp only [Option.bind_some, hstart, hstop, htz] at h
  simp only [Bool.decide_and, Bool.and_eq_true, decide_eq_true_eq] at h
  exact h.2.2.2

/-- Inside the window the date is its end on the clock's circle. -/
theorem quietHoursEndDate_eq (hstop : settings.quietHoursEnd = some stop.text)
    (htz : timezone settings = offset.text) (hpos : 0 < Cyclic.toEnd dayMs (inUTC offset stop * 60000) now) :
    quietHoursEndDate settings now = some (now + Cyclic.toEnd dayMs (inUTC offset stop * 60000) now) := by
  have h0 := inUTC_nonneg offset stop
  have h1 := inUTC_lt offset stop
  unfold quietHoursEndDate
  simp only [Option.bind_some, hstop, htz, convertToUTC_text, minutesOf_utcText h0 h1, Option.bind_eq_bind]
  unfold Cyclic.toEnd dayMs at *
  simp only [Option.pure_def, Option.some.injEq]
  split <;> omega

/-- A deferred alert goes out at the first instant that is not quiet, within a day. -/
theorem deferred_until_first_not_quiet (hstart : settings.quietHoursStart = some start.text)
    (hstop : settings.quietHoursEnd = some stop.text) (htz : timezone settings = offset.text)
    (hne : convertToUTC start.text offset.text ≠ convertToUTC stop.text offset.text)
    (hdefer : deferDelivery settings now severity = true) :
    ∃ date, quietHoursEndDate settings now = some date ∧ 0 < date - now ∧ date - now ≤ dayMs ∧
      isWithinQuietHours date (convertToUTC start.text offset.text) (convertToUTC stop.text offset.text) = false ∧
      ∀ t, now ≤ t → t < date →
        isWithinQuietHours t (convertToUTC start.text offset.text) (convertToUTC stop.text offset.text) = true := by
  have hday : (0 : Int) < dayMs := by decide
  have hss : start ≠ stop := by
    rintro rfl
    exact hne rfl
  have hquiet : ∀ t, isWithinQuietHours t (convertToUTC start.text offset.text)
      (convertToUTC stop.text offset.text) = true ↔
        Cyclic.Mem dayMs (inUTC offset start * 60000) (inUTC offset stop * 60000) t := by
    intro t
    rw [isWithinQuietHours_convertToUTC, if_neg hss, Cyclic.mem_ediv (by decide)]
    rfl
  have hnow := (hquiet now).mp (quiet_of_deferDelivery hstart hstop htz hdefer)
  have hpos := Cyclic.toEnd_pos hday hnow
  have hlt := Cyclic.toEnd_lt (b := inUTC offset stop * 60000) (x := now) hday
  refine ⟨_, quietHoursEndDate_eq hstop htz hpos, by omega, by omega, ?_, ?_⟩
  · rw [← Bool.not_eq_true, hquiet]
    exact Cyclic.not_mem_toEnd
  · intro t ht ht'
    have hk := Cyclic.mem_until hday hnow (show 0 ≤ t - now by omega) (by omega)
    have hadd : now + (t - now) = t := by omega
    rw [hadd] at hk
    exact (hquiet t).mpr hk

def nightInLagos : UserSettings where
  quietHoursStart := some (LocalTime.text ⟨22, 0⟩)
  quietHoursEnd := some (LocalTime.text ⟨6, 0⟩)
  timezone := some (Offset.text ⟨false, 1, 0⟩)
  alertCooldownMinutes := none
  depletionThreshold := none
  generatorFuelType := .pms
  generatorRatedPowerKw := none
  customFuelPriceNaira := none

theorem deferred_night_in_lagos : ∃ date, quietHoursEndDate nightInLagos (23 * 60 * 60000) = some date ∧
    0 < date - 23 * 60 * 60000 ∧ date - 23 * 60 * 60000 ≤ dayMs ∧
    isWithinQuietHours date (convertToUTC (LocalTime.text ⟨22, 0⟩) (Offset.text ⟨false, 1, 0⟩))
      (convertToUTC (LocalTime.text ⟨6, 0⟩) (Offset.text ⟨false, 1, 0⟩)) = false ∧
    ∀ t, 23 * 60 * 60000 ≤ t → t < date →
      isWithinQuietHours t (convertToUTC (LocalTime.text ⟨22, 0⟩) (Offset.text ⟨false, 1, 0⟩))
        (convertToUTC (LocalTime.text ⟨6, 0⟩) (Offset.text ⟨false, 1, 0⟩)) = true :=
  @deferred_until_first_not_quiet nightInLagos ⟨22, 0⟩ ⟨6, 0⟩ ⟨false, 1, 0⟩ (23 * 60 * 60000) .warning rfl rfl rfl
    (by decide +kernel) (by decide +kernel)

end IntellApi.AlertDetection
