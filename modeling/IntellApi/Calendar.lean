import Mathlib.Tactic.IntervalCases

/-!
# The proleptic Gregorian calendar on a millisecond clock

Days and years are counted as the language specification of the date objects
counts them; local time is the clock plus a fixed offset `tza`. All divisions
are floor divisions. A date setter only moves the day number, so adding days
to the date adds their milliseconds (`setDate_add`).
-/

namespace Calendar

def msPerDay : Int := 86400000

def day (t : Int) : Int := t / msPerDay

def timeWithinDay (t : Int) : Int := t % msPerDay

def dayFromYear (y : Int) : Int :=
  365 * (y - 1970) + (y - 1969) / 4 - (y - 1901) / 100 + (y - 1601) / 400

def isLeap (y : Int) : Bool := y % 4 = 0 && (y % 100 ≠ 0 || y % 400 = 0)

/-- The guess by the mean year is off by at most one year. -/
def yearOfDay (d : Int) : Int :=
  let y := 1970 + 400 * d / 146097
  if d < dayFromYear y then y - 1 else if dayFromYear (y + 1) ≤ d then y + 1 else y

/-- The days before month `m`, counted from 0, in a year that is not a leap year. -/
def monthStart : List Int := [0, 31, 59, 90, 120, 151, 181, 212, 243, 273, 304, 334]

def daysBefore (leap : Bool) (m : Int) : Int :=
  monthStart.getD m.toNat 0 + if leap ∧ 2 ≤ m then 1 else 0

def monthOfDay (d : Int) : Int :=
  let y := yearOfDay d
  (List.range 11).countP fun m : Nat => dayFromYear y + daysBefore (isLeap y) (m + 1) ≤ d

def dateOfDay (d : Int) : Int :=
  d - dayFromYear (yearOfDay d) - daysBefore (isLeap (yearOfDay d)) (monthOfDay d) + 1

def makeDay (year month date : Int) : Int :=
  let y := year + month / 12
  dayFromYear y + daysBefore (isLeap y) (month % 12) + date - 1

def makeFullYear (y : Int) : Int := if 0 ≤ y ∧ y ≤ 99 then 1900 + y else y

section
variable (tza : Int)

def getFullYear (t : Int) : Int := yearOfDay (day (t + tza))

def getMonth (t : Int) : Int := monthOfDay (day (t + tza))

def getDate (t : Int) : Int := dateOfDay (day (t + tza))

/-- 0 is Sunday. -/
def getDay (t : Int) : Int := (day (t + tza) + 4) % 7

def setDate (t date : Int) : Int :=
  makeDay (getFullYear tza t) (getMonth tza t) date * msPerDay + timeWithinDay (t + tza) - tza

/-- `setHours(0, 0, 0, 0)`. -/
def startOfDay (t : Int) : Int := day (t + tza) * msPerDay - tza

def newDate (year month date : Int) : Int := makeDay (makeFullYear year) month date * msPerDay - tza

/-! ## Days -/

theorem monthOfDay_range (d : Int) : 0 ≤ monthOfDay d ∧ monthOfDay d ≤ 11 := by
  have : (List.range 11).countP (fun m : Nat => dayFromYear (yearOfDay d) +
      daysBefore (isLeap (yearOfDay d)) (m + 1) ≤ d) ≤ 11 := List.countP_le_length
  simp only [monthOfDay]; omega

theorem makeDay_of_day (d n : Int) : makeDay (yearOfDay d) (monthOfDay d) (dateOfDay d + n) = d + n := by
  have ⟨h0, h1⟩ := monthOfDay_range d
  have hq : monthOfDay d / 12 = 0 := by omega
  have hr : monthOfDay d % 12 = monthOfDay d := by omega
  simp only [makeDay, hq, hr, Int.add_zero, dateOfDay]
  omega

theorem setDate_add (t n : Int) : setDate tza t (getDate tza t + n) = t + n * msPerDay := by
  simp only [setDate, getDate, getFullYear, getMonth, makeDay_of_day, day, timeWithinDay, msPerDay]
  omega

/-! ## Years and the days of a month -/

theorem yearOfDay_range (d : Int) : dayFromYear (yearOfDay d) ≤ d ∧ d < dayFromYear (yearOfDay d + 1) := by
  have h1 : dayFromYear (1970 + 400 * d / 146097 - 1) ≤ d := by
    unfold dayFromYear
    omega
  have h2 : d < dayFromYear (1970 + 400 * d / 146097 + 1 + 1) := by
    unfold dayFromYear
    omega
  unfold yearOfDay
  simp only
  split
  · rename_i h
    refine ⟨h1, ?_⟩
    rw [Int.sub_add_cancel]
    exact h
  · rename_i h
    split
    · rename_i h'
      exact ⟨h', h2⟩
    · rename_i h'
      exact ⟨Int.not_lt.mp h, Int.not_le.mp h'⟩

/-- Where a predicate holds up to a point and then no more, counting finds it. -/
theorem countP_range {p : Nat → Bool} : ∀ {k : Nat}, (∀ m, m + 1 < k → p (m + 1) = true → p m = true) →
    (∀ m, m < (List.range k).countP p → p m = true) ∧ ∀ m, (List.range k).countP p ≤ m → m < k → p m = false
  | 0, _ => ⟨fun m hm => absurd hm (Nat.not_lt_zero m), fun m _ hm => absurd hm (Nat.not_lt_zero m)⟩
  | k + 1, hp => by
    obtain ⟨hlow, hhigh⟩ := countP_range fun m hm => hp m (Nat.lt_succ_of_lt hm)
    have hle : (List.range k).countP p ≤ k := List.countP_le_length.trans_eq List.length_range
    rw [List.range_succ, List.countP_append, List.countP_singleton]
    by_cases hk : p k = true
    · -- everything before `k` is counted as well
      have hall : (List.range k).countP p = k := by
        by_contra hne
        have hc : p ((List.range k).countP p) = true :=
          Nat.decreasingInduction (motive := fun m _ => p m = true) (fun m hm => hp m (Nat.succ_lt_succ hm)) hk hle
        rw [hhigh _ (Nat.le_refl _) (Nat.lt_of_le_of_ne hle hne)] at hc
        cases hc
      rw [if_pos hk, hall]
      refine ⟨fun m hm => ?_, fun m hm hlt => absurd hlt (Nat.not_lt.mpr hm)⟩
      rcases Nat.lt_succ_iff_lt_or_eq.mp hm with hm | rfl
      · exact hlow m (hm.trans_eq hall.symm)
      · exact hk
    · rw [if_neg hk]
      refine ⟨hlow, fun m hm hlt => ?_⟩
      rcases Nat.lt_succ_iff_lt_or_eq.mp hlt with hlt | rfl
      · exact hhigh m hm hlt
      · exact Bool.eq_false_iff.mpr hk

theorem daysBefore_succ (leap : Bool) {m : Int} (h0 : 0 ≤ m) (h1 : m < 11) :
    daysBefore leap m + 28 ≤ daysBefore leap (m + 1) ∧ daysBefore leap (m + 1) ≤ daysBefore leap m + 31 := by
  interval_cases m <;> cases leap <;> decide

/-- Day `n` of a year lies in the month that is counted for it. -/
theorem daysBefore_range (leap : Bool) {n : Int} (h0 : 0 ≤ n) :
    let m := (List.range 11).countP fun m : Nat => decide (daysBefore leap (m + 1) ≤ n)
    daysBefore leap m ≤ n ∧ (m < 11 → n < daysBefore leap (m + 1)) := by
  intro m
  have hdown : ∀ k, k + 1 < 11 → decide (daysBefore leap ((k + 1 : Nat) + 1) ≤ n) = true →
      decide (daysBefore leap (k + 1) ≤ n) = true := by
    intro k hk h
    simp only [decide_eq_true_eq] at h ⊢
    have := (daysBefore_succ leap (m := k + 1) (by omega) (by omega)).1
    push_cast at h
    omega
  obtain ⟨hlow, hhigh⟩ := countP_range (p := fun m : Nat => decide (daysBefore leap (m + 1) ≤ n)) hdown
  refine ⟨?_, fun hlt => ?_⟩
  · rcases Nat.eq_zero_or_pos m with hm | hm
    · rw [hm]
      simpa [daysBefore, monthStart] using h0
    · have := of_decide_eq_true (hlow (m - 1) (Nat.sub_lt hm Nat.one_pos))
      rwa [← Nat.cast_succ, Nat.succ_eq_add_one, Nat.sub_add_cancel hm] at this
  · exact Int.not_le.mp (of_decide_eq_false (hhigh m (Nat.le_refl _) hlt))

/-! ## Months -/

theorem dayFromYear_succ (y : Int) : dayFromYear (y + 1) = dayFromYear y + 365 + if isLeap y then 1 else 0 := by
  unfold dayFromYear isLeap
  by_cases h4 : y % 4 = 0 <;> by_cases h100 : y % 100 = 0 <;> by_cases h400 : y % 400 = 0 <;>
    simp [h4, h100, h400] <;> omega

theorem monthOfDay_eq (d : Int) : monthOfDay d = (List.range 11).countP fun m : Nat =>
    decide (daysBefore (isLeap (yearOfDay d)) (m + 1) ≤ d - dayFromYear (yearOfDay d)) := by
  unfold monthOfDay
  refine congrArg _ (List.countP_congr fun m _ => ?_)
  simp only [decide_eq_true_eq]
  omega

/-- A day lies in its month. -/
theorem month_range (d : Int) :
    dayFromYear (yearOfDay d) + daysBefore (isLeap (yearOfDay d)) (monthOfDay d) ≤ d ∧
      (monthOfDay d < 11 → d < dayFromYear (yearOfDay d) + daysBefore (isLeap (yearOfDay d)) (monthOfDay d + 1)) := by
  obtain ⟨h1, h2⟩ := daysBefore_range (isLeap (yearOfDay d)) (Int.sub_nonneg.mpr (yearOfDay_range d).1)
  rw [monthOfDay_eq]
  refine ⟨by omega, fun hm => ?_⟩
  have := h2 (by exact_mod_cast hm)
  omega

theorem dateOfDay_range (d : Int) : 1 ≤ dateOfDay d ∧ dateOfDay d ≤ 31 := by
  obtain ⟨h1, h2⟩ := month_range d
  obtain ⟨h3, h4⟩ := monthOfDay_range d
  unfold dateOfDay
  refine ⟨by omega, ?_⟩
  by_cases hm : monthOfDay d = 11
  · have hy := (yearOfDay_range d).2
    rw [dayFromYear_succ] at hy
    rw [hm]
    cases hl : isLeap (yearOfDay d) <;> simp [hl, daysBefore, monthStart] at hy ⊢ <;> omega
  · have hlt : monthOfDay d < 11 := by omega
    have := (daysBefore_succ (isLeap (yearOfDay d)) h3 hlt).2
    have := h2 hlt
    omega

theorem month_length (y m : Int) :
    makeDay y m 1 + 28 ≤ makeDay y (m + 1) 1 ∧ makeDay y (m + 1) 1 ≤ makeDay y m 1 + 31 := by
  have hm : 0 ≤ m % 12 ∧ m % 12 < 12 := by omega
  by_cases h : m % 12 = 11
  · have hq : (m + 1) / 12 = m / 12 + 1 := by omega
    have hr : (m + 1) % 12 = 0 := by omega
    simp only [makeDay, hq, hr, h, ← Int.add_assoc, dayFromYear_succ, daysBefore, monthStart]
    cases isLeap (y + m / 12) <;> simp <;> omega
  · have hq : (m + 1) / 12 = m / 12 := by omega
    have hr : (m + 1) % 12 = m % 12 + 1 := by omega
    have := daysBefore_succ (isLeap (y + m / 12)) hm.1 (by omega : m % 12 < 11)
    simp only [makeDay, hq, hr]
    omega

/-! ## Months in a row -/

/-- The first day of month `k`, counted from January of the year 0. -/
def firstDay (k : Int) : Int := makeDay 0 k 1

def monthIndex (d : Int) : Int := 12 * yearOfDay d + monthOfDay d

theorem makeDay_one (y m : Int) : makeDay y m 1 = firstDay (12 * y + m) := by
  have hq : (12 * y + m) / 12 = y + m / 12 := by omega
  have hr : (12 * y + m) % 12 = m % 12 := by omega
  simp only [firstDay, makeDay, hq, hr, Int.zero_add]

theorem firstDay_lt (k : Int) : firstDay k < firstDay (k + 1) := by
  have := (month_length 0 k).1
  show makeDay 0 k 1 < makeDay 0 (k + 1) 1
  omega

theorem firstDay_le {j k : Int} (h : j ≤ k) : firstDay j ≤ firstDay k := by
  obtain ⟨n, rfl⟩ := Int.le.dest h
  clear h
  induction n with
  | zero => exact Int.le_of_eq (congrArg firstDay (Int.add_zero j).symm)
  | succ n ih =>
    rw [Int.natCast_succ, ← Int.add_assoc]
    exact Int.le_trans ih (Int.le_of_lt (firstDay_lt (j + n)))

theorem monthIndex_range (d : Int) : firstDay (monthIndex d) ≤ d ∧ d < firstDay (monthIndex d + 1) := by
  obtain ⟨h0, h1⟩ := monthOfDay_range d
  constructor
  · have := (dateOfDay_range d).1
    have hq : monthOfDay d / 12 = 0 := by omega
    have hr : monthOfDay d % 12 = monthOfDay d := by omega
    rw [monthIndex, ← makeDay_one]
    simp only [makeDay, hq, hr, Int.add_zero]
    unfold dateOfDay at this
    omega
  · rw [monthIndex, Int.add_assoc, ← makeDay_one]
    by_cases h : monthOfDay d = 11
    · -- January of the next year
      have := (yearOfDay_range d).2
      rw [h]
      simpa [makeDay, daysBefore, monthStart] using this
    · have hq : (monthOfDay d + 1) / 12 = 0 := by omega
      have hr : (monthOfDay d + 1) % 12 = monthOfDay d + 1 := by omega
      have := (month_range d).2 (by omega)
      simp only [makeDay, hq, hr, Int.add_zero]
      omega

theorem monthIndex_eq {d k : Int} (h1 : firstDay k ≤ d) (h2 : d < firstDay (k + 1)) : monthIndex d = k := by
  obtain ⟨h3, h4⟩ := monthIndex_range d
  rcases Int.lt_trichotomy (monthIndex d) k with hlt | heq | hgt
  · have := firstDay_le hlt
    omega
  · exact heq
  · have := firstDay_le hgt
    omega

theorem yearOfDay_eq (d : Int) : yearOfDay d = monthIndex d / 12 := by
  obtain ⟨h0, h1⟩ := monthOfDay_range d
  unfold monthIndex
  omega

end

end Calendar
