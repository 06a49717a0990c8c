import IntellApi.Calendar

/-!
# Instants as text

`toISOString` and, for the texts it makes, the constructor that reads them
again. A year outside 0 to 9999 has a sign and six digits. Reading gives back
the instant that was written (`parse_toISOString`).
-/

namespace IsoDate

open Calendar

/-! ## Digits -/

def digit (d : Nat) : Char := Char.ofNat (48 + d)

def digitValue (c : Char) : Option Nat := if 48 ≤ c.toNat ∧ c.toNat ≤ 57 then some (c.toNat - 48) else none

/-- The last `k` digits of `n`. -/
def digits : Nat → Nat → List Char
  | 0, _ => []
  | k + 1, n => digits k (n / 10) ++ [digit (n % 10)]

def number (cs : List Char) : Option Nat :=
  cs.foldl (fun acc c => acc.bind fun n => (digitValue c).map (10 * n + ·)) (some 0)

/-- `k` digits and the separator after them. -/
def field (k : Nat) (separator : Char) (cs : List Char) : Option (Nat × List Char) :=
  match cs.drop k with
  | [] => none
  | c :: rest => if c = separator then (number (cs.take k)).map (·, rest) else none

theorem digitValue_digit : ∀ d : Fin 10, digitValue (digit d) = some (d : Nat) := by decide

theorem digit_ne_sign : ∀ d : Fin 10, digit d ≠ '+' ∧ digit d ≠ '-' := by decide

theorem length_digits (k n : Nat) : (digits k n).length = k := by
  induction k generalizing n with
  | zero => rfl
  | succ k ih => rw [digits, List.length_append, ih, List.length_singleton]

theorem number_digits (k n : Nat) (h : n < 10 ^ k) : number (digits k n) = some n := by
  induction k generalizing n with
  | zero =>
    obtain rfl : n = 0 := by omega
    rfl
  | succ k ih =>
    have hq : n / 10 < 10 ^ k := by omega
    have hd := digitValue_digit ⟨n % 10, Nat.mod_lt n (by decide)⟩
    have hn : number (digits k (n / 10) ++ [digit (n % 10)]) =
        (number (digits k (n / 10))).bind fun m => (digitValue (digit (n % 10))).map (10 * m + ·) := by
      simp only [number, List.foldl_append, List.foldl_cons, List.foldl_nil]
    rw [digits, hn, ih _ hq, Option.bind_some, hd, Option.map_some, Nat.div_add_mod]

theorem digits_cons (k n : Nat) : digits (k + 1) n = digit (n / 10 ^ k % 10) :: digits k n := by
  induction k generalizing n with
  | zero =>
    rw [Nat.pow_zero, Nat.div_one]
    rfl
  | succ k ih =>
    have hd : n / 10 / 10 ^ k = n / 10 ^ (k + 1) := by rw [Nat.div_div_eq_div_mul, ← Nat.pow_succ']
    rw [digits, ih, List.cons_append, hd]
    rfl

theorem field_digits (k n : Nat) (c : Char) (cs : List Char) (h : n < 10 ^ k) :
    field k c (digits k n ++ c :: cs) = some (n, cs) := by
  have hl := length_digits k n
  unfold field
  rw [List.drop_left' hl, List.take_left' hl]
  simp only [if_true, number_digits k n h, Option.map_some]

/-! ## Instants -/

/-- Instants are at most 8.64e15 milliseconds from the epoch. -/
def maxTime : Int := 8640000000000000

def yearText (y : Int) : List Char :=
  if 0 ≤ y ∧ y ≤ 9999 then digits 4 y.toNat
  else if y < 0 then '-' :: digits 6 y.natAbs
  else '+' :: digits 6 y.natAbs

def timeText (ms : Nat) : List Char :=
  digits 2 (ms / 3600000) ++ ':' :: (digits 2 (ms / 60000 % 60) ++ ':' :: (digits 2 (ms / 1000 % 60) ++
    '.' :: (digits 3 (ms % 1000) ++ 'Z' :: [])))

def toISOString (t : Int) : String :=
  String.ofList (yearText (yearOfDay (day t)) ++ '-' :: (digits 2 (monthOfDay (day t) + 1).toNat ++
    '-' :: (digits 2 (dateOfDay (day t)).toNat ++ 'T' :: timeText (timeWithinDay t).toNat)))

def parseTime (cs : List Char) : Option Int := do
  let (hours, cs) ← field 2 ':' cs
  let (minutes, cs) ← field 2 ':' cs
  let (seconds, cs) ← field 2 '.' cs
  let (ms, cs) ← field 3 'Z' cs
  if cs = [] ∧ hours ≤ 23 ∧ minutes ≤ 59 ∧ seconds ≤ 59 then
    some (hours * 3600000 + minutes * 60000 + seconds * 1000 + ms : Nat)
  else none

def parseDate (sign : Int) (k : Nat) (cs : List Char) : Option Int := do
  let (year, cs) ← field k '-' cs
  let (month, cs) ← field 2 '-' cs
  let (date, cs) ← field 2 'T' cs
  let time ← parseTime cs
  let t := makeDay (sign * year) (month - 1) date * msPerDay + time
  if (0 < sign ∨ year ≠ 0) ∧ 1 ≤ month ∧ month ≤ 12 ∧ 1 ≤ date ∧ date ≤ 31 ∧ -maxTime ≤ t ∧ t ≤ maxTime then some t
  else none

def parse (s : String) : Option Int :=
  match s.toList with
  | '+' :: cs => parseDate 1 6 cs
  | '-' :: cs => parseDate (-1) 6 cs
  | cs => parseDate 1 4 cs

/-! ## Reading what was written -/

theorem parseTime_timeText (ms : Nat) (h : ms < 86400000) : parseTime (timeText ms) = some (ms : Int) := by
  have hh : ms / 3600000 < 10 ^ 2 := by omega
  have hm : ms / 60000 % 60 < 10 ^ 2 := by omega
  have hs : ms / 1000 % 60 < 10 ^ 2 := by omega
  have hms : ms % 1000 < 10 ^ 3 := by omega
  have hok : True ∧ ms / 3600000 ≤ 23 ∧ ms / 60000 % 60 ≤ 59 ∧ ms / 1000 % 60 ≤ 59 := by
    refine ⟨trivial, ?_, ?_, ?_⟩ <;> omega
  unfold parseTime timeText
  simp only [field_digits _ _ _ _ hh, field_digits _ _ _ _ hm, field_digits _ _ _ _ hs, field_digits _ _ _ _ hms,
    Option.bind_eq_bind, Option.bind_some]
  rw [if_pos hok]
  exact congrArg (fun n : Nat => some (n : Int)) (by omega)

/-- The parts of the date are in range, and the day they make is the day they came from. -/
theorem parseDate_text {t : Int} {sign : Int} {k n : Nat} (hn : n < 10 ^ k) (hy : sign * n = yearOfDay (day t))
    (hs : 0 < sign ∨ n ≠ 0) (h0 : -maxTime ≤ t) (h1 : t ≤ maxTime) :
    parseDate sign k (digits k n ++ '-' :: (digits 2 (monthOfDay (day t) + 1).toNat ++
      '-' :: (digits 2 (dateOfDay (day t)).toNat ++ 'T' :: timeText (timeWithinDay t).toNat))) = some t := by
  have hmr := monthOfDay_range (day t)
  have hdr := dateOfDay_range (day t)
  have htr : 0 ≤ timeWithinDay t ∧ timeWithinDay t < 86400000 := by
    unfold timeWithinDay msPerDay
    omega
  have hm : (monthOfDay (day t) + 1).toNat < 10 ^ 2 := by omega
  have hd : (dateOfDay (day t)).toNat < 10 ^ 2 := by omega
  have ht : (timeWithinDay t).toNat < 86400000 := by omega
  have hmc : (((monthOfDay (day t) + 1).toNat : Nat) : Int) - 1 = monthOfDay (day t) := by omega
  have hdc : ((dateOfDay (day t)).toNat : Int) = dateOfDay (day t) := by omega
  have htc : ((timeWithinDay t).toNat : Int) = timeWithinDay t := by omega
  have hmake := makeDay_of_day (day t) 0
  rw [Int.add_zero, Int.add_zero] at hmake
  have hback : day t * msPerDay + timeWithinDay t = t := by
    unfold day timeWithinDay
    rw [Int.mul_comm]
    exact Int.mul_ediv_add_emod t msPerDay
  unfold parseDate
  simp only [field_digits _ _ _ _ hn, field_digits _ _ _ _ hm, field_digits _ _ _ _ hd, parseTime_timeText _ ht,
    Option.bind_eq_bind, Option.bind_some, hy, hmc, hdc, htc, hmake, hback]
  have hmonth : 1 ≤ (monthOfDay (day t) + 1).toNat ∧ (monthOfDay (day t) + 1).toNat ≤ 12 := by omega
  have hdate : 1 ≤ (dateOfDay (day t)).toNat ∧ (dateOfDay (day t)).toNat ≤ 31 := by omega
  exact if_pos ⟨hs, hmonth.1, hmonth.2, hdate.1, hdate.2, h0, h1⟩

theorem year_bound {t : Int} (h0 : -maxTime ≤ t) (h1 : t ≤ maxTime) : (yearOfDay (day t)).natAbs < 10 ^ 6 := by
  obtain ⟨hl, hu⟩ := yearOfDay_range (day t)
  generalize yearOfDay (day t) = y at hl hu
  unfold maxTime at h0 h1
  unfold dayFromYear day msPerDay at hl hu
  omega

theorem parse_toISOString {t : Int} (h0 : -maxTime ≤ t) (h1 : t ≤ maxTime) : parse (toISOString t) = some t := by
  have hb := year_bound h0 h1
  unfold parse toISOString
  rw [String.toList_ofList]
  unfold yearText
  by_cases h4 : 0 ≤ yearOfDay (day t) ∧ yearOfDay (day t) ≤ 9999
  · have hy : ((yearOfDay (day t)).toNat : Int) = yearOfDay (day t) := Int.toNat_of_nonneg h4.1
    have hs := digit_ne_sign ⟨(yearOfDay (day t)).toNat / 10 ^ 3 % 10, Nat.mod_lt _ (by decide)⟩
    have hparse := parseDate_text (k := 4) (n := (yearOfDay (day t)).toNat) (by omega) ((Int.one_mul _).trans hy)
      (.inl Int.one_pos) h0 h1
    rw [if_pos h4]
    rw [digits_cons, List.cons_append] at hparse ⊢
    -- a text that begins with a digit has no sign
    split
    · rename_i he
      exact absurd (List.cons.inj he).1 hs.1
    · rename_i he
      exact absurd (List.cons.inj he).1 hs.2
    · exact hparse
  · rw [if_neg h4]
    by_cases hneg : yearOfDay (day t) < 0
    · rw [if_pos hneg]
      exact parseDate_text hb (by omega) (.inr (by omega)) h0 h1
    · rw [if_neg hneg]
      exact parseDate_text hb (by omega) (.inl (by omega)) h0 h1

end IsoDate
