import IntellApi.IsoDate
import Mathlib.Tactic.Ring

/-!
# Dates sorted as texts

A date is spelled to the day, the minute, the second or a fraction of it, with
or without a zone. Without the zones the texts sort as the clock readings do
(`clock_le`). A zone that begins with a sign, or none, keeps that order; a `Z`
sorts after whatever a longer reading has in its place (`text_lt_iff`). A
fraction of more than nine digits may be read as more than it says
(`readMilliseconds`).
-/

namespace IsoDate

open Calendar

/-! ## Texts -/

section
variable {α : Type*} [LT α]

/-- A text that sorts before another differs from it somewhere or is a part of it. -/
theorem lt_cases {u v : List α} (h : u < v) : (∀ a b, u ++ a < v ++ b) ∨ ∃ c w, v = u ++ c :: w := by
  induction u generalizing v with
  | nil =>
    cases v with
    | nil => exact absurd h (List.not_lt_nil _)
    | cons c w => exact .inr ⟨c, w, rfl⟩
  | cons x u ih =>
    cases v with
    | nil => exact absurd h (List.not_lt_nil _)
    | cons y v =>
      rcases List.cons_lt_cons_iff.mp h with hxy | ⟨rfl, huv⟩
      · exact .inl fun a b => List.cons_lt_cons_iff.mpr (.inl hxy)
      · rcases ih huv with hd | ⟨c, w, rfl⟩
        · exact .inl fun a b => List.cons_lt_cons_iff.mpr (.inr ⟨rfl, hd a b⟩)
        · exact .inr ⟨c, w, rfl⟩

end

theorem digit_lt : ∀ a b : Fin 10, digit a < digit b ↔ a < b := by decide

theorem digit_inj : ∀ a b : Fin 10, digit a = digit b ↔ a = b := by decide

theorem digit_between : ∀ a : Fin 10, '-' < digit a ∧ digit a < 'Z' := by decide

theorem digits_append_lt (k : Nat) {n m : Nat} {u v : List Char} : digits k n ++ u < digits k m ++ v ↔
    n % 10 ^ k < m % 10 ^ k ∨ n % 10 ^ k = m % 10 ^ k ∧ u < v := by
  induction k with
  | zero => simp [digits, Nat.mod_one]
  | succ k ih =>
    have hlt := digit_lt ⟨n / 10 ^ k % 10, Nat.mod_lt _ (by decide)⟩ ⟨m / 10 ^ k % 10, Nat.mod_lt _ (by decide)⟩
    have hinj := digit_inj ⟨n / 10 ^ k % 10, Nat.mod_lt _ (by decide)⟩ ⟨m / 10 ^ k % 10, Nat.mod_lt _ (by decide)⟩
    simp only [Fin.mk_lt_mk, Fin.mk.injEq] at hlt hinj
    have hn : n % 10 ^ k < 10 ^ k := Nat.mod_lt _ (Nat.pow_pos (by decide))
    have hm : m % 10 ^ k < 10 ^ k := Nat.mod_lt _ (Nat.pow_pos (by decide))
    rw [digits_cons, digits_cons, List.cons_append, List.cons_append, List.cons_lt_cons_iff, hlt, hinj, ih,
      Nat.mod_pow_succ, Nat.mod_pow_succ]
    generalize n / 10 ^ k % 10 = p
    generalize m / 10 ^ k % 10 = q
    generalize n % 10 ^ k = a at hn ⊢
    generalize m % 10 ^ k = b at hm ⊢
    generalize 10 ^ k = B at hn hm ⊢
    rcases Nat.lt_trichotomy p q with h | rfl | h
    · have : B * (p + 1) ≤ B * q := Nat.mul_le_mul_left B h
      rw [Nat.mul_succ] at this
      omega
    · simp only [Nat.lt_irrefl, true_and, false_or, Nat.add_lt_add_iff_right, Nat.add_right_cancel_iff]
    · have : B * (q + 1) ≤ B * p := Nat.mul_le_mul_left B h
      rw [Nat.mul_succ] at this
      omega

theorem number_append_lt {k n m : Nat} {u v : List Char} (hn : n < 10 ^ k) (hm : m < 10 ^ k) :
    digits k n ++ u < digits k m ++ v ↔ n < m ∨ n = m ∧ u < v := by
  rw [digits_append_lt, Nat.mod_eq_of_lt hn, Nat.mod_eq_of_lt hm]

theorem digits_between {c : Char} {k n : Nat} (h : c ∈ digits k n) : '-' < c ∧ c < 'Z' := by
  induction k with
  | zero => cases h
  | succ k ih =>
    rw [digits_cons] at h
    rcases List.mem_cons.mp h with rfl | h
    · exact digit_between ⟨n / 10 ^ k % 10, Nat.mod_lt _ (by decide)⟩
    · exact ih h

/-! ## Days -/

def dateText (d : Int) : List Char :=
  digits 4 (yearOfDay d).toNat ++ '-' :: (digits 2 (monthOfDay d + 1).toNat ++ '-' :: digits 2 (dateOfDay d).toNat)

theorem day_lt_iff (a b : Int) : a < b ↔ yearOfDay a < yearOfDay b ∨ yearOfDay a = yearOfDay b ∧
    (monthOfDay a < monthOfDay b ∨ monthOfDay a = monthOfDay b ∧ dateOfDay a < dateOfDay b) := by
  have ha := monthOfDay_range a
  have hb := monthOfDay_range b
  obtain ⟨ha1, ha2⟩ := monthIndex_range a
  obtain ⟨hb1, hb2⟩ := monthIndex_range b
  rcases Int.lt_trichotomy (monthIndex a) (monthIndex b) with h | h | h
  · have := firstDay_le (j := monthIndex a + 1) (k := monthIndex b) h
    unfold monthIndex at *
    omega
  · have hy : yearOfDay a = yearOfDay b := by
      unfold monthIndex at h
      omega
    have hm : monthOfDay a = monthOfDay b := by
      unfold monthIndex at h
      omega
    unfold dateOfDay
    rw [hy, hm]
    omega
  · have := firstDay_le (j := monthIndex b + 1) (k := monthIndex a) h
    unfold monthIndex at *
    omega

/-- A year that is written with four digits. -/
structure CalendarDate where
  day : Int
  first : 0 ≤ yearOfDay day
  last : yearOfDay day ≤ 9999

theorem dateText_append_lt (a b : CalendarDate) {u v : List Char} :
    dateText a.day ++ u < dateText b.day ++ v ↔ a.day < b.day ∨ a.day = b.day ∧ u < v := by
  have ha := a.first
  have hb := b.first
  have ha' := a.last
  have hb' := b.last
  have hma := monthOfDay_range a.day
  have hmb := monthOfDay_range b.day
  have hda := dateOfDay_range a.day
  have hdb := dateOfDay_range b.day
  have hdash : ∀ {l l' : List Char}, '-' :: l < '-' :: l' ↔ l < l' := List.cons_lt_cons_self
  have hlt := day_lt_iff a.day b.day
  have hgt := day_lt_iff b.day a.day
  simp only [dateText, List.append_assoc, List.cons_append]
  rw [number_append_lt (by omega) (by omega), hdash, number_append_lt (by omega) (by omega), hdash,
    number_append_lt (by omega) (by omega)]
  by_cases hd : a.day = b.day
  · simp [hd]
  · omega

/-! ## Clock readings -/

/-- The first `k` digits after the point, as a number. -/
def fractionValue : Nat → List (Fin 10) → Nat
  | 0, _ => 0
  | _ + 1, [] => 0
  | k + 1, d :: ds => d * 10 ^ k + fractionValue k ds

/-- Digits as a number, most significant first. -/
def decimalValue (ds : List (Fin 10)) : Nat := ds.foldl (fun n (d : Fin 10) => 10 * n + (d : Nat)) 0

/-- What `new Date` reads: nine digits at most, and the zeros before the first
other digit do not count among these. -/
def readMilliseconds (fraction : List (Fin 10)) : Nat :=
  let value := decimalValue ((fraction.dropWhile (· = 0)).take 9)
  if fraction.length < 3 then value * 10 ^ (3 - fraction.length) else value / 10 ^ (min fraction.length 9 - 3)

def fractionText : List (Fin 10) → List Char
  | [] => []
  | d :: ds => '.' :: (d :: ds).map fun d : Fin 10 => digit d

structure Seconds where
  second : Fin 60
  fraction : List (Fin 10)
  deriving DecidableEq, Repr

/-- What is beyond the milliseconds is cut off. -/
def secondsMs : Option Seconds → Int
  | none => 0
  | some s => (s.second : Int) * 1000 + fractionValue 3 s.fraction

def readSeconds : Option Seconds → Int
  | none => 0
  | some s => (s.second : Int) * 1000 + readMilliseconds s.fraction

def secondsText : Option Seconds → List Char
  | none => []
  | some s => ':' :: (digits 2 s.second ++ fractionText s.fraction)

/-- The colon of an offset may be left out; without its minutes there is no date. -/
inductive Zone
  | server
  | utc
  | offset (west : Bool) (hours : Fin 24) (colon : Bool) (minutes : Fin 60)
  deriving DecidableEq, Repr

namespace Zone

def text : Zone → List Char
  | server => []
  | utc => ['Z']
  | offset west hours colon minutes =>
    (if west then '-' else '+') :: (digits 2 hours ++ ((if colon then [':'] else []) ++ digits 2 minutes))

/-- Milliseconds to the east. Without a zone a time is one of the server's. -/
def ms (tza : Int) : Zone → Int
  | server => tza
  | utc => 0
  | offset west hours _ minutes =>
    let east : Int := hours * 3600000 + (minutes : Int) * 60000
    if west then -east else east

end Zone

structure Clock where
  hour : Nat
  minute : Fin 60
  seconds : Option Seconds
  zone : Zone
  /-- The last time of a day is `24:00`, with nothing but zeros behind it. -/
  inDay : hour < 24 ∨ hour = 24 ∧ (minute : Nat) = 0 ∧ ∀ s ∈ seconds, (s.second : Nat) = 0 ∧ ∀ d ∈ s.fraction, d = 0

namespace Clock

def ms (c : Clock) : Int := (c.hour : Int) * 3600000 + (c.minute : Int) * 60000 + secondsMs c.seconds

/-- The time as `new Date` reads it. -/
def read (c : Clock) : Int := (c.hour : Int) * 3600000 + (c.minute : Int) * 60000 + readSeconds c.seconds

def stem (c : Clock) : List Char :=
  'T' :: (digits 2 c.hour ++ ':' :: (digits 2 c.minute ++ secondsText c.seconds))

end Clock

structure Spelling where
  date : CalendarDate
  time : Option Clock

namespace Spelling

def stem (s : Spelling) : List Char := dateText s.date.day ++ s.time.elim [] Clock.stem

def zoneText (s : Spelling) : List Char := s.time.elim [] (·.zone.text)

def text (s : Spelling) : String := String.ofList (s.stem ++ s.zoneText)

def clock (s : Spelling) : Int := s.date.day * msPerDay + s.time.elim 0 Clock.ms

/-- A date alone is one of UTC. -/
def offset (tza : Int) (s : Spelling) : Int := s.time.elim 0 (·.zone.ms tza)

/-- What `new Date` makes of the text. -/
def instant (tza : Int) (s : Spelling) : Int := s.date.day * msPerDay + s.time.elim 0 Clock.read - s.offset tza

/-- How much more than the text says is read from it. -/
def surplus (s : Spelling) : Int := s.time.elim 0 fun c => c.read - c.ms

/-- How far the instant is behind what the text says. -/
def lag (tza : Int) (s : Spelling) : Int := s.offset tza - s.surplus

/-- A `Z` ends the one text where the other goes on. -/
def CutShort (s t : Spelling) : Prop := s.time.any (·.zone = .utc) = true ∧ s.stem <+: t.stem ∧ s.stem ≠ t.stem

instance (s t : Spelling) : Decidable (s.CutShort t) := inferInstanceAs (Decidable (_ ∧ _ ∧ _))

end Spelling

/-! ## The order of the readings -/

theorem fractionValue_lt (k : Nat) (ds : List (Fin 10)) : fractionValue k ds < 10 ^ k := by
  induction k generalizing ds with
  | zero => exact Nat.one_pos
  | succ k ih =>
    cases ds with
    | nil => exact Nat.pow_pos (by decide)
    | cons d ds =>
      have := ih ds
      have hd : (d : Nat) * 10 ^ k ≤ 9 * 10 ^ k := Nat.mul_le_mul_right _ (by omega)
      rw [fractionValue, Nat.pow_succ]
      omega

theorem fractionValue_le {k : Nat} {ds es : List (Fin 10)}
    (h : ¬(ds.map fun d : Fin 10 => digit d) < es.map fun d : Fin 10 => digit d) :
    fractionValue k es ≤ fractionValue k ds := by
  induction k generalizing ds es with
  | zero => exact Nat.le_refl 0
  | succ k ih =>
    cases es with
    | nil => exact Nat.zero_le _
    | cons e es =>
      cases ds with
      | nil => exact absurd (List.nil_lt_cons _ _) h
      | cons d ds =>
        rw [List.map_cons, List.map_cons, List.cons_lt_cons_iff, digit_lt, digit_inj] at h
        have := fractionValue_lt k es
        simp only [fractionValue]
        rcases Nat.lt_trichotomy d e with hd | hd | hd
        · exact absurd (.inl hd) h
        · rw [hd]
          exact Nat.add_le_add_left (ih fun hlt => h (.inr ⟨Fin.ext hd, hlt⟩)) _
        · have hmul : ((e : Nat) + 1) * 10 ^ k ≤ d * 10 ^ k := Nat.mul_le_mul_right _ hd
          rw [Nat.succ_mul] at hmul
          omega

theorem fractionValue_zeros {k : Nat} {ds : List (Fin 10)} (h : ∀ d ∈ ds, d = 0) : fractionValue k ds = 0 := by
  induction k generalizing ds with
  | zero => rfl
  | succ k ih =>
    cases ds with
    | nil => rfl
    | cons d ds =>
      rw [fractionValue, h d List.mem_cons_self, ih fun e he => h e (List.mem_cons_of_mem _ he)]
      simp

theorem fractionText_le {k : Nat} {ds es : List (Fin 10)} (h : ¬fractionText ds < fractionText es) :
    fractionValue k es ≤ fractionValue k ds := by
  cases es with
  | nil => cases k <;> exact Nat.zero_le _
  | cons e es =>
    cases ds with
    | nil => exact absurd (List.nil_lt_cons _ _) h
    | cons d ds => exact fractionValue_le fun hlt => h (List.cons_lt_cons_self.mpr hlt)

theorem secondsMs_nonneg (s : Option Seconds) : 0 ≤ secondsMs s := by
  cases s with
  | none => exact Int.le_refl 0
  | some s =>
    simp only [secondsMs]
    omega

theorem secondsMs_lt (s : Option Seconds) : secondsMs s < 60000 := by
  cases s with
  | none => decide
  | some s =>
    have := fractionValue_lt 3 s.fraction
    have := s.second.isLt
    simp only [secondsMs]
    omega

theorem secondsText_le {s t : Option Seconds} (h : ¬secondsText s < secondsText t) : secondsMs t ≤ secondsMs s := by
  cases t with
  | none => exact secondsMs_nonneg s
  | some t =>
    cases s with
    | none => exact absurd (List.nil_lt_cons _ _) h
    | some s =>
      have hs := s.second.isLt
      have ht := t.second.isLt
      rw [secondsText, secondsText, List.cons_lt_cons_self, number_append_lt (by omega) (by omega)] at h
      have hfrac := fractionValue_lt 3 t.fraction
      simp only [secondsMs]
      by_cases heq : (s.second : Nat) = t.second
      · have := fractionText_le (k := 3) fun hlt => h (.inr ⟨heq, hlt⟩)
        omega
      · omega

namespace Clock

theorem upToMidnight (c : Clock) : c.ms ≤ msPerDay := by
  have hs := secondsMs_lt c.seconds
  have hm := c.minute.isLt
  unfold ms msPerDay
  rcases c.inDay with h | ⟨hh, hmin, hsec⟩
  · omega
  · have h0 : secondsMs c.seconds = 0 := by
      cases hc : c.seconds with
      | none => rfl
      | some s =>
        obtain ⟨h1, h2⟩ := hsec s hc
        rw [secondsMs, h1, fractionValue_zeros h2]
        rfl
    omega

theorem ms_nonneg (c : Clock) : 0 ≤ c.ms := by
  have := secondsMs_nonneg c.seconds
  unfold ms
  omega

theorem stem_le {c d : Clock} (h : ¬c.stem < d.stem) : d.ms ≤ c.ms := by
  have hs := secondsMs_nonneg c.seconds
  have ht := secondsMs_lt d.seconds
  have hc := c.upToMidnight
  have hd := d.upToMidnight
  have hd0 := secondsMs_nonneg d.seconds
  unfold ms msPerDay at hc hd
  have hm := c.minute.isLt
  have hn := d.minute.isLt
  rw [stem, stem, List.cons_lt_cons_self, number_append_lt (by omega) (by omega), List.cons_lt_cons_self,
    number_append_lt (by omega) (by omega)] at h
  unfold ms
  by_cases heq : c.hour = d.hour ∧ (c.minute : Nat) = d.minute
  · have := secondsText_le fun hlt => h (.inr ⟨heq.1, .inr ⟨heq.2, hlt⟩⟩)
    omega
  · omega

end Clock

theorem Zone.text_lt {z : Zone} (hz : z ≠ .utc) {x : Char} (hx : '-' < x) (w : List Char) : z.text < x :: w := by
  have hsign : ∀ west : Bool, (if west then '-' else '+') < x := fun west => by
    cases west
    · exact Char.lt_trans (by decide) hx
    · exact hx
  cases z with
  | server => exact List.nil_lt_cons _ _
  | utc => exact absurd rfl hz
  | offset west hours colon minutes => exact List.cons_lt_cons_iff.mpr (.inl (hsign west))

namespace Spelling

variable {s t : Spelling}

/-- A text that does not sort first does not show the earlier time. -/
theorem clock_le (h : ¬s.stem < t.stem) : t.clock ≤ s.clock := by
  rw [stem, stem, dateText_append_lt] at h
  have hbound : ∀ u : Option Clock, 0 ≤ u.elim 0 Clock.ms ∧ u.elim 0 Clock.ms ≤ msPerDay := by
    intro u
    cases u with
    | none => decide
    | some c => exact ⟨c.ms_nonneg, c.upToMidnight⟩
  have hs := hbound s.time
  have ht := hbound t.time
  unfold clock
  by_cases hd : s.date.day = t.date.day
  · rw [hd]
    refine Int.add_le_add_left ?_ _
    cases htime : t.time with
    | none => exact hs.1
    | some d =>
      rw [htime] at h
      cases hstime : s.time with
      | none =>
        rw [hstime] at h
        exact absurd (.inr ⟨hd, List.nil_lt_cons _ _⟩) h
      | some c =>
        rw [hstime] at h
        exact Clock.stem_le fun hlt => h (.inr ⟨hd, hlt⟩)
  · unfold msPerDay at *
    omega

/-! ## The order of the texts -/

theorem text_lt_iff_toList : s.text < t.text ↔ s.stem ++ s.zoneText < t.stem ++ t.zoneText := by
  rw [String.lt_iff, text, text, String.toList_ofList, String.toList_ofList]

theorem length_dateText (d : Int) : (dateText d).length = 10 := by
  simp [dateText, length_digits]

theorem secondsText_between {seconds : Option Seconds} {x : Char} (h : x ∈ secondsText seconds) :
    '-' < x ∧ x < 'Z' := by
  cases seconds with
  | none => cases h
  | some seconds =>
    rcases List.mem_cons.mp h with rfl | h
    · decide
    rcases List.mem_append.mp h with h | h
    · exact digits_between h
    cases hf : seconds.fraction with
    | nil => rw [hf] at h; cases h
    | cons d ds =>
      rw [hf] at h
      rcases List.mem_cons.mp h with rfl | h
      · decide
      obtain ⟨e, -, rfl⟩ := List.mem_map.mp h
      exact digit_between e

theorem clockStem_between {c : Clock} {x : Char} (h : x ∈ c.stem.tail) : '-' < x ∧ x < 'Z' := by
  rcases List.mem_append.mp h with h | h
  · exact digits_between h
  rcases List.mem_cons.mp h with rfl | h
  · decide
  rcases List.mem_append.mp h with h | h
  · exact digits_between h
  · exact secondsText_between h

/-- What follows a time in a longer text is a digit or the separator before one. -/
theorem next_between {c : Clock} {x : Char} {w : List Char} (hs : s.time = some c) (h : t.stem = s.stem ++ x :: w) :
    '-' < x ∧ x < 'Z' := by
  unfold stem at h
  rw [hs, Option.elim_some, List.append_assoc] at h
  have hl : (dateText t.date.day).length = (dateText s.date.day).length := by
    rw [length_dateText, length_dateText]
  obtain ⟨-, h⟩ := List.append_inj h hl
  cases ht : t.time with
  | none => rw [ht] at h; cases h
  | some d =>
    rw [ht, Option.elim_some] at h
    have hx : x ∈ d.stem.tail := by
      rw [h]
      exact List.mem_append_right _ (List.mem_cons_self ..)
    exact clockStem_between hx

/-- A longer text sorts behind what it goes on from, whose zone is no `Z`. -/
theorem text_lt_longer {x : Char} {w : List Char} (hx : t.stem = s.stem ++ x :: w)
    (hz : ∀ c, s.time = some c → c.zone ≠ .utc) : s.text < t.text := by
  rw [text_lt_iff_toList, hx, List.append_assoc]
  refine List.append_left_lt ?_
  cases hs : s.time with
  | none =>
    rw [zoneText, hs]
    exact List.nil_lt_cons _ _
  | some c =>
    rw [zoneText, hs]
    exact Zone.text_lt (hz c hs) (next_between hs hx).1 _

theorem longer_text_lt {c : Clock} {x : Char} {w : List Char} (hx : t.stem = s.stem ++ x :: w)
    (hs : s.time = some c) (hz : c.zone = .utc) : t.text < s.text := by
  have hzone : s.zoneText = ['Z'] := by
    rw [zoneText, hs, Option.elim_some, hz]
    rfl
  rw [text_lt_iff_toList, hx, hzone, List.append_assoc]
  refine List.append_left_lt ?_
  exact List.cons_lt_cons_iff.mpr (.inl (next_between hs hx).2)

theorem text_asymm (h : s.text < t.text) : ¬t.text < s.text := fun h' =>
  String.lt_irrefl _ (String.lt_trans h h')

/-- The text of the earlier reading sorts first, unless a `Z` cuts it short. -/
theorem text_order (h : s.clock < t.clock) :
    (s.text < t.text ↔ ¬s.CutShort t) ∧ (t.text < s.text ↔ s.CutShort t) := by
  have hst : s.stem < t.stem := by
    by_contra hn
    have := clock_le hn
    omega
  have hfirst : s.text < t.text → ¬s.CutShort t → (s.text < t.text ↔ ¬s.CutShort t) ∧
      (t.text < s.text ↔ s.CutShort t) :=
    fun hlt hcut => ⟨iff_of_true hlt hcut, iff_of_false (text_asymm hlt) hcut⟩
  rcases lt_cases hst with hd | ⟨x, w, hx⟩
  · refine hfirst (text_lt_iff_toList.mpr (hd _ _)) ?_
    rintro ⟨-, ⟨v, hv⟩, -⟩
    have := hd v []
    rw [hv, List.append_nil] at this
    exact List.lt_irrefl _ this
  · by_cases hz : s.time.any (·.zone = .utc) = true
    · have hcut : s.CutShort t := ⟨hz, ⟨_, hx.symm⟩, fun he => List.lt_irrefl _ (he ▸ hst)⟩
      obtain ⟨c, hs, hc⟩ := Option.any_eq_true _ _ |>.mp hz
      have hgt := longer_text_lt hx hs (of_decide_eq_true hc)
      exact ⟨iff_of_false (text_asymm hgt) (not_not.mpr hcut), iff_of_true hgt hcut⟩
    · refine hfirst (text_lt_longer hx fun c hs hc => hz ?_) fun hcut => hz hcut.1
      rw [hs]
      exact decide_eq_true hc

/-! ## The order of the instants -/

theorem instant_eq (tza : Int) (s : Spelling) : s.instant tza = s.clock - s.lag tza := by
  unfold instant clock lag surplus
  cases s.time with
  | none => simp only [Option.elim_none]; omega
  | some c => simp only [Option.elim_some]; omega

/-- Two readings, and what their zones and the form of their texts make of the
order of the two. -/
def InOrder (tza : Int) (s t : Spelling) : Prop :=
  if s.clock < t.clock then t.clock - s.clock ≤ t.lag tza - s.lag tza ↔ s.CutShort t
  else if t.clock < s.clock then s.clock - t.clock < s.lag tza - t.lag tza ↔ t.CutShort s
  else t.lag tza < s.lag tza ↔ s.text < t.text

/-- The texts sort as the instants do exactly if the zones (and digits that are
read as more) turn the order of the readings round where the earlier one is cut
short, and nowhere else. -/
theorem text_lt_iff (tza : Int) (s t : Spelling) :
    (s.text < t.text ↔ s.instant tza < t.instant tza) ↔ InOrder tza s t := by
  have hinst : s.instant tza < t.instant tza ↔ t.lag tza - s.lag tza < t.clock - s.clock := by
    rw [instant_eq, instant_eq]
    omega
  rw [hinst, InOrder]
  by_cases hst : s.clock < t.clock
  · rw [if_pos hst, (text_order hst).1, ← Int.not_le, not_iff_not]
    exact Iff.comm
  · rw [if_neg hst]
    by_cases hts : t.clock < s.clock
    · have hneg : t.lag tza - s.lag tza < t.clock - s.clock ↔ s.clock - t.clock < s.lag tza - t.lag tza := by omega
      rw [if_pos hts, (text_order hts).2, hneg]
      exact Iff.comm
    · have hzero : t.lag tza - s.lag tza < t.clock - s.clock ↔ t.lag tza < s.lag tza := by omega
      rw [if_neg hts, hzero]
      exact Iff.comm

end Spelling

/-! ## Short fractions -/

theorem foldl_decimal (ds : List (Fin 10)) (n : Nat) :
    ds.foldl (fun n (d : Fin 10) => 10 * n + (d : Nat)) n = n * 10 ^ ds.length + decimalValue ds := by
  unfold decimalValue
  induction ds generalizing n with
  | nil => simp
  | cons d ds ih =>
    rw [List.foldl_cons, List.foldl_cons, ih, ih (10 * 0 + d), List.length_cons]
    ring

theorem decimalValue_cons (d : Fin 10) (ds : List (Fin 10)) :
    decimalValue (d :: ds) = d * 10 ^ ds.length + decimalValue ds := by
  rw [decimalValue, List.foldl_cons, foldl_decimal]
  simp

theorem decimalValue_lt (ds : List (Fin 10)) : decimalValue ds < 10 ^ ds.length := by
  induction ds with
  | nil => exact Nat.one_pos
  | cons d ds ih =>
    have hd : (d : Nat) * 10 ^ ds.length ≤ 9 * 10 ^ ds.length := Nat.mul_le_mul_right _ (by omega)
    rw [decimalValue_cons, List.length_cons, Nat.pow_succ]
    omega

theorem decimalValue_dropWhile (ds : List (Fin 10)) : decimalValue (ds.dropWhile (· = 0)) = decimalValue ds := by
  induction ds with
  | nil => rfl
  | cons d ds ih =>
    by_cases hd : d = 0
    · rw [List.dropWhile_cons_of_pos (by simpa using hd), ih, decimalValue_cons, hd]
      simp
    · rw [List.dropWhile_cons_of_neg (by simpa using hd)]

theorem fractionValue_decimal (k : Nat) (ds : List (Fin 10)) :
    fractionValue k ds = decimalValue ds * 10 ^ k / 10 ^ ds.length := by
  induction ds generalizing k with
  | nil => cases k <;> simp [fractionValue, decimalValue]
  | cons d ds ih =>
    cases k with
    | zero =>
      rw [fractionValue, Nat.pow_zero, Nat.mul_one, Nat.div_eq_of_lt (decimalValue_lt _)]
    | succ k =>
      have hpos : 0 < 10 ^ ds.length := Nat.pow_pos (by decide)
      have hsplit : decimalValue (d :: ds) * 10 ^ (k + 1) / 10 ^ (d :: ds).length =
          (d * 10 ^ k * 10 ^ ds.length + decimalValue ds * 10 ^ k) / 10 ^ ds.length := by
        rw [List.length_cons, Nat.pow_succ, Nat.pow_succ, ← Nat.mul_assoc, Nat.mul_div_mul_right _ _ (by decide),
          decimalValue_cons]
        congr 1
        ring
      rw [fractionValue, hsplit, Nat.mul_comm (d * 10 ^ k), Nat.mul_add_div hpos, ih]

/-- Up to nine digits are read as they are written. -/
theorem readMilliseconds_short {ds : List (Fin 10)} (h : ds.length ≤ 9) : readMilliseconds ds = fractionValue 3 ds := by
  have hle : (ds.dropWhile (· = 0)).length ≤ 9 := (List.dropWhile_suffix _).length_le.trans h
  rw [fractionValue_decimal, readMilliseconds, List.take_of_length_le hle, decimalValue_dropWhile, Nat.min_eq_left h]
  split
  · rename_i hlt
    have hp : 10 ^ 3 = 10 ^ (3 - ds.length) * 10 ^ ds.length := by rw [← Nat.pow_add, Nat.sub_add_cancel (by omega)]
    rw [hp, ← Nat.mul_assoc, Nat.mul_div_cancel _ (Nat.pow_pos (by decide))]
  · rename_i hge
    have hp : 10 ^ ds.length = 10 ^ (ds.length - 3) * 10 ^ 3 := by rw [← Nat.pow_add, Nat.sub_add_cancel (by omega)]
    rw [hp, Nat.mul_div_mul_right _ _ (by decide)]

theorem Spelling.surplus_short {s : Spelling} (h : ∀ c ∈ s.time, ∀ x ∈ c.seconds, x.fraction.length ≤ 9) :
    s.surplus = 0 := by
  unfold surplus
  cases hs : s.time with
  | none => rfl
  | some c =>
    simp only [Option.elim_some, Clock.read, Clock.ms]
    cases hc : c.seconds with
    | none => simp [readSeconds, secondsMs]
    | some x => simp [readSeconds, secondsMs, readMilliseconds_short (h c hs x hc)]

end IsoDate
