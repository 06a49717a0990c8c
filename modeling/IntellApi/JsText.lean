import IntellApi.JsNumber

/-!
# Numbers as decimal texts

`parseFloat` reads the longest numeral that a text begins with, whatever
follows it; one that is too large is read as infinite. `toFixedText` is the text
of `toFixed`, which leaves the decimals at `10 ^ 21`. Read back, with any unit
behind it, it gives the number as `toFixed` rounds it (`parse_toFixedText`).
-/

namespace JsNumber

/-! ## Reading -/

/-- What lies half-way to the first power of two that is not finite is infinite. -/
def overflow : ℚ := 2 ^ 1024 - 2 ^ 970

/-- The number of a numeral in a text or in JSON. -/
def ofRat (q : ℚ) : JsNumber := if |q| < overflow then num q else inf (q < 0)

/-- White space and line ends of the language. -/
def isWhite (c : Char) : Bool :=
  c.toNat ∈ [9, 10, 11, 12, 13, 32, 0xa0, 0x1680, 0x2028, 0x2029, 0x202f, 0x205f, 0x3000, 0xfeff]
    || (0x2000 ≤ c.toNat && c.toNat ≤ 0x200a)

def signed : List Char → Bool × List Char
  | '-' :: cs => (true, cs)
  | '+' :: cs => (false, cs)
  | cs => (false, cs)

/-- The digits after a point, which may be left out, and the rest. -/
def fraction : List Char → List Char × List Char
  | '.' :: cs => (cs.takeWhile Char.isDigit, cs.dropWhile Char.isDigit)
  | cs => ([], cs)

/-- An `e` without digits behind it is no part of the numeral. -/
def exponent : List Char → Int
  | c :: cs =>
    if c = 'e' ∨ c = 'E' then
      let n := Nat.ofDigitChars 10 ((signed cs).2.takeWhile Char.isDigit) 0
      if (signed cs).1 then -n else n
    else 0
  | [] => 0

def parseUnsigned (cs : List Char) : JsNumber :=
  if "Infinity".toList.isPrefixOf cs then inf false
  else
    let whole := cs.takeWhile Char.isDigit
    let part := fraction (cs.dropWhile Char.isDigit)
    if whole ++ part.1 = [] then nan
    else ofRat (Nat.ofDigitChars 10 (whole ++ part.1) 0 * 10 ^ (exponent part.2 - part.1.length))

def parse (cs : List Char) : JsNumber :=
  let (neg, cs) := signed (cs.dropWhile isWhite)
  if neg then -parseUnsigned cs else parseUnsigned cs

def parseFloat (s : String) : JsNumber := parse s.toList

/-- `parseInt` to the base ten. -/
def parseInt (s : String) : Option Int :=
  let (neg, cs) := signed (s.toList.dropWhile isWhite)
  let digits := cs.takeWhile Char.isDigit
  let n : Int := Nat.ofDigitChars 10 digits 0
  if digits = [] then none else some (if neg then -n else n)

/-! ## Writing -/

/-- The last `k` digits. -/
def lastDigits : Nat → Nat → List Char
  | 0, _ => []
  | k + 1, n => lastDigits k (n / 10) ++ [(n % 10).digitChar]

/-- The text of `n / 10 ^ k`. -/
def decimalText (k n : Nat) : List Char :=
  Nat.toDigits 10 (n / 10 ^ k) ++ if k = 0 then [] else '.' :: lastDigits k n

def toFixedText (k : Nat) (q : ℚ) : List Char :=
  if q < 0 then '-' :: decimalText k (roundRat (-q * 10 ^ k)).toNat else decimalText k (roundRat (q * 10 ^ k)).toNat

/-- Numbers from `10 ^ 21` on are printed as `String` does it. -/
def toFixedString (string : ℚ → List Char) (k : Nat) (q : ℚ) : List Char :=
  if |q| < 10 ^ 21 then toFixedText k q else string q

/-! ## Finite numerals -/

theorem ofRat_of_lt {q : ℚ} (h : |q| < overflow) : ofRat q = num q := if_pos h

theorem lt_overflow {q : ℚ} (h : |q| < 10 ^ 21 + 1) : |q| < overflow := by
  have hle : (2 : ℚ) ^ 70 ≤ 2 ^ 970 := pow_le_pow_right₀ (by norm_num) (by decide)
  have hsplit : overflow = 2 ^ 970 * 2 ^ 54 - 2 ^ 970 := congrArg (· - (2 : ℚ) ^ 970) (pow_add 2 970 54)
  rw [hsplit]
  generalize (2 : ℚ) ^ 970 = x at hle
  norm_num at h hle ⊢
  linarith

/-! ## Digits -/

theorem isDigit_digitChar : ∀ d : Fin 10, (d : Nat).digitChar.isDigit = true := by decide

theorem length_lastDigits (k n : Nat) : (lastDigits k n).length = k := by
  induction k generalizing n with
  | zero => rfl
  | succ k ih => rw [lastDigits, List.length_append, ih, List.length_singleton]

theorem isDigit_lastDigits {k n : Nat} {c : Char} (h : c ∈ lastDigits k n) : c.isDigit = true := by
  induction k generalizing n with
  | zero => cases h
  | succ k ih =>
    rw [lastDigits, List.mem_append, List.mem_singleton] at h
    rcases h with h | rfl
    · exact ih h
    · exact isDigit_digitChar ⟨n % 10, Nat.mod_lt _ (by decide)⟩

theorem ofDigitChars_lastDigits (k n : Nat) : Nat.ofDigitChars 10 (lastDigits k n) 0 = n % 10 ^ k := by
  induction k generalizing n with
  | zero => rw [lastDigits, Nat.ofDigitChars_nil, pow_zero, Nat.mod_one]
  | succ k ih =>
    rw [lastDigits, Nat.ofDigitChars_append, ih, Nat.ofDigitChars_cons_digitChar_of_lt_ten (Nat.mod_lt _ (by decide)),
      Nat.ofDigitChars_nil, pow_succ', Nat.mod_mul]
    omega

theorem ofDigitChars_decimal (k n : Nat) :
    Nat.ofDigitChars 10 (Nat.toDigits 10 (n / 10 ^ k) ++ lastDigits k n) 0 = n := by
  rw [Nat.ofDigitChars_append, Nat.ofDigitChars_toDigits (by decide) (by decide), Nat.ofDigitChars_eq_ofDigitChars_zero,
    ofDigitChars_lastDigits, length_lastDigits]
  exact Nat.div_add_mod n (10 ^ k)

/-! ## The error of rounding -/

theorem abs_roundRat_sub (q : ℚ) : |(roundRat q : ℚ) - q| ≤ 1 / 2 := by
  have h0 := Int.floor_le (q + 1 / 2)
  have h1 := Int.lt_floor_add_one (q + 1 / 2)
  rw [abs_le]
  unfold roundRat
  constructor <;> linarith

theorem abs_toFixedRat_sub (k : Nat) (q : ℚ) : |toFixedRat k q - q| ≤ 1 / 2 / 10 ^ k := by
  have hk : (0 : ℚ) < 10 ^ k := by positivity
  have key : ∀ r : ℚ, |(roundRat (r * 10 ^ k) : ℚ) / 10 ^ k - r| ≤ 1 / 2 / 10 ^ k := by
    intro r
    have h := abs_roundRat_sub (r * 10 ^ k)
    have he : (roundRat (r * 10 ^ k) : ℚ) / 10 ^ k - r = (roundRat (r * 10 ^ k) - r * 10 ^ k) / 10 ^ k := by
      rw [sub_div, mul_div_assoc, div_self hk.ne', mul_one]
    rw [he, abs_div, abs_of_pos hk]
    exact div_le_div_of_nonneg_right h hk.le
  unfold toFixedRat
  split
  · have h := key (-q)
    rw [← abs_neg] at h
    have he : -((roundRat (-q * 10 ^ k) : ℚ) / 10 ^ k - -q) = -(roundRat (-q * 10 ^ k) : ℚ) / 10 ^ k - q := by
      rw [neg_sub, neg_div]
      linarith
    rw [he] at h
    exact h
  · exact key q

/-! ## Reading back -/

/-- Whatever begins so does not go on with a numeral. -/
def Ends (rest : List Char) : Prop := ∀ c ∈ rest.head?, c.isDigit = false ∧ c ≠ '.' ∧ c ≠ 'e' ∧ c ≠ 'E'

theorem ends_nil : Ends [] := fun c h => by cases h

theorem Ends.takeWhile {rest : List Char} (h : Ends rest) : rest.takeWhile Char.isDigit = [] := by
  cases rest with
  | nil => rfl
  | cons c rest => rw [List.takeWhile_cons, (h c rfl).1]; rfl

theorem Ends.dropWhile {rest : List Char} (h : Ends rest) : rest.dropWhile Char.isDigit = rest := by
  cases rest with
  | nil => rfl
  | cons c rest => rw [List.dropWhile_cons, (h c rfl).1]; rfl

theorem Ends.exponent {rest : List Char} (h : Ends rest) : exponent rest = 0 := by
  cases rest with
  | nil => rfl
  | cons c rest =>
    have hc := h c rfl
    exact if_neg (by rintro (he | he) <;> simp [he] at hc)

theorem Ends.fraction {rest : List Char} (h : Ends rest) : fraction rest = ([], rest) := by
  unfold JsNumber.fraction
  split
  · exact absurd rfl (h '.' rfl).2.1
  · rfl

/-- What a numeral without its sign begins with. -/
theorem head_decimalText (k n : Nat) (rest : List Char) :
    ∃ c cs, decimalText k n ++ rest = c :: cs ∧ c.isDigit = true := by
  unfold decimalText
  cases h : Nat.toDigits 10 (n / 10 ^ k) with
  | nil => exact absurd h Nat.toDigits_ne_nil
  | cons c cs =>
    refine ⟨c, _, rfl, Nat.isDigit_of_mem_toDigits (b := 10) (n := n / 10 ^ k) (by decide) (by decide) ?_⟩
    rw [h]
    exact List.mem_cons_self

theorem digit_ne {c : Char} (h : c.isDigit = true) : c ≠ '-' ∧ c ≠ '+' ∧ c ≠ 'I' ∧ isWhite c = false := by
  have hb : 48 ≤ c.toNat ∧ c.toNat ≤ 57 := by
    simpa [Char.isDigit, UInt32.le_iff_toNat_le] using h
  refine ⟨?_, ?_, ?_, ?_⟩
  · rintro rfl; revert h; decide
  · rintro rfl; revert h; decide
  · rintro rfl; revert h; decide
  · simp only [isWhite, List.mem_cons, List.not_mem_nil, or_false, Bool.or_eq_false_iff, Bool.and_eq_false_iff,
      decide_eq_false_iff_not]
    omega

theorem parseUnsigned_decimalText (k n : Nat) {rest : List Char} (h : Ends rest) :
    parseUnsigned (decimalText k n ++ rest) = ofRat (n / 10 ^ k) := by
  have hd : ∀ c ∈ Nat.toDigits 10 (n / 10 ^ k), c.isDigit = true :=
    fun c hc => Nat.isDigit_of_mem_toDigits (by decide) (by decide) hc
  have hinf : "Infinity".toList.isPrefixOf (decimalText k n ++ rest) = false := by
    obtain ⟨c, cs, he, hc⟩ := head_decimalText k n rest
    rw [he]
    simp [List.isPrefixOf, (digit_ne hc).2.2.1.symm]
  have hne : Nat.toDigits 10 (n / 10 ^ k) ≠ [] := Nat.toDigits_ne_nil
  unfold parseUnsigned
  rw [hinf]
  unfold decimalText
  by_cases hk : k = 0
  · subst hk
    rw [if_pos rfl, List.append_nil, List.takeWhile_append_of_pos hd, List.dropWhile_append_of_pos hd, h.takeWhile,
      h.dropWhile, h.fraction]
    simp [Nat.ofDigitChars_toDigits, h.exponent]
  · rw [if_neg hk, List.append_assoc, List.takeWhile_append_of_pos hd, List.dropWhile_append_of_pos hd]
    have hl : ∀ c ∈ lastDigits k n, c.isDigit = true := fun c hc => isDigit_lastDigits hc
    have ht : ('.' :: lastDigits k n ++ rest).takeWhile Char.isDigit = [] := rfl
    have hdr : ('.' :: lastDigits k n ++ rest).dropWhile Char.isDigit = '.' :: (lastDigits k n ++ rest) := rfl
    have hf : fraction ('.' :: (lastDigits k n ++ rest)) = (lastDigits k n, rest) := by
      show ((lastDigits k n ++ rest).takeWhile Char.isDigit, (lastDigits k n ++ rest).dropWhile Char.isDigit) = _
      rw [List.takeWhile_append_of_pos hl, List.dropWhile_append_of_pos hl, h.takeWhile, h.dropWhile, List.append_nil]
    rw [ht, hdr, hf, List.append_nil]
    simp only [Bool.false_eq_true, if_false, List.append_eq_nil_iff, hne, false_and, ofDigitChars_decimal, h.exponent,
      length_lastDigits, zero_sub, zpow_neg, zpow_natCast]
    rfl

theorem parse_decimalText (k n : Nat) {rest : List Char} (h : Ends rest) :
    parse (decimalText k n ++ rest) = ofRat (n / 10 ^ k) ∧
      parse ('-' :: (decimalText k n ++ rest)) = -ofRat (n / 10 ^ k) := by
  have hp := parseUnsigned_decimalText k n h
  obtain ⟨c, cs, he, hc⟩ := head_decimalText k n rest
  have hn := digit_ne hc
  rw [he] at hp ⊢
  constructor
  · have hs : signed (c :: cs) = (false, c :: cs) := by
      unfold signed
      split
      · rename_i h; exact absurd (List.cons.inj h).1 hn.1
      · rename_i h; exact absurd (List.cons.inj h).1 hn.2.1
      · rfl
    rw [parse, List.dropWhile_cons, hn.2.2.2, if_neg (by decide), hs, ← hp]
    rfl
  · rw [← hp]
    rfl

theorem toNat_roundRat {q : ℚ} (h : 0 ≤ q) : ((roundRat q).toNat : ℚ) = roundRat q := by
  have : ((roundRat q).toNat : Int) = roundRat q := Int.toNat_of_nonneg (roundRat_nonneg h)
  exact_mod_cast this

theorem abs_toFixedRat_lt {k : Nat} {q : ℚ} (hq : |q| < 10 ^ 21) : |toFixedRat k q| < overflow := by
  have herr : |toFixedRat k q - q| ≤ 1 / 2 :=
    (abs_toFixedRat_sub k q).trans (div_le_self (by norm_num) (one_le_pow₀ (by norm_num)))
  refine lt_overflow ?_
  have h := abs_add_le (toFixedRat k q - q) q
  rw [sub_add_cancel] at h
  linarith

theorem parse_toFixedText (k : Nat) {q : ℚ} (hq : |q| < 10 ^ 21) {rest : List Char} (h : Ends rest) :
    parse (toFixedText k q ++ rest) = num (toFixedRat k q) := by
  have hk : (0 : ℚ) ≤ 10 ^ k := by positivity
  have hlt := abs_toFixedRat_lt (k := k) hq
  unfold toFixedText toFixedRat at *
  by_cases hneg : q < 0
  · rw [if_pos hneg] at hlt
    rw [neg_div, abs_neg] at hlt
    rw [if_pos hneg, if_pos hneg, List.cons_append, (parse_decimalText k _ h).2,
      toNat_roundRat (mul_nonneg (neg_nonneg.mpr hneg.le) hk), ofRat_of_lt hlt, neg_div]
    rfl
  · rw [if_neg hneg] at hlt
    rw [if_neg hneg, if_neg hneg, (parse_decimalText k _ h).1, toNat_roundRat (mul_nonneg (not_lt.mp hneg) hk),
      ofRat_of_lt hlt]

/-! ## The characters of a numeral -/

def isNumeral (c : Char) : Bool := c.isDigit || c = '.' || c = '-'

theorem isNumeral_toFixedText {k : Nat} {q : ℚ} {c : Char} (h : c ∈ toFixedText k q) : isNumeral c = true := by
  have hd : ∀ n, c ∈ decimalText k n → isNumeral c = true := by
    intro n hc
    rw [decimalText, List.mem_append] at hc
    rcases hc with hc | hc
    · rw [isNumeral, Nat.isDigit_of_mem_toDigits (by decide) (by decide) hc]
      rfl
    · split at hc
      · cases hc
      · rcases List.mem_cons.mp hc with rfl | hc
        · rfl
        · rw [isNumeral, isDigit_lastDigits hc]
          rfl
  unfold toFixedText at h
  split at h
  · rcases List.mem_cons.mp h with rfl | h
    · rfl
    · exact hd _ h
  · exact hd _ h

/-- A text of which only the numeral's characters are kept loses its unit. -/
theorem filter_toFixedText (k : Nat) (q : ℚ) {unit : List Char} (h : ∀ c ∈ unit, isNumeral c = false) :
    (toFixedText k q ++ unit).filter isNumeral = toFixedText k q := by
  rw [List.filter_append, List.filter_eq_self.mpr fun c => isNumeral_toFixedText, List.filter_eq_nil_iff.mpr, List.append_nil]
  intro c hc
  rw [h c hc]
  decide

end JsNumber
