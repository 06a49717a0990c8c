import Mathlib.Data.Rat.Floor
import Mathlib.Tactic.NormNum

/-!
# Numbers of the scripting language, over exact rationals

Finite numbers are rationals and are not rounded; there is one zero. `nan` and
the infinities behave as the language says: `nan` spreads through arithmetic
and every comparison with it is false.
-/

inductive JsNumber
  | nan
  | inf (neg : Bool)
  | num (q : ℚ)
  deriving DecidableEq, Repr

namespace JsNumber

instance {n : Nat} : OfNat JsNumber n := ⟨num n⟩

def add : JsNumber → JsNumber → JsNumber
  | num a, num b => num (a + b)
  | inf s, num _ | num _, inf s => inf s
  | inf s, inf t => if s = t then inf s else nan
  | nan, _ | _, nan => nan

def neg : JsNumber → JsNumber
  | num a => num (-a)
  | inf s => inf !s
  | nan => nan

def mul : JsNumber → JsNumber → JsNumber
  | num a, num b => num (a * b)
  | inf s, num a | num a, inf s => if a = 0 then nan else inf (s != decide (a < 0))
  | inf s, inf t => inf (s != t)
  | nan, _ | _, nan => nan

def div : JsNumber → JsNumber → JsNumber
  | num a, num b => if b = 0 then (if a = 0 then nan else inf (a < 0)) else num (a / b)
  | num _, inf _ => num 0
  | inf s, num a => inf (s != decide (a < 0))
  | inf _, inf _ => nan
  | nan, _ | _, nan => nan

instance : Add JsNumber := ⟨add⟩
instance : Neg JsNumber := ⟨neg⟩
instance : Sub JsNumber := ⟨fun a b => a + -b⟩
instance : Mul JsNumber := ⟨mul⟩
instance : Div JsNumber := ⟨div⟩

def blt : JsNumber → JsNumber → Bool
  | num a, num b => a < b
  | inf s, num _ => s
  | num _, inf s => !s
  | inf s, inf t => s && !t
  | nan, _ | _, nan => false

/-- `a <= b`; not the negation of `b < a`. -/
def ble : JsNumber → JsNumber → Bool
  | num a, num b => a ≤ b
  | inf s, num _ => s
  | num _, inf s => !s
  | inf s, inf t => s || !t
  | nan, _ | _, nan => false

instance : LT JsNumber := ⟨fun a b => blt a b = true⟩
instance : LE JsNumber := ⟨fun a b => ble a b = true⟩
instance (a b : JsNumber) : Decidable (a < b) := inferInstanceAs (Decidable (blt a b = true))
instance (a b : JsNumber) : Decidable (a ≤ b) := inferInstanceAs (Decidable (ble a b = true))

def max (a b : JsNumber) : JsNumber :=
  if a = nan ∨ b = nan then nan else if a < b then b else a

def min (a b : JsNumber) : JsNumber :=
  if a = nan ∨ b = nan then nan else if b < a then b else a

/-- `Math.round`: halves go up. -/
def roundRat (q : ℚ) : Int := ⌊q + 1 / 2⌋

def round : JsNumber → JsNumber
  | num q => num (roundRat q)
  | x => x

/-- The number that `toFixed(k)` prints: halves go away from zero. -/
def toFixedRat (k : Nat) (q : ℚ) : ℚ :=
  (if q < 0 then -(roundRat (-q * 10 ^ k) : ℚ) else roundRat (q * 10 ^ k)) / 10 ^ k

/-- `parseFloat(x.toFixed(k))`. -/
def toFixed (k : Nat) : JsNumber → JsNumber
  | num q => num (toFixedRat k q)
  | x => x

/-! ## Finite numbers -/

section
variable (a b : ℚ)

@[simp] theorem num_add : num a + num b = num (a + b) := rfl
@[simp] theorem num_mul : num a * num b = num (a * b) := rfl
@[simp] theorem toFixed_num (k : Nat) : toFixed k (num a) = num (toFixedRat k a) := rfl
@[simp] theorem num_le : num a ≤ num b ↔ a ≤ b := decide_eq_true_iff
@[simp] theorem num_lt : num a < num b ↔ a < b := decide_eq_true_iff

theorem num_sub : num a - num b = num (a - b) := by
  rw [sub_eq_add_neg]
  rfl

theorem num_div (h : b ≠ 0) : num a / num b = num (a / b) := if_neg h

theorem num_max : max (num a) (num b) = num (Max.max a b) := by
  unfold max
  by_cases h : a < b
  · simp [h, h.le]
  · simp [h, not_lt.mp h]

theorem num_min : min (num a) (num b) = num (Min.min a b) := by
  unfold min
  by_cases h : b < a
  · simp [h, h.le]
  · simp [h, not_lt.mp h]

end

/-! ## Rounding -/

theorem roundRat_mono {a b : ℚ} (h : a ≤ b) : roundRat a ≤ roundRat b :=
  Int.floor_le_floor (add_le_add_left h _)

theorem roundRat_nonneg {a : ℚ} (h : 0 ≤ a) : 0 ≤ roundRat a :=
  Int.floor_nonneg.mpr (add_nonneg h (by norm_num))

theorem toFixedRat_mono (k : Nat) {a b : ℚ} (h : a ≤ b) : toFixedRat k a ≤ toFixedRat k b := by
  have hk : (0 : ℚ) < 10 ^ k := by positivity
  unfold toFixedRat
  refine div_le_div_of_nonneg_right ?_ hk.le
  by_cases ha : a < 0
  · by_cases hb : b < 0
    · rw [if_pos ha, if_pos hb, neg_le_neg_iff]
      exact_mod_cast roundRat_mono (mul_le_mul_of_nonneg_right (neg_le_neg h) hk.le)
    · rw [if_pos ha, if_neg hb]
      have h₁ := roundRat_nonneg (mul_nonneg (neg_nonneg.mpr ha.le) hk.le)
      have h₂ := roundRat_nonneg (mul_nonneg (not_lt.mp hb) hk.le)
      have : -roundRat (-a * 10 ^ k) ≤ roundRat (b * 10 ^ k) := by omega
      exact_mod_cast this
  · rw [if_neg ha, if_neg (not_lt.mpr ((not_lt.mp ha).trans h))]
    exact_mod_cast roundRat_mono (mul_le_mul_of_nonneg_right h hk.le)

/-! ## Not a number -/

section
variable (a : JsNumber)

@[simp] theorem mul_nan : a * nan = nan := by cases a <;> rfl
@[simp] theorem nan_div : nan / a = nan := by cases a <;> rfl
@[simp] theorem toFixed_nan (k : Nat) : toFixed k nan = nan := rfl

theorem not_nan_lt : ¬ nan < a := by cases a <;> exact nofun

theorem not_nan_le : ¬ nan ≤ a := by cases a <;> exact nofun

theorem not_lt_nan : ¬ a < nan := by cases a <;> exact nofun

end

end JsNumber
