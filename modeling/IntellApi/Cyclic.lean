import Mathlib.Algebra.Order.Group.Unbundled.Int
import Mathlib.Tactic.Ring

/-!
# Half-open windows on a circle

The numbers are read modulo `n`. Turning the circle turns its windows (`mem_add`),
a coarser clock has the windows whose ends it can show (`mem_ediv`), and from
inside a window its end is the first point that is not in it (`mem_until`,
`not_mem_end`).
-/

namespace Cyclic

variable {n a b x : Int}

/-- Going on from `a`, `x` is reached before `b`. -/
def Mem (n a b x : Int) : Prop := (x - a) % n < (b - a) % n

instance : Decidable (Mem n a b x) := inferInstanceAs (Decidable (_ < _))

theorem mem_emod : Mem n (a % n) (b % n) (x % n) ↔ Mem n a b x := by
  simp only [Mem, ← Int.sub_emod]

theorem mem_add (d : Int) : Mem n (a + d) (b + d) (x + d) ↔ Mem n a b x := by
  simp only [Mem, Int.add_sub_add_right]

/-! ## Windows of one turn -/

section
variable (ha : 0 ≤ a) (ha' : a < n) (hb : 0 ≤ b) (hb' : b < n) (hx : 0 ≤ x) (hx' : x < n)

include ha ha' hb hb' in
/-- The distance on the circle between two points of one turn. -/
theorem sub_emod_of_lt : (b - a) % n = if a ≤ b then b - a else b - a + n := by
  by_cases h : a ≤ b
  · rw [if_pos h]
    exact Int.emod_eq_of_lt (by omega) (by omega)
  · rw [if_neg h, ← Int.add_emod_right]
    exact Int.emod_eq_of_lt (by omega) (by omega)

include ha ha' hb hb' hx hx'

theorem mem_iff_and (h : a < b) : Mem n a b x ↔ a ≤ x ∧ x < b := by
  rw [Mem, sub_emod_of_lt ha ha' hx hx', sub_emod_of_lt ha ha' hb hb', if_pos h.le]
  split <;> omega

theorem mem_iff_or (h : b < a) : Mem n a b x ↔ a ≤ x ∨ x < b := by
  have hab : ¬ a ≤ b := by omega
  rw [Mem, sub_emod_of_lt ha ha' hx hx', sub_emod_of_lt ha ha' hb hb', if_neg hab]
  split <;> omega

end

/-! ## Coarser clocks -/

theorem ediv_emod_eq {k : Int} (hk : 0 < k) (x : Int) : x / k % n = x % (n * k) / k := by
  have hx : x % (n * k) = x - n * (x / k / n) * k := by
    rw [Int.emod_def, Int.mul_comm n k, ← Int.ediv_ediv_of_nonneg hk.le]
    ring
  rw [hx, Int.sub_mul_ediv_right _ _ hk.ne', Int.emod_def]

theorem mem_ediv {k : Int} (hk : 0 < k) : Mem n a b (x / k) ↔ Mem (n * k) (a * k) (b * k) x := by
  have hb : (b * k - a * k) % (n * k) = (b - a) % n * k := by
    rw [← Int.sub_mul, Int.mul_comm, Int.mul_comm n, Int.mul_emod_mul_of_pos _ _ hk, Int.mul_comm]
  rw [Mem, Mem, hb, ← Int.sub_mul_ediv_right _ _ hk.ne', ediv_emod_eq hk]
  exact Int.ediv_lt_iff_lt_mul hk

/-! ## The end of a window -/

theorem not_mem_end : ¬ Mem n a b b := by simp [Mem]

/-- How far it is from `x` on to `b`. -/
def toEnd (n b x : Int) : Int := (b - x) % n

theorem toEnd_lt (hn : 0 < n) : toEnd n b x < n := Int.emod_lt_of_pos _ hn

theorem mem_congr {y : Int} (h : x % n = y % n) : Mem n a b x ↔ Mem n a b y := by
  rw [← mem_emod, h, mem_emod]

theorem end_emod : (x + toEnd n b x) % n = b % n := by
  have hx : x + (b - x) = b := by ring
  rw [toEnd, Int.add_emod_emod, hx]

theorem toEnd_eq (hn : 0 < n) (h : Mem n a b x) : toEnd n b x = (b - a) % n - (x - a) % n := by
  have h0 := Int.emod_nonneg (x - a) hn.ne'
  have h1 := Int.emod_lt_of_pos (b - a) hn
  have hlt : (x - a) % n < (b - a) % n := h
  have hsub : b - x = b - a - (x - a) := by ring
  rw [toEnd, hsub, Int.sub_emod]
  exact Int.emod_eq_of_lt (by omega) (by omega)

theorem toEnd_pos (hn : 0 < n) (h : Mem n a b x) : 0 < toEnd n b x := by
  have hlt : (x - a) % n < (b - a) % n := h
  rw [toEnd_eq hn h]
  omega

theorem mem_until (hn : 0 < n) (h : Mem n a b x) {k : Int} (hk : 0 ≤ k) (hlt : k < toEnd n b x) :
    Mem n a b (x + k) := by
  rw [toEnd_eq hn h] at hlt
  have h0 := Int.emod_nonneg (x - a) hn.ne'
  have h1 := Int.emod_lt_of_pos (b - a) hn
  have hadd : (x + k - a) % n = (x - a) % n + k := by
    have hassoc : x + k - a = x - a + k := by ring
    rw [hassoc, ← Int.emod_add_emod]
    exact Int.emod_eq_of_lt (by omega) (by omega)
  rw [Mem, hadd]
  omega

theorem not_mem_toEnd : ¬ Mem n a b (x + toEnd n b x) := by
  rw [mem_congr end_emod]
  exact not_mem_end

end Cyclic
