import Mathlib.Order.Lattice
import Mathlib.Data.List.Pairwise

/-!
# Tables of steps

Each row of a table holds up to its bound, and the row of an argument is the
first one whose bound is not below it. When bounds rise, the row of an argument
between two bounds is the upper one; when values rise, so does the function.
-/

namespace StepTable

variable {ρ κ ν : Type*} [LinearOrder κ] {bound : ρ → κ} {rows : List ρ} {x y : κ} {row row' : ρ}

theorem find_self (h : rows.Pairwise (bound · < bound ·)) (hr : row ∈ rows) :
    rows.find? (bound row ≤ bound ·) = some row := by
  induction rows with
  | nil => cases hr
  | cons r rows ih =>
    rw [List.pairwise_cons] at h
    rcases List.mem_cons.mp hr with rfl | hr
    · simp
    · simp [not_le.mpr (h.1 row hr), ih h.2 hr]

/-- `lower` and `upper` are neighbours. -/
theorem find_between {lower upper : ρ} (h : rows.Pairwise (bound · < bound ·)) (hn : [lower, upper] <:+: rows)
    (hl : bound lower < x) (hu : x ≤ bound upper) : rows.find? (x ≤ bound ·) = some upper := by
  obtain ⟨before, after, rfl⟩ := hn
  rw [List.append_assoc, List.pairwise_append] at h
  have hbefore : before.find? (x ≤ bound ·) = none := by
    rw [List.find?_eq_none]
    intro r hr
    have := h.2.2 r hr lower (by simp)
    simpa using this.trans hl
  simp [List.find?_append, hbefore, hl, hu]

theorem lt_of_find_none (h : rows.find? (x ≤ bound ·) = none) (hr : row ∈ rows) : bound row < x := by
  simpa using List.find?_eq_none.mp h row hr

theorem find_none_mono (hxy : x ≤ y) (h : rows.find? (x ≤ bound ·) = none) : rows.find? (y ≤ bound ·) = none := by
  rw [List.find?_eq_none]
  intro r hr
  simpa using (lt_of_find_none h hr).trans_le hxy

theorem find_mono [Preorder ν] {value : ρ → ν} (h : rows.Pairwise (value · ≤ value ·)) (hxy : x ≤ y)
    (hx : rows.find? (x ≤ bound ·) = some row) (hy : rows.find? (y ≤ bound ·) = some row') :
    value row ≤ value row' := by
  induction rows with
  | nil => cases hx
  | cons r rows ih =>
    rw [List.pairwise_cons] at h
    by_cases hxr : x ≤ bound r
    · rw [List.find?_cons_of_pos (by simpa using hxr)] at hx
      cases hx
      by_cases hyr : y ≤ bound row
      · rw [List.find?_cons_of_pos (by simpa using hyr)] at hy
        cases hy; exact le_refl _
      · rw [List.find?_cons_of_neg (by simpa using hyr)] at hy
        exact h.1 row' (List.mem_of_find?_eq_some hy)
    · have hyr : ¬ y ≤ bound r := fun hyr => hxr (hxy.trans hyr)
      rw [List.find?_cons_of_neg (by simpa using hxr)] at hx
      rw [List.find?_cons_of_neg (by simpa using hyr)] at hy
      exact ih h.2 hx hy

end StepTable
