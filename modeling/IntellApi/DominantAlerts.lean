import IntellApi.ReportPeriods
import Mathlib.Data.List.MinMax

/-!
# The dominant values of an alert report

Counting into an object keeps one entry a value, in the order in which the
values are first met (`foldl_countKey`). The fold over its entries keeps the
first of the largest, and so picks the first of the most frequent values of the
list itself.
-/

namespace IntellApi.Reports

section
variable {κ : Type} [DecidableEq κ]

/-- `k` is a most frequent value, the first of them in the list. -/
structure FirstMode (keys : List κ) (k : κ) : Prop where
  mem : k ∈ keys
  most : ∀ a, keys.count a ≤ keys.count k
  first : ∀ a ∈ keys, keys.count a = keys.count k → keys.idxOf k ≤ keys.idxOf a

/-! ## Largest values -/

theorem argmax_map {α β : Type} (f : β → Nat) (g : α → β) (l : List α) :
    (l.map g).argmax f = (l.argmax fun a => f (g a)).map g := by
  induction l using List.reverseRecOn with
  | nil => rfl
  | append_singleton l a ih =>
    rw [List.map_append, List.map_singleton, List.argmax_concat, List.argmax_concat, ih]
    cases l.argmax fun a => f (g a) with
    | none => rfl
    | some m =>
      simp only [Option.map_some]
      split <;> rfl

/-- The reduction of the entries, from the first of them. -/
theorem foldl_argmax {α : Type} (f : α → Nat) (c : α) (l : List α) :
    some (l.foldl (fun a b => if f b > f a then b else a) c) = (c :: l).argmax f := by
  induction l using List.reverseRecOn with
  | nil => rfl
  | append_singleton l a ih =>
    rw [← List.cons_append, List.argmax_concat, ← ih, List.foldl_append]
    simp only [List.foldl_cons, List.foldl_nil, gt_iff_lt]
    split <;> rfl

theorem eraseDups_concat (l : List κ) (a : κ) :
    (l ++ [a]).eraseDups = if a ∈ l then l.eraseDups else l.eraseDups ++ [a] := by
  rw [List.eraseDups_append, List.cons_removeAll]
  by_cases ha : a ∈ l
  · simp [ha]
  · simp [ha, List.eraseDups_cons]

theorem argmax_eraseDups (f : κ → Nat) (l : List κ) : l.eraseDups.argmax f = l.argmax f := by
  induction l using List.reverseRecOn with
  | nil => rfl
  | append_singleton l a ih =>
    rw [eraseDups_concat, List.argmax_concat]
    split
    · rename_i ha
      -- a value that is met again is not larger than the largest so far
      cases hm : l.argmax f with
      | none => rw [List.argmax_eq_none.mp hm] at ha; cases ha
      | some m =>
        have := List.le_of_mem_argmax ha hm
        rw [ih, hm]
        simp only [Nat.not_lt.mpr this, if_false]
    · rw [List.argmax_concat, ih]

/-! ## Counting -/

def tallied (keys : List κ) : List (κ × Nat) := keys.eraseDups.map fun k => (k, keys.count k)

theorem countKey_tallied (keys : List κ) (k : κ) : countKey (tallied keys) k = tallied (keys ++ [k]) := by
  have hany : (tallied keys).any (·.1 = k) = decide (k ∈ keys) := by
    simp [tallied, List.any_eq]
  unfold countKey
  rw [hany, tallied, tallied, eraseDups_concat]
  by_cases hk : k ∈ keys
  · simp only [hk, decide_true, if_true, List.map_map]
    refine List.map_congr_left fun a _ => ?_
    by_cases ha : a = k
    · subst ha; simp
    · simp [ha, Ne.symm ha]
  · have hold : ∀ a ∈ keys.eraseDups, (a, keys.count a) = (a, (keys ++ [k]).count a) := by
      intro a ha
      have : a ≠ k := fun h => hk (h ▸ List.mem_eraseDups.mp ha)
      simp [Ne.symm this]
    simp [hk, List.map_congr_left hold, List.count_eq_zero_of_not_mem hk]

theorem foldl_countKey (keys : List κ) : keys.foldl countKey [] = tallied keys := by
  induction keys using List.reverseRecOn with
  | nil => rfl
  | append_singleton keys k ih => rw [List.foldl_append, List.foldl_cons, List.foldl_nil, ih, countKey_tallied]

theorem dominant_eq_argmax (keys : List κ) : dominant keys = keys.argmax (keys.count ·) := by
  have h : dominant keys = ((tallied keys).argmax (·.2)).map (·.1) := by
    unfold dominant
    rw [foldl_countKey]
    cases tallied keys with
    | nil => rfl
    | cons c counts => rw [← foldl_argmax]; rfl
  rw [h, tallied, argmax_map, Option.map_map, argmax_eraseDups]
  exact congrFun Option.map_id _

theorem dominant_eq_none {keys : List κ} : dominant keys = none ↔ keys = [] := by
  rw [dominant_eq_argmax, List.argmax_eq_none]

theorem dominant_eq_some {keys : List κ} {k : κ} : dominant keys = some k ↔ FirstMode keys k := by
  rw [dominant_eq_argmax, List.argmax_eq_some_iff]
  constructor
  · rintro ⟨hk, hmost, hfirst⟩
    refine ⟨hk, fun a => ?_, fun a ha he => hfirst a ha he.ge⟩
    by_cases ha : a ∈ keys
    · exact hmost a ha
    · rw [List.count_eq_zero_of_not_mem ha]; exact Nat.zero_le _
  · rintro ⟨hk, hmost, hfirst⟩
    exact ⟨hk, fun a _ => hmost a, fun a ha hle => hfirst a ha (Nat.le_antisymm (hmost a) hle)⟩

end

/-- Nothing for the empty list only, else the first of the most frequent values. -/
theorem dominant_values (alerts : List Alerts.Alert) :
    (getDominantAlertType alerts = none ↔ alerts = []) ∧
    (∀ type, getDominantAlertType alerts = some type ↔ FirstMode (alerts.map (·.type)) type) ∧
    (getDominantAlertSeverity alerts = none ↔ alerts = []) ∧
    ∀ severity, getDominantAlertSeverity alerts = some severity ↔ FirstMode (alerts.map (·.severity)) severity := by
  have hnil {κ : Type} (f : Alerts.Alert → κ) : alerts.map f = [] ↔ alerts = [] := List.map_eq_nil_iff
  exact ⟨dominant_eq_none.trans (hnil _), fun _ => dominant_eq_some, dominant_eq_none.trans (hnil _),
    fun _ => dominant_eq_some⟩

/-! ## The report -/

theorem toFixedRat_percentage {n total : Nat} (h : n ≤ total) :
    0 ≤ JsNumber.toFixedRat 2 ((n : ℚ) / total * 100) ∧ JsNumber.toFixedRat 2 ((n : ℚ) / total * 100) ≤ 100 := by
  have h1 : (n : ℚ) / total ≤ 1 := div_le_one_of_le₀ (by exact_mod_cast h) (Nat.cast_nonneg _)
  constructor
  · calc (0 : ℚ) = JsNumber.toFixedRat 2 0 := by decide +kernel
      _ ≤ _ := JsNumber.toFixedRat_mono 2 (by positivity)
  · calc JsNumber.toFixedRat 2 ((n : ℚ) / total * 100) ≤ JsNumber.toFixedRat 2 100 :=
          JsNumber.toFixedRat_mono 2 (by linarith)
      _ = 100 := by decide +kernel

/-- An alert is counted as resolved or as unresolved at most, and nothing is
dominant just when there are no alerts. -/
theorem alertReport_spec {tza : Int} {alerts : List Alerts.Alert} {report : Report} {metrics : AlertKeyMetrics}
    (h : getAlertReport tza alerts report = .ok metrics) :
    metrics.resolvedAlerts + metrics.unresolvedAlerts ≤ metrics.totalAlerts ∧
      (metrics.dominantAlertType = none ↔ metrics.totalAlerts = 0) ∧
      (metrics.dominantAlertSeverity = none ↔ metrics.totalAlerts = 0) ∧
      0 ≤ metrics.resolutionRate ∧ metrics.resolutionRate ≤ 100 := by
  unfold getAlertReport at h
  cases hw : alertReportWindow tza report with
  | error e => rw [hw] at h; cases h
  | ok window =>
    rw [hw] at h
    cases h
    dsimp only
    generalize findAlertsWhere alerts window report.userId = found
    have hnil {κ : Type} [DecidableEq κ] (f : Alerts.Alert → κ) : dominant (found.map f) = none ↔ found.length = 0 := by
      rw [dominant_eq_none, List.map_eq_nil_iff, List.length_eq_zero_iff]
    refine ⟨?_, hnil _, hnil _, ?_⟩
    · rw [← List.countP_eq_length_filter, ← List.countP_eq_length_filter,
        List.length_eq_countP_add_countP (l := found) fun a => a.resolutionStatus = some .resolved]
      refine Nat.add_le_add_left (List.countP_mono_left fun a _ ha => ?_) _
      simp only [decide_eq_true_eq] at ha
      simp [ha]
    · split
      · exact toFixedRat_percentage (List.length_filter_le ..)
      · exact ⟨le_rfl, by norm_num⟩

end IntellApi.Reports
