import Mathlib.Algebra.BigOperators.Ring.List
import Mathlib.Data.List.Dedup
import Mathlib.Data.List.Sort
import Mathlib.Data.Rat.Floor

/-!
# Numbers and grouped queries of the database

`/` between integers truncates; with a decimal operand it is taken as exact.
`SUM` and `AVG` of no rows are null. A grouped query has one group for each key
that occurs, in the order of the keys, and the groups add up to all rows
(`sum_groups`).
-/

namespace Sql

inductive Number
  | integer (n : Int)
  | numeric (q : ℚ)
  deriving DecidableEq, Repr

namespace Number

def toRat : Number → ℚ
  | integer n => n
  | numeric q => q

def div : Number → Number → Number
  | integer a, integer b => integer (a.tdiv b)
  | a, b => numeric (a.toRat / b.toRat)

theorem div_integer {a b : Int} (h0 : 0 ≤ a) (h : a < b) : (div (integer a) (integer b)).toRat = 0 := by
  simp [div, toRat, Int.tdiv_eq_zero_of_lt h0 h]

theorem div_numeric (q : ℚ) (b : Int) : (div (numeric q) (integer b)).toRat = q / b := rfl

end Number

/-! ## Aggregates -/

section
variable {α : Type*} (f : α → ℚ) (rows : List α)

def sum : Option ℚ := if rows.isEmpty then none else some (rows.map f).sum

def avg : Option ℚ := if rows.isEmpty then none else some ((rows.map f).sum / rows.length)

def countDistinct {κ : Type*} [DecidableEq κ] (key : α → κ) : Nat := (rows.map key).dedup.length

theorem sum_getD : (sum f rows).getD 0 = (rows.map f).sum := by
  unfold sum
  cases rows with
  | nil => rfl
  | cons => rfl

def mean : ℚ := (rows.map f).sum / rows.length

theorem avg_getD : (avg f rows).getD 0 = mean f rows := by
  unfold avg mean
  cases rows with
  | nil => simp
  | cons => rfl

theorem length_mul_mean : rows.length * mean f rows = (rows.map f).sum := by
  unfold mean
  cases rows with
  | nil => simp
  | cons a rows =>
    have h : ((a :: rows).length : ℚ) ≠ 0 := by simp [List.length_cons, Nat.cast_add_one_ne_zero]
    rw [mul_div_cancel₀ _ h]

variable {f rows}

theorem mean_between {low high : ℚ} (hne : rows ≠ []) (h : ∀ a ∈ rows, low ≤ f a ∧ f a ≤ high) :
    low ≤ mean f rows ∧ mean f rows ≤ high := by
  have hpos : (0 : ℚ) < rows.length := Nat.cast_pos.mpr (List.length_pos_iff.mpr hne)
  have hsum : low * rows.length ≤ (rows.map f).sum ∧ (rows.map f).sum ≤ high * rows.length := by
    clear hne hpos
    induction rows with
    | nil => simp
    | cons a rows ih =>
      have ha := h a List.mem_cons_self
      have hrows := ih fun b hb => h b (List.mem_cons_of_mem a hb)
      simp only [List.map_cons, List.sum_cons, List.length_cons, Nat.cast_add, Nat.cast_one, mul_add, mul_one]
      constructor
      · rw [add_comm]
        exact add_le_add ha.1 hrows.1
      · rw [add_comm]
        exact add_le_add hrows.2 ha.2
  exact ⟨(le_div_iff₀ hpos).mpr hsum.1, (div_le_iff₀ hpos).mpr hsum.2⟩

end

/-! ## The newest row -/

section
variable {α : Type*} (time : α → Int)

/-- `ORDER BY time DESC LIMIT 1`. -/
def newest : List α → Option α
  | [] => none
  | a :: rows =>
    match newest rows with
    | none => some a
    | some b => if time b ≤ time a then some a else some b

variable {time} {rows : List α} {a : α}

theorem newest_mem (h : newest time rows = some a) : a ∈ rows := by
  induction rows generalizing a with
  | nil => cases h
  | cons x rows ih =>
    unfold newest at h
    cases hn : newest time rows with
    | none =>
      rw [hn] at h
      cases h
      exact List.mem_cons_self
    | some b =>
      rw [hn] at h
      dsimp only at h
      split at h
      · cases h
        exact List.mem_cons_self
      · cases h
        exact List.mem_cons_of_mem x (ih hn)

/-- No row is newer than the newest. -/
theorem newest_le (h : newest time rows = some a) : ∀ b ∈ rows, time b ≤ time a := by
  induction rows generalizing a with
  | nil => cases h
  | cons x rows ih =>
    unfold newest at h
    cases hn : newest time rows with
    | none =>
      rw [hn] at h
      cases h
      cases rows with
      | nil => simp
      | cons y rows =>
        -- a row that is not the first is found as well
        unfold newest at hn
        split at hn
        · cases hn
        · split at hn <;> cases hn
    | some y =>
      rw [hn] at h
      dsimp only at h
      have hy := ih hn
      intro b hb
      split at h <;> cases h
      · rename_i hle
        rcases List.mem_cons.mp hb with rfl | hb
        · exact Int.le_refl _
        · exact Int.le_trans (hy b hb) hle
      · rename_i hlt
        rcases List.mem_cons.mp hb with rfl | hb
        · omega
        · exact hy b hb

theorem exists_newest (time : α → Int) (h : a ∈ rows) :
    ∃ b ∈ rows, newest time rows = some b ∧ ∀ c ∈ rows, time c ≤ time b := by
  have hsome : (newest time rows).isSome := by
    cases rows with
    | nil => cases h
    | cons x rows =>
      unfold newest
      split
      · rfl
      · split <;> rfl
  obtain ⟨b, hb⟩ := Option.isSome_iff_exists.mp hsome
  exact ⟨b, newest_mem hb, hb, newest_le hb⟩

/-- A log that is written newest first. -/
theorem newest_head (h : rows.Pairwise fun b a => time a < time b) : newest time rows = rows.head? := by
  cases rows with
  | nil => rfl
  | cons x rows =>
    unfold newest
    cases hn : newest time rows with
    | none => rfl
    | some b =>
      have hlt := (List.pairwise_cons.mp h).1 b (newest_mem hn)
      exact if_pos (Int.le_of_lt hlt)

end

/-! ## The last rows -/

section
variable {α : Type*} (r : α → α → Prop) [DecidableRel r]

/-- `ORDER BY … DESC LIMIT n` by an order in which `r a b` puts `a` before `b`, turned round. -/
def lastRows (n : Nat) (rows : List α) : List α := ((rows.insertionSort r).take n).reverse

variable {r} {rows : List α} {a b : α} {n : Nat}

theorem getLast?_lastRows (hn : 0 < n) : (lastRows r n rows).getLast? = (rows.insertionSort r).head? := by
  rw [lastRows, List.getLast?_reverse, List.head?_take, if_neg (Nat.ne_of_gt hn)]

variable [Std.Total r] [IsTrans α r]

/-- The last row of a page comes before every other one in the order of the query. -/
theorem rel_of_getLast?_lastRows (hn : 0 < n) (h : (lastRows r n rows).getLast? = some a) (hb : b ∈ rows) :
    b = a ∨ r a b := by
  rw [getLast?_lastRows hn, List.head?_eq_some_iff] at h
  obtain ⟨sorted, hs⟩ := h
  have hp := List.pairwise_insertionSort r rows
  rw [hs, List.pairwise_cons] at hp
  rw [← List.mem_insertionSort r, hs] at hb
  exact (List.mem_cons.mp hb).imp_right (hp.1 b)

theorem getLast?_lastRows_eq (hn : 0 < n) (ha : a ∈ rows) (h : ∀ b ∈ rows, b ≠ a → ¬ r b a) :
    (lastRows r n rows).getLast? = some a := by
  have hmem : a ∈ rows.insertionSort r := (List.mem_insertionSort r).mpr ha
  obtain ⟨x, hx⟩ := Option.isSome_iff_exists.mp (List.isSome_head?.mpr (List.ne_nil_of_mem hmem))
  have hl : (lastRows r n rows).getLast? = some x := (getLast?_lastRows hn).trans hx
  rcases rel_of_getLast?_lastRows hn hl ha with he | hr
  · rw [hl, he]
  · by_contra hne
    have hxa : x ≠ a := fun he => hne (he ▸ hl)
    exact h x ((List.mem_insertionSort r).mp (List.mem_of_head? hx)) hxa hr

end

/-! ## Groups -/

section
variable {α κ : Type*} [LinearOrder κ] (key : α → κ) (rows : List α)

def keys : List κ := (rows.map key).dedup.insertionSort (· ≤ ·)

def group (k : κ) : List α := rows.filter (key · = k)

def groupBy : List (κ × List α) := (keys key rows).map fun k => (k, group key rows k)

theorem mem_keys {k : κ} : k ∈ keys key rows ↔ ∃ a ∈ rows, key a = k := by
  simp [keys, List.mem_insertionSort]

theorem nodup_keys : (keys key rows).Nodup :=
  (List.perm_insertionSort _ _).nodup_iff.mpr (List.nodup_dedup _)

variable {key rows}

theorem mem_map_groupBy {β : Type*} {f : κ × List α → β} {b : β} (h : b ∈ (groupBy key rows).map f) :
    ∃ k, (∃ a ∈ rows, key a = k) ∧ f (k, group key rows k) = b := by
  obtain ⟨_, hg, rfl⟩ := List.mem_map.mp h
  obtain ⟨k, hk, rfl⟩ := List.mem_map.mp hg
  exact ⟨k, (mem_keys key rows).mp hk, rfl⟩

theorem map_groupBy_mem {β : Type*} (f : κ × List α → β) {a : α} (ha : a ∈ rows) :
    f (key a, group key rows (key a)) ∈ (groupBy key rows).map f :=
  List.mem_map_of_mem (List.mem_map_of_mem (f := fun k => (k, group key rows k))
    ((mem_keys key rows).mpr ⟨a, ha, rfl⟩))

theorem group_eq_nil {k : κ} (h : ∀ a ∈ rows, key a ≠ k) : group key rows k = [] :=
  List.filter_eq_nil_iff.mpr fun a ha => by simpa using h a ha

theorem group_cons (a : α) (k : κ) :
    group key (a :: rows) k = if key a = k then a :: group key rows k else group key rows k := by
  by_cases h : key a = k
  · simp [group, h]
  · simp [group, h]

theorem sum_group {M : Type*} [AddCommMonoid M] (f : α → M) {ks : List κ} (hn : ks.Nodup)
    (hk : ∀ a ∈ rows, key a ∈ ks) : (ks.map fun k => ((group key rows k).map f).sum).sum = (rows.map f).sum := by
  induction rows with
  | nil => simp [group]
  | cons a rows ih =>
    have hsplit : ∀ k, ((group key (a :: rows) k).map f).sum =
        (if k = key a then f a else 0) + ((group key rows k).map f).sum := by
      intro k
      rw [group_cons]
      by_cases h : key a = k
      · simp [h]
      · simp [h, Ne.symm h]
    simp only [hsplit, List.sum_map_add, List.map_cons, List.sum_cons]
    rw [ih fun b hb => hk b (List.mem_cons_of_mem a hb)]
    congr 1
    have hcount := List.count_eq_one_of_mem hn (hk a List.mem_cons_self)
    rw [List.sum_map_eq_nsmul_single (key a) _ fun k hne _ => if_neg hne, hcount, one_nsmul, if_pos rfl]

theorem sum_groups {M : Type*} [AddCommMonoid M] (key : α → κ) (f : α → M) :
    ((groupBy key rows).map fun g => (g.2.map f).sum).sum = (rows.map f).sum := by
  simp only [groupBy, List.map_map, Function.comp_def]
  exact sum_group f (nodup_keys key rows) fun a ha => (mem_keys key rows).mpr ⟨a, ha, rfl⟩

theorem groupBy_ne_nil (h : rows ≠ []) : groupBy key rows ≠ [] := by
  obtain ⟨a, ha⟩ := List.exists_mem_of_ne_nil rows h
  have hmem : id (key a, group key rows (key a)) ∈ (groupBy key rows).map id := map_groupBy_mem id ha
  intro hn
  rw [hn] at hmem
  cases hmem

/-- The mean of the groups' means is the mean of the rows if the means of the
groups have nothing to do with their lengths. -/
theorem mean_means_iff (f : α → ℚ) (hne : rows ≠ []) :
    ((groupBy key rows).map fun g => mean f g.2).sum / (groupBy key rows).length = mean f rows ↔
      ((groupBy key rows).map fun g =>
        ((rows.length : ℚ) - (groupBy key rows).length * g.2.length) * mean f g.2).sum = 0 := by
  have hrows : (rows.length : ℚ) ≠ 0 := Nat.cast_ne_zero.mpr (List.length_pos_iff.mpr hne).ne'
  have hgroups : ((groupBy key rows).length : ℚ) ≠ 0 :=
    Nat.cast_ne_zero.mpr (List.length_pos_iff.mpr (groupBy_ne_nil hne)).ne'
  have hterm : ∀ g : κ × List α, ((rows.length : ℚ) - (groupBy key rows).length * g.2.length) * mean f g.2 =
      rows.length * mean f g.2 + -(groupBy key rows).length * (g.2.map f).sum := by
    intro g
    rw [sub_mul, mul_assoc, length_mul_mean, sub_eq_add_neg, neg_mul]
  have hsplit : ((groupBy key rows).map fun g =>
      ((rows.length : ℚ) - (groupBy key rows).length * g.2.length) * mean f g.2).sum =
      rows.length * ((groupBy key rows).map fun g => mean f g.2).sum -
        (groupBy key rows).length * (rows.map f).sum := by
    simp only [hterm]
    rw [List.sum_map_add, List.sum_map_mul_left, List.sum_map_mul_left, sum_groups, neg_mul, sub_eq_add_neg]
  rw [hsplit, sub_eq_zero, mean, div_eq_div_iff hgroups hrows, mul_comm, mul_comm (rows.map f).sum]

/-- Distinct values that determine the key of their group are counted once over all groups. -/
theorem countDistinct_groups {ν : Type*} [DecidableEq ν] (value : α → ν) (coarse : ν → κ)
    (hk : ∀ a, key a = coarse (value a)) :
    ((groupBy key rows).map fun g => countDistinct g.2 value).sum = countDistinct rows value := by
  have hgroup : ∀ k, countDistinct (group key rows k) value =
      ((group coarse (rows.map value).dedup k).map fun _ => 1).sum := by
    intro k
    have hone : ∀ l : List ν, (l.map fun _ => 1).sum = l.length := fun l => by simp
    rw [hone]
    refine List.Perm.length_eq ((List.perm_ext_iff_of_nodup (List.nodup_dedup _) ((List.nodup_dedup _).filter _)).mpr ?_)
    intro v
    simp only [group, List.mem_dedup, List.mem_map, List.mem_filter, decide_eq_true_eq, hk]
    constructor
    · rintro ⟨a, ⟨ha, he⟩, rfl⟩
      exact ⟨⟨a, ha, rfl⟩, he⟩
    · rintro ⟨⟨a, ha, rfl⟩, he⟩
      exact ⟨a, ⟨ha, he⟩, rfl⟩
  have hmem : ∀ v ∈ (rows.map value).dedup, coarse v ∈ keys key rows := by
    intro v hv
    obtain ⟨a, ha, rfl⟩ := List.mem_map.mp (List.mem_dedup.mp hv)
    exact (mem_keys key rows).mpr ⟨a, ha, hk a⟩
  have hsum := sum_group (fun _ => (1 : Nat)) (nodup_keys key rows) hmem
  simp only [groupBy, List.map_map, Function.comp_def, hgroup]
  rw [hsum]
  simp [countDistinct]

end

end Sql
