import Mathlib.Data.List.Basic

/-!
# Tables with row locks

A row has its committed version and, while a transaction holds its lock, that
transaction's own version. Transactions read committed versions and their own,
wait for rows others hold, and commit or roll back all they hold at once. What
a step of one transaction can do to the others is `Step`.
-/

namespace RowLocks

variable {τ ρ : Type*}

structure Row (τ ρ : Type*) where
  committed : Option ρ
  lock : Option (τ × Option ρ)
  deriving DecidableEq, Repr

structure Table (τ ρ : Type*) where
  rows : List (Row τ ρ)
  deriving DecidableEq, Repr

namespace Row

def empty : Row τ ρ := ⟨none, none⟩

def holder (row : Row τ ρ) : Option τ := row.lock.map (·.1)

def write (row : Row τ ρ) (t : τ) (v : ρ) : Row τ ρ := { row with lock := some (t, some v) }

variable [DecidableEq τ]

/-- The version a statement of `t` sees. -/
def seen (row : Row τ ρ) (t : τ) : Option ρ :=
  match row.lock with
  | some (u, some v) => if u = t then some v else row.committed
  | _ => row.committed

def free (row : Row τ ρ) (t : τ) : Bool := row.holder.all (· = t)

/-- The lock of a free row, and nothing else. -/
def acquire (row : Row τ ρ) (t : τ) : Row τ ρ :=
  match row.lock with
  | some _ => row
  | none => { row with lock := some (t, none) }

def commit (row : Row τ ρ) (t : τ) : Row τ ρ :=
  match row.lock with
  | some (u, draft) => if u = t then ⟨draft.or row.committed, none⟩ else row
  | none => row

def rollback (row : Row τ ρ) (t : τ) : Row τ ρ :=
  match row.lock with
  | some (u, _) => if u = t then ⟨row.committed, none⟩ else row
  | none => row

end Row

namespace Table

def row (T : Table τ ρ) (i : Nat) : Row τ ρ := T.rows.getD i .empty

def put (T : Table τ ρ) (i : Nat) (x : Row τ ρ) : Table τ ρ := ⟨T.rows.set i x⟩

def insert (T : Table τ ρ) (t : τ) (v : ρ) : Table τ ρ := ⟨T.rows ++ [⟨none, some (t, some v)⟩]⟩

def add (T : Table τ ρ) (v : ρ) : Table τ ρ := ⟨T.rows ++ [⟨some v, none⟩]⟩

variable [DecidableEq τ]

def commit (T : Table τ ρ) (t : τ) : Table τ ρ := ⟨T.rows.map (·.commit t)⟩

def rollback (T : Table τ ρ) (t : τ) : Table τ ρ := ⟨T.rows.map (·.rollback t)⟩

def select (T : Table τ ρ) (t : τ) (p : ρ → Bool) : List Nat :=
  (List.range T.rows.length).filter fun i => ((T.row i).seen t).any p

end Table

/-! ## Rows -/

section
variable {T T' : Table τ ρ} {x : Row τ ρ} {t u : τ} {v : ρ} {i j : Nat}

theorem Row.holder_of_lock {draft : Option ρ} (h : x.lock = some (t, draft)) : x.holder = some t := by
  rw [Row.holder, h, Option.map_some]

theorem Table.row_lt (h : T.row i ≠ .empty) : i < T.rows.length := by
  by_contra hn
  apply h
  rw [Table.row, List.getD_eq_getElem?_getD, List.getElem?_eq_none (Nat.le_of_not_lt hn), Option.getD_none]

theorem Table.row_put (h : i < T.rows.length) (j : Nat) : (T.put i x).row j = if j = i then x else T.row j := by
  unfold Table.put Table.row
  by_cases hj : j = i
  · subst hj
    rw [if_pos rfl, List.getD_eq_getElem?_getD, List.getElem?_set_self h, Option.getD_some]
  · rw [if_neg hj, List.getD_eq_getElem?_getD, List.getElem?_set_ne (Ne.symm hj), List.getD_eq_getElem?_getD]

theorem Table.row_snoc (rows : List (Row τ ρ)) (j : Nat) :
    (Table.mk (rows ++ [x])).row j = if j = rows.length then x else (Table.mk rows).row j := by
  unfold Table.row
  rw [List.getD_eq_getElem?_getD, List.getD_eq_getElem?_getD]
  by_cases hlt : j < rows.length
  · rw [if_neg (Nat.ne_of_lt hlt), List.getElem?_append_left hlt]
  · by_cases hj : j = rows.length
    · subst hj
      rw [if_pos rfl, List.getElem?_concat_length, Option.getD_some]
    · have hn : (rows ++ [x]).length ≤ j := by
        rw [List.length_append, List.length_singleton]
        omega
      rw [if_neg hj, List.getElem?_eq_none hn, List.getElem?_eq_none (Nat.le_of_not_lt hlt)]

theorem Table.row_map (f : Row τ ρ → Row τ ρ) (hf : f .empty = .empty) (j : Nat) :
    (Table.mk (T.rows.map f)).row j = f (T.row j) := by
  unfold Table.row
  rw [List.getD_eq_getElem?_getD, List.getD_eq_getElem?_getD, List.getElem?_map]
  cases T.rows[j]? with
  | none => exact hf.symm
  | some y => rfl

/-! ## Steps of one transaction -/

/-- The rows of all but `t` stay as they are, and nobody else gets a lock. -/
structure Frame (t : τ) (T T' : Table τ ρ) : Prop where
  others : ∀ i u, u ≠ t → (T.row i).holder = some u → T'.row i = T.row i
  holder : ∀ i u, (T'.row i).holder = some u → u = t ∨ (T.row i).holder = some u

/-- What a step of `t` may do: it commits nothing but its own versions. -/
structure Step (t : τ) (T T' : Table τ ρ) : Prop extends Frame t T T' where
  committed : ∀ i v, (T'.row i).committed = some v → (T.row i).committed = some v ∨ (T.row i).lock = some (t, some v)

theorem Step.refl (t : τ) (T : Table τ ρ) : Step t T T := ⟨⟨fun _ _ _ _ => rfl, fun _ _ => .inr⟩, fun _ _ => .inl⟩

theorem Frame.add : Frame t T (T.add v) where
  others j u hu hj := by
    have hlt := Table.row_lt (T := T) (i := j) (by rintro he; rw [he] at hj; cases hj)
    exact (Table.row_snoc T.rows j).trans (if_neg (Nat.ne_of_lt hlt))
  holder j u hj := by
    rw [Table.add, Table.row_snoc] at hj
    split at hj
    · cases hj
    · exact .inr hj

theorem Step.insert : Step t T (T.insert t v) where
  others j u hu hj := by
    have hlt := Table.row_lt (T := T) (i := j) (by rintro he; rw [he] at hj; cases hj)
    exact (Table.row_snoc T.rows j).trans (if_neg (Nat.ne_of_lt hlt))
  holder j u hj := by
    rw [Table.insert, Table.row_snoc] at hj
    split at hj
    · cases hj
      exact .inl rfl
    · exact .inr hj
  committed j w hj := by
    rw [Table.insert, Table.row_snoc] at hj
    split at hj
    · cases hj
    · exact .inl hj

variable [DecidableEq τ]

theorem Table.row_commit (j : Nat) : (T.commit t).row j = (T.row j).commit t := Table.row_map _ rfl j

theorem Table.row_rollback (j : Nat) : (T.rollback t).row j = (T.row j).rollback t := Table.row_map _ rfl j

theorem Table.mem_select {p : ρ → Bool} : i ∈ T.select t p ↔ ∃ v, (T.row i).seen t = some v ∧ p v = true := by
  unfold Table.select
  rw [List.mem_filter, List.mem_range, Option.any_eq_true]
  constructor
  · intro hx
    obtain ⟨-, v, hv, hp⟩ := hx
    exact ⟨v, hv, hp⟩
  · intro hx
    obtain ⟨v, hv, hp⟩ := hx
    refine ⟨Table.row_lt fun he => ?_, v, hv, hp⟩
    rw [he] at hv
    cases hv

theorem Row.commit_held (h : x.holder = some t) : x.commit t = ⟨(x.lock.bind (·.2)).or x.committed, none⟩ := by
  obtain ⟨⟨u, d⟩, hl, rfl⟩ := Option.map_eq_some_iff.mp h
  simp [Row.commit, hl]

theorem Row.commit_other (h : x.holder ≠ some t) : x.commit t = x := by
  unfold Row.commit
  split
  · rename_i u d hl
    have hu : u ≠ t := by
      intro he
      subst he
      exact h (Row.holder_of_lock hl)
    rw [if_neg hu]
  · rfl

theorem Row.rollback_held (h : x.holder = some t) : x.rollback t = ⟨x.committed, none⟩ := by
  obtain ⟨⟨u, d⟩, hl, rfl⟩ := Option.map_eq_some_iff.mp h
  simp [Row.rollback, hl]

theorem Row.rollback_other (h : x.holder ≠ some t) : x.rollback t = x := by
  unfold Row.rollback
  split
  · rename_i u d hl
    have hu : u ≠ t := by
      intro he
      subst he
      exact h (Row.holder_of_lock hl)
    rw [if_neg hu]
  · rfl

theorem Row.commit_holder (x : Row τ ρ) (t : τ) : (x.commit t).holder ≠ some t := by
  intro h
  by_cases ht : x.holder = some t
  · rw [Row.commit_held ht] at h
    cases h
  · rw [Row.commit_other ht] at h
    exact ht h

theorem Row.rollback_holder (x : Row τ ρ) (t : τ) : (x.rollback t).holder ≠ some t := by
  intro h
  by_cases ht : x.holder = some t
  · rw [Row.rollback_held ht] at h
    cases h
  · rw [Row.rollback_other ht] at h
    exact ht h

theorem Row.rollback_committed (x : Row τ ρ) (t : τ) : (x.rollback t).committed = x.committed := by
  by_cases ht : x.holder = some t
  · rw [Row.rollback_held ht]
  · rw [Row.rollback_other ht]

theorem Row.holder_of_free (h : x.free t = true) (hu : x.holder = some u) : u = t := by
  rw [Row.free, hu, Option.all_some, decide_eq_true_eq] at h
  exact h

theorem Row.seen_committed (h : x.holder ≠ some t) : x.seen t = x.committed := by
  unfold Row.seen
  split
  · rename_i u v hl
    have hu : u ≠ t := by
      intro he
      subst he
      exact h (Row.holder_of_lock hl)
    rw [if_neg hu]
  · rfl

theorem Step.put (hf : (T.row i).free t = true) (hi : i < T.rows.length) (hc : x.committed = (T.row i).committed)
    (hh : x.holder = some t) : Step t T (T.put i x) where
  others j u hu hj := by
    rw [Table.row_put hi]
    split
    · rename_i he
      subst he
      exact absurd (Row.holder_of_free hf hj) hu
    · rfl
  holder j u hj := by
    rw [Table.row_put hi] at hj
    split at hj
    · rw [hh, Option.some.injEq] at hj
      exact .inl hj.symm
    · exact .inr hj
  committed j v hj := by
    rw [Table.row_put hi] at hj
    split at hj
    · rename_i he
      subst he
      exact .inl (hc ▸ hj)
    · exact .inl hj

/-- A transaction ends: it gives up its rows, and they get its versions or none. -/
theorem Step.settle {f : Row τ ρ → Row τ ρ} (he : f .empty = .empty) (ho : ∀ x, x.holder ≠ some t → f x = x)
    (hl : ∀ x, x.holder = some t → (f x).lock = none)
    (hc : ∀ x v, x.holder = some t → (f x).committed = some v → x.committed = some v ∨ x.lock = some (t, some v)) :
    Step t T ⟨T.rows.map f⟩ where
  others j u hu hj := by
    rw [Table.row_map f he]
    apply ho _
    rw [hj, Ne, Option.some.injEq]
    exact hu
  holder j u hj := by
    rw [Table.row_map f he] at hj
    by_cases ht : (T.row j).holder = some t
    · rw [Row.holder, hl _ ht] at hj
      cases hj
    · rw [ho _ ht] at hj
      exact .inr hj
  committed j v hj := by
    rw [Table.row_map f he] at hj
    by_cases ht : (T.row j).holder = some t
    · exact hc _ v ht hj
    · rw [ho _ ht] at hj
      exact .inl hj

theorem Step.commit : Step t T (T.commit t) := by
  refine .settle rfl (fun x => Row.commit_other) (fun x h => by rw [Row.commit_held h]) fun x v ht hv => ?_
  rw [Row.commit_held ht] at hv
  obtain ⟨⟨u, d⟩, hl, rfl⟩ := Option.map_eq_some_iff.mp ht
  cases d with
  | none =>
    simp only [hl, Option.bind_some, Option.none_or] at hv
    exact .inl hv
  | some w =>
    simp only [hl, Option.bind_some, Option.some_or, Option.some.injEq] at hv
    subst hv
    exact .inr hl

theorem Step.rollback : Step t T (T.rollback t) := by
  refine .settle rfl (fun x => Row.rollback_other) (fun x h => by rw [Row.rollback_held h]) fun x v ht hv => ?_
  rw [Row.rollback_held ht] at hv
  exact .inl hv

end

end RowLocks
