import Mathlib.Data.List.Basic

/-!
# Pages of a listing

A listing whose order is not known is a permutation of the rows. Its first page
has a row of some kind in every order when such a row exists and the other rows
leave room for one; else some order puts the other rows first.
-/

namespace Paging

structure Order (α : Type*) where
  sort : List α → List α
  perm : ∀ rows, (sort rows).Perm rows

variable {α : Type*}

/-- Pages are counted from one. -/
def Order.page (order : Order α) (rows : List α) (page limit : Nat) : List α :=
  ((order.sort rows).drop ((page - 1) * limit)).take limit

def asStored : Order α := ⟨id, fun _ => .rfl⟩

def last (p : α → Bool) : Order α where
  sort rows := rows.filter (!p ·) ++ rows.filter p
  perm rows := List.perm_append_comm.trans (List.filter_append_perm p rows)

variable {order : Order α} {rows : List α} {p : α → Bool} {limit : Nat}

theorem page_one : order.page rows 1 limit = (order.sort rows).take limit := by
  simp [Order.page]

theorem mem_of_mem_page {page : Nat} {a : α} (h : a ∈ order.page rows page limit) : a ∈ rows :=
  (order.perm rows).mem_iff.mp (List.mem_of_mem_drop (List.mem_of_mem_take h))

theorem exists_mem_page_one (h : ∃ a ∈ rows, p a = true) (hn : rows.countP (!p ·) < limit) :
    ∃ a ∈ order.page rows 1 limit, p a = true := by
  by_contra hno
  have hall : ∀ a ∈ (order.sort rows).take limit, (!p a) = true := by
    intro a ha
    cases hpa : p a with
    | false => rfl
    | true => exact absurd ⟨a, page_one ▸ ha, hpa⟩ hno
  have hcount := List.countP_eq_length.mpr hall
  have hle := (List.take_sublist limit (order.sort rows)).countP_le (p := (!p ·))
  rw [(order.perm rows).countP_eq, hcount] at hle
  -- fewer than `limit` rows in all, so the page has every row
  have hlen : (order.sort rows).length ≤ limit := by
    rw [List.length_take] at hle
    omega
  obtain ⟨a, ha, hpa⟩ := h
  have := hall a (by rw [List.take_of_length_le hlen]; exact (order.perm rows).mem_iff.mpr ha)
  rw [hpa] at this
  cases this

theorem page_one_last (hn : limit ≤ rows.countP (!p ·)) {a : α} (ha : a ∈ (last p).page rows 1 limit) :
    p a = false := by
  rw [page_one, last, List.take_append_of_le_length (by rwa [← List.countP_eq_length_filter])] at ha
  simpa using (List.mem_filter.mp (List.mem_of_mem_take ha)).2

theorem page_one_shows_iff : (∀ order : Order α, ∃ a ∈ order.page rows 1 limit, p a = true) ↔
    (∃ a ∈ rows, p a = true) ∧ rows.countP (!p ·) < limit := by
  constructor
  · intro h
    obtain ⟨a, ha, hp⟩ := h asStored
    refine ⟨⟨a, mem_of_mem_page ha, hp⟩, ?_⟩
    by_contra hn
    obtain ⟨b, hb, hpb⟩ := h (last p)
    rw [page_one_last (Nat.le_of_not_lt hn) hb] at hpb
    cases hpb
  · intro ⟨h, hn⟩ order
    exact exists_mem_page_one h hn

theorem exists_order_shows [DecidableEq α] {a : α} (ha : a ∈ rows) (hl : 0 < limit) :
    ∃ order : Order α, a ∈ order.page rows 1 limit := by
  refine ⟨last (decide <| · ≠ a), ?_⟩
  -- the order that puts `a` first
  have hmem : a ∈ rows.filter fun b => !decide (b ≠ a) := by simp [ha]
  cases hf : rows.filter fun b => !decide (b ≠ a) with
  | nil => rw [hf] at hmem; cases hmem
  | cons b l =>
    have hb : b = a := by
      have : b ∈ rows.filter fun b => !decide (b ≠ a) := by rw [hf]; exact List.mem_cons_self
      simpa using (List.mem_filter.mp this).2
    obtain ⟨n, rfl⟩ := Nat.exists_eq_succ_of_ne_zero (Nat.ne_of_gt hl)
    have hsort : (last (decide <| · ≠ a)).sort rows = a :: l ++ rows.filter (decide <| · ≠ a) := by
      rw [← hb, ← hf, hb]; rfl
    rw [page_one, hsort, List.cons_append, List.take_succ_cons]
    exact List.mem_cons_self

theorem page_one_all_iff [DecidableEq α] {q : α → Prop} (hl : 0 < limit) :
    (∀ order : Order α, ∀ a ∈ order.page rows 1 limit, q a) ↔ ∀ a ∈ rows, q a := by
  constructor
  · intro h a ha
    obtain ⟨order, hshow⟩ := exists_order_shows ha hl
    exact h order a hshow
  · exact fun h _ a ha => h a (mem_of_mem_page ha)

end Paging
