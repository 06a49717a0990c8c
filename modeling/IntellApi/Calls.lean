import Mathlib.Logic.Function.Basic
import Mathlib.Data.List.Perm.Basic
import Mathlib.Data.Option.Basic

/-!
# Calls under way

A list of calls, each known by its position: a step replaces one of them, and
a new one is put at the end.
-/

namespace Calls

open Function

variable {α β : Type*} {l : List α} {a b x : α} {p q : Nat}

theorem set_cases (h : (l.set p a)[q]? = some x) : q = p ∧ x = a ∨ q ≠ p ∧ l[q]? = some x := by
  by_cases hq : q = p
  · subst hq
    obtain ⟨_, hx⟩ := List.getElem?_eq_some_iff.mp h
    rw [List.getElem_set_self] at hx
    exact .inl ⟨rfl, hx.symm⟩
  · rw [List.getElem?_set_ne (Ne.symm hq)] at h
    exact .inr ⟨hq, h⟩

theorem mem_set_of_ne (hq : l[q]? = some x) (h : q ≠ p) : x ∈ l.set p b :=
  List.mem_of_getElem? ((List.getElem?_set_ne (Ne.symm h)).trans hq)

theorem mem_set_of_mem (hp : l[p]? = some a) (hx : x ∈ l) : x = a ∨ x ∈ l.set p b := by
  obtain ⟨q, hq⟩ := List.mem_iff_getElem?.mp hx
  by_cases h : q = p
  · subst h
    exact .inl (Option.some.inj (hq.symm.trans hp))
  · exact .inr (mem_set_of_ne hq h)

theorem snoc_cases (h : (l ++ [a])[q]? = some x) : l[q]? = some x ∨ q = l.length ∧ x = a := by
  by_cases hq : q < l.length
  · rw [List.getElem?_append_left hq] at h
    exact .inl h
  · rw [List.getElem?_append_right (Nat.le_of_not_lt hq), List.getElem?_singleton, Option.ite_none_right_eq_some,
      Option.some.injEq] at h
    exact .inr ⟨by omega, h.2.symm⟩

theorem snoc_of_some (h : l[q]? = some x) : (l ++ [a])[q]? = some x := by
  rw [List.getElem?_append_left (List.getElem?_eq_some_iff.mp h).1]
  exact h

theorem getElem?_set_own (hp : l[p]? = some a) : (l.set p b)[p]? = some b :=
  List.getElem?_set_self (List.getElem?_eq_some_iff.mp hp).1

/-- A call after one of them has moved on: where it was, or where that one is now. -/
theorem getElem?_set_some (hp : l[p]? = some a) (hq : l[q]? = some x) :
    (l.set p b)[q]? = some x ∨ x = a ∧ (l.set p b)[q]? = some b := by
  by_cases h : q = p
  · subst h
    cases hp.symm.trans hq
    exact .inr ⟨rfl, getElem?_set_own hp⟩
  · exact .inl ((List.getElem?_set_ne (Ne.symm h)).trans hq)

theorem not_mem_set (hx : x ∉ l) (h : b ≠ x) : x ∉ l.set p b := by
  intro hm
  rcases List.mem_or_eq_of_mem_set hm with hm | hm
  · exact hx hm
  · exact h hm.symm

theorem not_mem_snoc (hx : x ∉ l) (h : a ≠ x) : x ∉ l ++ [a] := by
  intro hm
  rcases List.mem_append.mp hm with hm | hm
  · exact hx hm
  · exact h (List.mem_singleton.mp hm).symm

/-- What each call holds, after one of them has moved on. -/
theorem bind_set (f : α → Option β) (hp : l[p]? = some a) :
    (fun q : Nat => (l.set p b)[q]?.bind f) = update (fun q : Nat => l[q]?.bind f) p (f b) := by
  funext q
  by_cases h : q = p
  · subst h
    rw [update_self, getElem?_set_own hp, Option.bind_some]
  · rw [update_of_ne h, List.getElem?_set_ne (Ne.symm h)]

theorem bind_append (f : α → Option β) :
    (fun q : Nat => (l ++ [a])[q]?.bind f) = update (fun q : Nat => l[q]?.bind f) l.length (f a) := by
  funext q
  by_cases h : q = l.length
  · subst h
    rw [update_self, List.getElem?_concat_length, Option.bind_some]
  · rw [update_of_ne h]
    cases hq : (l ++ [a])[q]? with
    | some x =>
      rcases snoc_cases hq with hl | ⟨he, _⟩
      · rw [hl]
      · exact absurd he h
    | none =>
      rw [List.getElem?_eq_none_iff, List.length_append] at hq
      rw [List.getElem?_eq_none (Nat.le_trans (Nat.le_add_right _ _) hq)]

theorem bind_snoc (f : α → Option β) (ha : f a = none) :
    (fun q : Nat => (l ++ [a])[q]?.bind f) = fun q : Nat => l[q]?.bind f := by
  have hn : l[l.length]?.bind f = f a := by rw [List.getElem?_eq_none (Nat.le_refl _), ha, Option.bind_none]
  rw [bind_append, ← hn]
  exact update_eq_self l.length _

/-- What some call holds, before and after one of them has moved on. -/
theorem mem_filterMap_set (f : α → Option β) (hp : l[p]? = some a) {y : β} :
    y ∈ (l.set p b).filterMap f ∨ y ∈ f a ↔ y ∈ l.filterMap f ∨ y ∈ f b := by
  obtain ⟨hlt, rfl⟩ := List.getElem?_eq_some_iff.mp hp
  have hcons : ∀ x, y ∈ (x :: l.eraseIdx p).filterMap f ↔ y ∈ f x ∨ y ∈ (l.eraseIdx p).filterMap f := fun x => by
    rw [List.mem_filterMap, List.exists_mem_cons_iff, List.mem_filterMap]
    rfl
  have hb := ((List.set_perm_cons_eraseIdx hlt b).filterMap f).mem_iff.trans (hcons b)
  have ha := ((List.getElem_cons_eraseIdx_perm hlt).symm.filterMap f).mem_iff.trans (hcons l[p])
  rw [hb, ha, or_right_comm, or_comm (a := y ∈ f b), or_right_comm]

/-- A count over the calls, after one of them has moved on. -/
theorem countP_set (f : α → Bool) (hp : l[p]? = some a) :
    (l.set p b).countP f + (if f a then 1 else 0) = l.countP f + if f b then 1 else 0 := by
  obtain ⟨hlt, rfl⟩ := List.getElem?_eq_some_iff.mp hp
  have hpos : f l[p] = true → 0 < l.countP f := fun h => List.countP_pos_iff.mpr ⟨l[p], List.getElem_mem hlt, h⟩
  rw [List.countP_set hlt]
  by_cases h : f l[p] = true
  · have := hpos h
    rw [if_pos h]
    omega
  · rw [if_neg h]
    omega

end Calls
