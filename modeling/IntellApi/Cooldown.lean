import Mathlib.Data.List.Pairwise

/-!
# Logs with a cooldown

Entries have a key, a rank and a time; the newest is first. In a spaced log an
entry that comes less than its key's window after another one has the higher
rank. To keep a log spaced it is enough to look at the newest entry of the key
(`Passed.of_newest`), as long as nothing of that key is added between the look
and the insert.
-/

namespace Cooldown

structure Entry (κ : Type*) where
  key : κ
  rank : Nat
  time : Int

theorem rel_or_rel {α : Type*} {R : α → α → Prop} {l : List α} (h : l.Pairwise R) {a b : α} (ha : a ∈ l)
    (hb : b ∈ l) (hne : a ≠ b) : R a b ∨ R b a := by
  have : Std.Symm fun x y => R x y ∨ R y x := ⟨fun _ _ => Or.symm⟩
  exact (h.imp (S := fun x y => R x y ∨ R y x) Or.inl).forall ha hb hne

variable {κ : Type*} (window : κ → Int)

def Spaced (b a : Entry κ) : Prop :=
  b.key = a.key → a.time ≤ b.time ∧ (b.time - a.time < window a.key → a.rank < b.rank)

/-- An entry of key `k` and rank `r` may be added from the time `now` on. -/
def Passed (log : List (Entry κ)) (k : κ) (r : Nat) (now : Int) : Prop :=
  ∀ a ∈ log, a.key = k → a.time ≤ now ∧ (a.rank < r ∨ window k ≤ now - a.time)

variable {window} {log : List (Entry κ)} {k : κ} {r : Nat} {now : Int}

theorem Passed.mono (h : Passed window log k r now) {now' : Int} (hn : now ≤ now') : Passed window log k r now' := by
  intro a ha hk
  have := h a ha hk
  omega

theorem Passed.cons_other (h : Passed window log k r now) {e : Entry κ} (he : e.key ≠ k) :
    Passed window (e :: log) k r now := by
  intro a ha hk
  rcases List.mem_cons.mp ha with rfl | ha
  · exact absurd hk he
  · exact h a ha hk

theorem Passed.spaced (h : Passed window log k r now) (hs : log.Pairwise (Spaced window)) :
    (⟨k, r, now⟩ :: log).Pairwise (Spaced window) := by
  refine List.pairwise_cons.mpr ⟨fun a ha hk => ?_, hs⟩
  have := h a ha hk.symm
  have hk : k = a.key := hk
  rw [← hk]; dsimp only
  omega

/-- What passes the newest entry of its key passes the whole log. -/
theorem Passed.of_newest [DecidableEq κ] (hs : log.Pairwise (Spaced window))
    (h : ∀ e, (log.filter (·.key = k)).head? = some e →
      e.time ≤ now ∧ (e.rank < r ∨ window k ≤ now - e.time)) : Passed window log k r now := by
  intro a ha hk
  have hf : a ∈ log.filter (·.key = k) := by simp [ha, hk]
  have hp := hs.filter (·.key = k)
  cases hl : log.filter (·.key = k) with
  | nil => rw [hl] at hf; cases hf
  | cons e rest =>
    rw [hl] at hf hp
    have he := h e (by rw [hl]; rfl)
    rcases List.mem_cons.mp hf with rfl | ha'
    · exact he
    · have hek : e.key = k := by
        have : e ∈ log.filter (·.key = k) := by rw [hl]; exact List.mem_cons_self
        simpa using (List.mem_filter.mp this).2
      -- the newest entry either is old enough, or outranks `a` or follows it by a whole window
      have hea := (List.pairwise_cons.mp hp).1 a ha' (by rw [hek, hk])
      rw [hk] at hea
      omega

end Cooldown
