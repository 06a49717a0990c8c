import Mathlib.Data.List.Nodup
import Mathlib.Logic.Equiv.Basic

/-!
# Values with one holder

`held l` is the value the place `l` holds. Values are drawn fresh, moved
between places and dropped, never copied; so a value that was drawn has at
most one holder (`Ledger`). In particular a place that marks a value as used
up shares it with no other place.
-/

namespace Holders

open Function

variable {P V : Type*}

def Sole (held : P → Option V) : Prop :=
  ∀ l l' v, held l = some v → held l' = some v → l = l'

/-- Values that only move: each place got its value from an origin, and
different places have different origins. -/
theorem Sole.move {held held' : P → Option V} (f : P → P) (hf : Injective f)
    (h : ∀ l v, held' l = some v → held (f l) = some v) (hs : Sole held) : Sole held' :=
  fun l l' v hl hl' => hf (hs _ _ v (h l v hl) (h l' v hl'))

section
variable [DecidableEq P]

def push (a b c l : P) : P := if l = b then a else if l = c then b else if l = a then c else l

theorem push_injective {a b c : P} (hab : a ≠ b) (hac : a ≠ c) (hbc : b ≠ c) : Injective (push a b c) := by
  intro l l' h; unfold push at h; grind

variable {drawn : List V} {held : P → Option V}

theorem update_some {a l : P} {x : Option V} {w : V} (h : update held a x l = some w) :
    held l = some w ∨ l = a ∧ x = some w := by
  by_cases e : l = a
  · subst e; rw [update_self] at h; exact .inr ⟨rfl, h⟩
  · rw [update_of_ne e] at h; exact .inl h

theorem Sole.erase (h : Sole held) (a : P) : Sole (update held a none) :=
  h.move id injective_id fun l v hl => by
    rcases update_some hl with hl | ⟨_, hl⟩
    · exact hl
    · cases hl

theorem Sole.put (h : Sole held) (a : P) {v : V} (hv : ∀ l, held l ≠ some v) : Sole (update held a (some v)) := by
  intro l l' w hl hl'
  rcases update_some hl with hw | ⟨el, e⟩ <;> rcases update_some hl' with hw' | ⟨el', e'⟩
  · exact h l l' w hw hw'
  · exact absurd (e' ▸ hw) (hv l)
  · exact absurd (e ▸ hw') (hv l')
  · rw [el, el']

/-- The values drawn so far, all different, and where those still around are. -/
structure Ledger (drawn : List V) (held : P → Option V) : Prop where
  nodup : drawn.Nodup
  within : ∀ l v, held l = some v → v ∈ drawn
  sole : Sole held

omit [DecidableEq P] in
theorem ledger_nil : Ledger [] fun _ : P => (none : Option V) where
  nodup := .nil
  within l v h := by cases h
  sole l l' v h _ := by cases h

theorem Ledger.erase (h : Ledger drawn held) (a : P) : Ledger drawn (update held a none) where
  nodup := h.nodup
  within l v hl := by
    rcases update_some hl with hl | ⟨_, hl⟩
    · exact h.within l v hl
    · cases hl
  sole := h.sole.erase a

theorem Ledger.draw (h : Ledger drawn held) (a : P) {v : V} (hv : v ∉ drawn) :
    Ledger (v :: drawn) (update held a (some v)) where
  nodup := List.nodup_cons.mpr ⟨hv, h.nodup⟩
  within l w hl := by
    rcases update_some hl with hw | ⟨_, e⟩
    · exact List.mem_cons_of_mem _ (h.within l w hw)
    · cases e; exact List.mem_cons_self
  sole := h.sole.put a fun l hl => hv (h.within l v hl)

theorem Ledger.moveOn (h : Ledger drawn held) {a b c : P} (hab : a ≠ b) (hac : a ≠ c) (hbc : b ≠ c) :
    Ledger drawn (update (update (update held a none) b (held a)) c (held b)) := by
  have hk : ∀ l v, update (update (update held a none) b (held a)) c (held b) l = some v →
      held (push a b c l) = some v := by
    intro l v hl
    unfold push
    by_cases hb : l = b
    · subst hb; simpa [update_of_ne hbc] using hl
    · by_cases hc : l = c
      · subst hc; simpa [hb] using hl
      · by_cases ha : l = a
        · subst ha; simp [hb, hc] at hl
        · simpa [hb, hc, ha] using hl
  exact ⟨h.nodup, fun l v hl => h.within _ v (hk l v hl), h.sole.move _ (push_injective hab hac hbc) hk⟩

theorem Ledger.moveTo (h : Ledger drawn held) {a b : P} (hab : a ≠ b) :
    Ledger drawn (update (update held a none) b (held a)) := by
  have hk : ∀ l v, update (update held a none) b (held a) l = some v →
      held (Equiv.swap a b l) = some v := by
    intro l v hl
    by_cases hb : l = b
    · subst hb; simpa using hl
    · by_cases ha : l = a
      · subst ha; simp [hb] at hl
      · rw [Equiv.swap_apply_of_ne_of_ne ha hb]; simpa [hb, ha] using hl
  exact ⟨h.nodup, fun l v hl => h.within _ v (hk l v hl), h.sole.move _ (Equiv.swap a b).injective hk⟩

end

end Holders
