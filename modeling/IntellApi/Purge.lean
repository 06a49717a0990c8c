import Mathlib.Data.List.Basic

/-!
# Histories without what does not concern an observer

A history is a list of writes, folded into the state. If a write that does not
concern the observer leaves his view of the state alone, and every other write
does to the view what it does to the state, then the view after a history is
the state after those of its writes that concern him (`view_foldl`).
-/

namespace Purge

variable {σ ε : Type*} (step : σ → ε → σ) (concerns : σ → ε → Bool)

def purge : σ → List ε → List ε
  | _, [] => []
  | s, e :: es => if concerns s e then e :: purge (step s e) es else purge (step s e) es

variable {step concerns}

theorem foldl_keep {I : σ → Prop} (hI : ∀ s e, I s → I (step s e)) (es : List ε) :
    ∀ s, I s → I (es.foldl step s) := by
  induction es with
  | nil => exact fun s hs => hs
  | cons e es ih => exact fun s hs => ih _ (hI s e hs)

theorem view_foldl {I : σ → Prop} {view : σ → σ} (hI : ∀ s e, I s → I (step s e))
    (hview : ∀ s e, I s → view (step s e) = if concerns s e then step (view s) e else view s) (es : List ε) :
    ∀ s, I s → view (es.foldl step s) = (purge step concerns s es).foldl step (view s) := by
  induction es with
  | nil => exact fun s _ => rfl
  | cons e es ih =>
    intro s hs
    rw [List.foldl_cons, ih _ (hI s e hs), hview s e hs]
    cases h : concerns s e with
    | false => simp [purge, h]
    | true => simp [purge, h]

end Purge
