import Mathlib.Logic.Relation

/-!
# Labelled machines

A machine is an initial state and a partial step function; a label carries
every choice a step makes, so runs are lists of labels and can be computed.
`Path ok` are the runs whose steps all meet `ok`, a condition on the state
before the step and on its label.
-/

namespace Lts

structure Machine (σ α : Type*) where
  init : σ
  step : σ → α → Option σ

def Free {σ α : Type*} : σ → α → Prop := fun _ _ => True

namespace Machine

variable {σ α β : Type*} (M : Machine σ α)

def run : σ → List α → Option σ
  | s, [] => some s
  | s, a :: as => (M.step s a).bind (run · as)

inductive Path (ok : σ → α → Prop) (s : σ) : σ → Prop
  | refl : Path ok s s
  | snoc {t u a} : Path ok s t → ok t a → M.step t a = some u → Path ok s u

abbrev Reach (ok : σ → α → Prop) (s : σ) : Prop := M.Path ok M.init s

variable {M} {ok ok' : σ → α → Prop} {s t u : σ}

theorem Path.trans (h : M.Path ok s t) (h' : M.Path ok t u) : M.Path ok s u := by
  induction h' with
  | refl => exact h
  | snoc _ ho hs ih => exact ih.snoc ho hs

theorem Path.cons {a : α} (ho : ok s a) (hs : M.step s a = some t) (h : M.Path ok t u) : M.Path ok s u :=
  (Path.refl.snoc ho hs).trans h

theorem Path.mono (hok : ∀ s a, ok s a → ok' s a) (h : M.Path ok s t) : M.Path ok' s t := by
  induction h with
  | refl => exact .refl
  | snoc _ ho hs ih => exact ih.snoc (hok _ _ ho) hs

theorem path_of_run : ∀ {as : List α} {s t : σ}, M.run s as = some t → M.Path Free s t
  | [], s, t, h => by
    simp only [run, Option.some.injEq] at h
    subst h; exact .refl
  | a :: as, s, t, h => by
    simp only [run, Option.bind_eq_some_iff] at h
    obtain ⟨u, hu, h⟩ := h
    exact .cons trivial hu (path_of_run h)

def only (M : Machine σ α) (ok : σ → α → Prop) [∀ s a, Decidable (ok s a)] : Machine σ α :=
  ⟨M.init, fun s a => if ok s a then M.step s a else none⟩

theorem path_of_run_only [∀ s a, Decidable (ok s a)] :
    ∀ {as : List α} {s t : σ}, (M.only ok).run s as = some t → M.Path ok s t
  | [], s, t, h => by
    simp only [run, Option.some.injEq] at h
    subst h; exact .refl
  | a :: as, s, t, h => by
    simp only [run, only, Option.bind_eq_some_iff, Option.ite_none_right_eq_some] at h
    obtain ⟨u, ⟨ho, hu⟩, h⟩ := h
    exact .cons ho hu (path_of_run_only h)

/-! ## Rules for runs -/

theorem Path.keep {I : σ → Prop} (hI : ∀ s a t, I s → ok s a → M.step s a = some t → I t)
    (h : M.Path ok s t) (hs : I s) : I t := by
  induction h with
  | refl => exact hs
  | snoc _ ho hst ih => exact hI _ _ _ ih ho hst

theorem Path.inv {I : σ → Prop} (h0 : I M.init) (hI : ∀ s a t, I s → ok s a → M.step s a = some t → I t)
    (h : M.Reach ok s) : I s :=
  h.keep hI h0

/-- A view that each step leaves alone or moves along an edge of `R` moves
along `R` over a whole run. -/
theorem Path.view {I : σ → Prop} {v : σ → β} {R : β → β → Prop}
    (hI : ∀ s a t, I s → ok s a → M.step s a = some t → I t)
    (hv : ∀ s a t, I s → ok s a → M.step s a = some t → v t = v s ∨ R (v s) (v t))
    (h : M.Path ok s t) (hs : I s) : Relation.ReflTransGen R (v s) (v t) := by
  have key : I t ∧ Relation.ReflTransGen R (v s) (v t) := by
    induction h with
    | refl => exact ⟨hs, .refl⟩
    | snoc _ ho hst ih =>
      refine ⟨hI _ _ _ ih.1 ho hst, ?_⟩
      rcases hv _ _ _ ih.1 ho hst with he | hr
      · rw [he]; exact ih.2
      · exact ih.2.tail hr
  exact key.2

/-! ## Notes -/

section
variable {ν : Type*} {note : σ → α → σ → ν → ν} {n : ν}

/-- The machine with notes beside its state: they follow every step and decide none. -/
def noting (M : Machine σ α) (n : ν) (note : σ → α → σ → ν → ν) : Machine (σ × ν) α :=
  ⟨(M.init, n), fun s a => (M.step s.1 a).map fun t => (t, note s.1 a t s.2)⟩

theorem step_noting {s t : σ × ν} {a : α} (h : (M.noting n note).step s a = some t) :
    M.step s.1 a = some t.1 ∧ t.2 = note s.1 a t.1 s.2 := by
  obtain ⟨u, hu, rfl⟩ := Option.map_eq_some_iff.mp h
  exact ⟨hu, rfl⟩

theorem Path.erase {s t : σ × ν} (h : (M.noting n note).Path (fun s a => ok s.1 a) s t) : M.Path ok s.1 t.1 := by
  induction h with
  | refl => exact .refl
  | snoc _ ho hs ih => exact ih.snoc ho (step_noting hs).1

/-- Every run can be noted. -/
theorem Path.noted (h : M.Path ok s t) (m : ν) : ∃ m', (M.noting n note).Path (fun s a => ok s.1 a) (s, m) (t, m') := by
  induction h with
  | refl => exact ⟨m, .refl⟩
  | @snoc t u a _ ho hs ih =>
    obtain ⟨m', hp⟩ := ih
    have hst : (M.noting n note).step (t, m') a = some (u, note t a u m') := by simp only [noting, hs, Option.map_some]
    exact ⟨note t a u m', hp.snoc ho hst⟩

end

end Machine

end Lts
