import Mathlib.Data.List.Basic

/-!
# A job queue with retries

A job stays queued until a handler of it returns or its attempts are used up.
Nothing else is assumed of the queue: any number of handlers of one job may
run at once. A handler is known by its job and its fate: `free` as long as it
may still go either way, `returning` or `throwing` once that is settled. A job
outlives its handlers if it is still queued after all of these have ended.
-/

namespace JobQueue

structure Job (δ : Type*) where
  data : δ
  attempts : Nat
  attemptsMade : Nat
  queued : Bool
  deriving DecidableEq, Repr

inductive Fate
  | free
  | returning
  | throwing
  | gone
  deriving DecidableEq, Repr

variable {δ : Type*}

def finish (jobs : List (Job δ)) (j : Nat) : List (Job δ) :=
  jobs.modify j fun job => { job with queued := false }

def fail (jobs : List (Job δ)) (j : Nat) : List (Job δ) :=
  jobs.modify j fun job =>
    if job.queued then
      { job with attemptsMade := job.attemptsMade + 1, queued := job.attemptsMade + 1 < job.attempts }
    else job

/-- Job `j` is still queued when the handlers whose fate is settled have ended. -/
def Outlives (jobs : List (Job δ)) (handlers : List (Nat × Fate)) (j : Nat) : Prop :=
  ∃ job, jobs[j]? = some job ∧ job.queued = true ∧ (j, .returning) ∉ handlers ∧
    job.attemptsMade + handlers.count (j, .throwing) < job.attempts

instance (jobs : List (Job δ)) (handlers : List (Nat × Fate)) (j : Nat) : Decidable (Outlives jobs handlers j) :=
  decidable_of_iff (jobs[j]?.any fun job => job.queued ∧ (j, .returning) ∉ handlers ∧
    job.attemptsMade + handlers.count (j, .throwing) < job.attempts) (by simp [Outlives, Option.any_eq_true])

section
variable {jobs : List (Job δ)} {handlers : List (Nat × Fate)} {j k e : Nat} {f g : Fate}

theorem finish_data (jobs : List (Job δ)) (k : Nat) : (finish jobs k).map (·.data) = jobs.map (·.data) := by
  refine List.ext_getElem? fun i => ?_
  by_cases h : k = i <;> cases hj : jobs[i]? <;> simp [finish, h, hj]

theorem fail_data (jobs : List (Job δ)) (k : Nat) : (fail jobs k).map (·.data) = jobs.map (·.data) := by
  refine List.ext_getElem? fun i => ?_
  by_cases h : k = i
  · subst h
    cases hj : jobs[k]? with
    | none => simp [fail, hj]
    | some job => cases hq : job.queued <;> simp [fail, hj, hq]
  · simp [fail, h]

theorem length_finish : (finish jobs k).length = jobs.length := List.length_modify ..

theorem length_fail : (fail jobs k).length = jobs.length := List.length_modify ..

/-- The only job there is has been finished. -/
theorem finish_sole (hk : k < jobs.length) (h1 : jobs.length = 1) : ∀ job ∈ finish jobs k, job.queued = false := by
  obtain ⟨job, rfl⟩ := List.length_eq_one_iff.mp h1
  obtain rfl : k = 0 := by omega
  intro job' hm
  rw [List.mem_singleton.mp hm]

/-- A job that is not queued is not put back. -/
theorem fail_closed (h : ∀ job ∈ jobs, job.queued = false) (k : Nat) : ∀ job ∈ fail jobs k, job.queued = false := by
  intro job hm
  obtain ⟨i, hi⟩ := List.mem_iff_getElem?.mp hm
  rw [fail, List.getElem?_modify] at hi
  obtain ⟨old, ho, rfl⟩ := Option.map_eq_some_iff.mp hi
  have hold := h old (List.mem_of_getElem? ho)
  split
  · rw [hold, if_neg (by decide), hold]
  · exact hold

theorem finish_other (h : k ≠ j) : (finish jobs k)[j]? = jobs[j]? := by
  simp [finish, h]

theorem fail_other (h : k ≠ j) : (fail jobs k)[j]? = jobs[j]? := by
  simp [fail, h]

theorem count_set_of_ne (he : handlers[e]? = some (k, g)) (hf : (k, f) ≠ (j, .throwing)) :
    (handlers.set e (k, f)).count (j, .throwing) + (if (k, g) = (j, .throwing) then 1 else 0) =
      handlers.count (j, .throwing) := by
  obtain ⟨hlt, hg⟩ := List.getElem?_eq_some_iff.mp he
  have hpos : (k, g) = (j, .throwing) → 0 < handlers.count (j, Fate.throwing) := fun h =>
    List.count_pos_iff.mpr (h ▸ List.mem_of_getElem? he)
  rw [List.count_set hlt, hg]
  by_cases h : (k, g) = (j, Fate.throwing)
  · have := hpos h
    simp only [h, beq_self_eq_true, if_true, beq_iff_eq, hf, if_false]
    omega
  · simp [h, hf]

theorem Outlives.other (h : Outlives jobs handlers j) (he : handlers[e]? = some (k, g)) (hk : k ≠ j) :
    Outlives jobs (handlers.set e (k, f)) j := by
  obtain ⟨job, hj, hq, hr, hc⟩ := h
  have hcount := count_set_of_ne (f := f) (j := j) he (by simp [hk])
  refine ⟨job, hj, hq, fun hm => ?_, by omega⟩
  rcases List.mem_or_eq_of_mem_set hm with hm | hm
  · exact hr hm
  · exact hk (congrArg Prod.fst hm).symm

theorem Outlives.release (h : Outlives jobs handlers j) (he : handlers[e]? = some (k, g))
    (hf : f = .free ∨ f = .gone) : Outlives jobs (handlers.set e (k, f)) j := by
  obtain ⟨job, hj, hq, hr, hc⟩ := h
  have hcount := count_set_of_ne (f := f) (j := j) he (by rcases hf with rfl | rfl <;> simp)
  refine ⟨job, hj, hq, fun hm => ?_, by omega⟩
  rcases List.mem_or_eq_of_mem_set hm with hm | hm
  · exact hr hm
  · rcases hf with rfl | rfl <;> simp at hm

theorem Outlives.ne_of_returning (h : Outlives jobs handlers j) (he : handlers[e]? = some (k, .returning)) :
    k ≠ j := by
  intro he
  subst he
  obtain ⟨_, _, _, hr, _⟩ := h
  exact hr (List.mem_of_getElem? he)

theorem Outlives.returned (h : Outlives jobs handlers j) (he : handlers[e]? = some (k, .returning)) :
    Outlives (finish jobs k) (handlers.set e (k, .gone)) j := by
  have hk := h.ne_of_returning he
  obtain ⟨job, hj, rest⟩ := h.release he (.inr rfl)
  exact ⟨job, (finish_other hk).trans hj, rest⟩

theorem Outlives.thrown (h : Outlives jobs handlers j) (he : handlers[e]? = some (k, .throwing)) :
    Outlives (fail jobs k) (handlers.set e (k, .gone)) j := by
  by_cases hk : k = j
  · subst hk
    have hcount := count_set_of_ne (f := .gone) (j := k) he (by simp)
    simp only [if_true] at hcount
    obtain ⟨job, hj, hq, hr, hc⟩ := h
    refine ⟨{ job with attemptsMade := job.attemptsMade + 1, queued := job.attemptsMade + 1 < job.attempts },
      by simp [fail, hj, hq], by simp; omega, fun hm => ?_, by dsimp only; omega⟩
    rcases List.mem_or_eq_of_mem_set hm with hm | hm
    · exact hr hm
    · cases hm
  · obtain ⟨job, hj, rest⟩ := h.release he (.inr rfl)
    exact ⟨job, (fail_other hk).trans hj, rest⟩

theorem Outlives.deliver (h : Outlives jobs handlers j) (k : Nat) :
    Outlives jobs (handlers ++ [(k, .free)]) j := by
  obtain ⟨job, hj, hq, hr, hc⟩ := h
  exact ⟨job, hj, hq, by simpa using hr, by simpa [List.count_singleton] using hc⟩

theorem Outlives.add (h : Outlives jobs handlers j) (job : Job δ) : Outlives (jobs ++ [job]) handlers j := by
  obtain ⟨job', hj, rest⟩ := h
  exact ⟨job', by rw [List.getElem?_append_left (List.getElem?_eq_some_iff.mp hj).1]; exact hj, rest⟩

theorem outlives_new {job : Job δ} (hq : job.queued = true) (ha : job.attemptsMade < job.attempts)
    (hh : ∀ x ∈ handlers, x.1 < jobs.length) : Outlives (jobs ++ [job]) handlers jobs.length := by
  have hn : ∀ f, (jobs.length, f) ∉ handlers := fun f hm => absurd (hh _ hm) (Nat.lt_irrefl _)
  exact ⟨job, by simp, hq, hn _, by rw [List.count_eq_zero.mpr (hn _)]; exact ha⟩

end

end JobQueue
