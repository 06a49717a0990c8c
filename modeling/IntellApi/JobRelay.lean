import IntellApi.JobQueue

/-!
# What the jobs of a queue will still pass on

A handler of a job passes the job's work on and then returns. `load` counts the
times this is still to happen, to the jobs that are `mine`: a handler that has
not passed its work on counts, and so does one that throws, for its job may be
handed over again; a queued job counts when no handler has it. Passing on lowers
the load by one, and only two things raise it: handing a job over that a handler
has already, and losing a handler that has passed its work on.
-/

namespace JobQueue

def Fate.bears : Fate → Bool
  | .free | .throwing => true
  | .returning | .gone => false

section
variable {δ : Type*}

/-- The job is queued, and no handler has it. -/
def waits (jobs : List (Job δ)) (handlers : List (Nat × Fate)) (j : Nat) : Bool :=
  jobs[j]?.any (·.queued) && handlers.all fun x => x.1 != j || x.2 == .gone

def load (mine : Nat → Bool) (jobs : List (Job δ)) (handlers : List (Nat × Fate)) : Nat :=
  handlers.countP (fun x => mine x.1 && x.2.bears) +
    (List.range jobs.length).countP fun j => mine j && waits jobs handlers j

end

/-! ## Counts with one change -/

section
variable {α : Type*}

theorem countP_set_some {p : α → Bool} {l : List α} {i : Nat} {a b : α} (h : l[i]? = some a) :
    (l.set i b).countP p + (p a).toNat = l.countP p + (p b).toNat := by
  obtain ⟨hlt, ha⟩ := List.getElem?_eq_some_iff.mp h
  have hpos : p a = true → 0 < l.countP p := fun hp => List.countP_pos_iff.mpr ⟨a, List.mem_of_getElem? h, hp⟩
  rw [List.countP_set hlt, ha]
  cases hp : p a <;> cases hb : p b
  · simp
  · simp
  · have := hpos hp
    simp only [if_true, Bool.false_eq_true, if_false, Bool.toNat_true, Bool.toNat_false]
    omega
  · have := hpos hp
    simp only [if_true, Bool.toNat_true]
    omega

theorem countP_range_change {p q : Nat → Bool} {n j : Nat} (h : ∀ i, i ≠ j → q i = p i)
    (hn : n ≤ j → q j = p j) :
    (List.range n).countP q + (p j).toNat = (List.range n).countP p + (q j).toNat := by
  induction n with
  | zero => simp [hn (Nat.zero_le j)]
  | succ n ih =>
    simp only [List.range_succ, List.countP_append, List.countP_singleton]
    by_cases hj : n = j
    · subst hj
      have hc : (List.range n).countP q = (List.range n).countP p :=
        List.countP_congr fun i hi => by rw [h i (Nat.ne_of_lt (List.mem_range.mp hi))]
      rw [hc]
      cases q n <;> cases p n <;> simp
    · have hi := ih fun hle => hn (by omega)
      rw [h n hj]
      omega

end

/-! ## Loads -/

section
variable {δ : Type*} {mine mine' : Nat → Bool} {jobs jobs' : List (Job δ)} {handlers : List (Nat × Fate)} {i j h : Nat}
  {f g : Fate}

theorem toNat_and_le (a b : Bool) : (a && b).toNat ≤ a.toNat := by
  cases a <;> cases b <;> decide

theorem waits_of_none (hj : jobs[j]? = none) : waits jobs handlers j = false := by
  simp [waits, hj]

theorem waits_of_live (hm : (j, g) ∈ handlers) (hg : g ≠ .gone) : waits jobs handlers j = false := by
  simp only [waits, Bool.and_eq_false_iff, List.all_eq_false]
  exact .inr ⟨(j, g), hm, by simpa using hg⟩

theorem waits_set (he : handlers[h]? = some (j, g)) (hi : i ≠ j) (hq : jobs'[i]? = jobs[i]?) :
    waits jobs' (handlers.set h (j, f)) i = waits jobs handlers i := by
  obtain ⟨hlt, hg⟩ := List.getElem?_eq_some_iff.mp he
  have ho : ∀ x : Nat × Fate, x.1 = j → (x.1 != i || x.2 == .gone) = true := fun x hx => by
    simp [hx, Ne.symm hi]
  rw [waits, waits, hq]
  refine congrArg _ (Bool.eq_iff_iff.mpr ?_)
  simp only [List.all_eq_true]
  constructor
  · intro ha x hx
    obtain ⟨k, hk⟩ := List.mem_iff_getElem?.mp hx
    by_cases hkh : k = h
    · subst hkh
      rw [he, Option.some.injEq] at hk
      exact ho x (hk ▸ rfl)
    · exact ha x (List.mem_of_getElem? ((List.getElem?_set_ne (Ne.symm hkh)).trans hk))
  · intro ha x hx
    rcases List.mem_or_eq_of_mem_set hx with hx | rfl
    · exact ha x hx
    · exact ho _ rfl

/-- A handler changes, and of the jobs at most its own does. -/
theorem load_set (mine : Nat → Bool) (he : handlers[h]? = some (j, g)) (hl : jobs'.length = jobs.length)
    (hq : ∀ i, i ≠ j → jobs'[i]? = jobs[i]?) :
    load mine jobs' (handlers.set h (j, f)) + (mine j && g.bears).toNat + (mine j && waits jobs handlers j).toNat =
      load mine jobs handlers + (mine j && f.bears).toNat +
        (mine j && waits jobs' (handlers.set h (j, f)) j).toNat := by
  have hh := countP_set_some (p := fun x : Nat × Fate => mine x.1 && x.2.bears) (b := (j, f)) he
  have hw := countP_range_change (n := jobs.length) (j := j) (p := fun i => mine i && waits jobs handlers i)
    (q := fun i => mine i && waits jobs' (handlers.set h (j, f)) i)
    (fun i hi => by rw [waits_set he hi (hq i hi)])
    (fun hn => by
      rw [waits_of_none (List.getElem?_eq_none hn), waits_of_none (List.getElem?_eq_none (hl ▸ hn))])
  simp only [load, hl] at hh hw ⊢
  omega

theorem load_moved (mine : Nat → Bool) (jobs : List (Job δ)) (he : handlers[h]? = some (j, g)) :
    load mine jobs (handlers.set h (j, f)) + (mine j && g.bears).toNat + (mine j && waits jobs handlers j).toNat =
      load mine jobs handlers + (mine j && f.bears).toNat +
        (mine j && waits jobs (handlers.set h (j, f)) j).toNat :=
  load_set mine he rfl fun _ _ => rfl

theorem load_passed (he : handlers[h]? = some (j, .free)) :
    load mine jobs (handlers.set h (j, .returning)) + (mine j).toNat = load mine jobs handlers := by
  have hs := load_moved mine (f := .returning) jobs he
  have hm : (j, Fate.returning) ∈ handlers.set h (j, .returning) :=
    List.mem_set (List.getElem?_eq_some_iff.mp he).1 _
  rw [waits_of_live (List.mem_of_getElem? he) (by simp), waits_of_live hm (by simp)] at hs
  simpa [Fate.bears] using hs

theorem load_kept (he : handlers[h]? = some (j, .free)) (hf : f = .free ∨ f = .throwing) :
    load mine jobs (handlers.set h (j, f)) = load mine jobs handlers := by
  have hs := load_moved mine (f := f) jobs he
  have hm : (j, f) ∈ handlers.set h (j, f) := List.mem_set (List.getElem?_eq_some_iff.mp he).1 _
  rw [waits_of_live (List.mem_of_getElem? he) (by simp),
    waits_of_live hm (by rcases hf with rfl | rfl <;> simp)] at hs
  rcases hf with rfl | rfl <;> simpa [Fate.bears] using hs

theorem length_of_data {jobs jobs' : List (Job δ)} (hd : jobs'.map (·.data) = jobs.map (·.data)) :
    jobs'.length = jobs.length := by
  simpa using congrArg List.length hd

theorem load_returned (he : handlers[h]? = some (j, .returning)) :
    load mine (finish jobs j) (handlers.set h (j, .gone)) = load mine jobs handlers := by
  have hs := load_set mine (f := .gone) he (length_of_data (finish_data jobs j))
    fun i hi => finish_other (Ne.symm hi)
  have hw : waits (finish jobs j) (handlers.set h (j, .gone)) j = false := by
    cases hj : jobs[j]? <;> simp [waits, finish, hj]
  rw [waits_of_live (List.mem_of_getElem? he) (by simp), hw] at hs
  simpa [Fate.bears] using hs

theorem load_thrown (he : handlers[h]? = some (j, .throwing)) :
    load mine (fail jobs j) (handlers.set h (j, .gone)) ≤ load mine jobs handlers := by
  have hs := load_set mine (f := .gone) he (length_of_data (fail_data jobs j))
    fun i hi => fail_other (Ne.symm hi)
  rw [waits_of_live (List.mem_of_getElem? he) (by simp)] at hs
  have := toNat_and_le (mine j) (waits (fail jobs j) (handlers.set h (j, .gone)) j)
  simp only [Fate.bears, Bool.and_true, Bool.and_false, Bool.toNat_false] at hs
  omega

theorem load_crashed (he : handlers[h]? = some (j, g)) :
    load mine jobs (handlers.set h (j, .gone)) ≤ load mine jobs handlers + (mine j && g == .returning).toNat := by
  have hs := load_moved mine (f := .gone) jobs he
  have hle := toNat_and_le (mine j) (waits jobs (handlers.set h (j, .gone)) j)
  cases g with
  | gone =>
    have hself : handlers.set h (j, .gone) = handlers := by
      rw [← (List.getElem?_eq_some_iff.mp he).2, List.set_getElem_self]
    rw [hself]
    exact Nat.le_add_right _ _
  | returning =>
    rw [waits_of_live (List.mem_of_getElem? he) (by simp)] at hs
    simp only [Fate.bears, Bool.and_false, Bool.toNat_false, beq_self_eq_true, Bool.and_true] at hs ⊢
    omega
  | free | throwing =>
    rw [waits_of_live (List.mem_of_getElem? he) (by simp)] at hs
    simp only [Fate.bears, Bool.and_false, Bool.toNat_false, Bool.and_true] at hs
    omega

theorem load_delivered (handlers : List (Nat × Fate)) :
    load mine jobs (handlers ++ [(j, .free)]) ≤
      load mine jobs handlers + (mine j && !waits jobs handlers j).toNat := by
  have ho : ∀ i, i ≠ j → waits jobs (handlers ++ [(j, .free)]) i = waits jobs handlers i := fun i hi => by
    have hji : (j != i) = true := bne_iff_ne.mpr (Ne.symm hi)
    simp [waits, hji]
  have hw := countP_range_change (n := jobs.length) (j := j) (p := fun i => mine i && waits jobs handlers i)
    (q := fun i => mine i && waits jobs (handlers ++ [(j, .free)]) i) (fun i hi => by rw [ho i hi])
    (fun hn => by rw [waits_of_none (List.getElem?_eq_none hn), waits_of_none (List.getElem?_eq_none hn)])
  have hg : waits jobs (handlers ++ [(j, .free)]) j = false := waits_of_live (by simp) (by simp : Fate.free ≠ .gone)
  simp only [hg, Bool.and_false, Bool.toNat_false] at hw
  simp only [load, List.countP_append, List.countP_singleton, Fate.bears, Bool.and_true]
  cases hm : mine j with
  | false =>
    simp only [hm, Bool.false_and, Bool.toNat_false, Bool.false_eq_true, if_false] at hw ⊢
    omega
  | true =>
    simp only [hm, Bool.true_and] at hw
    cases hj : waits jobs handlers j with
    | false =>
      simp only [hj, Bool.toNat_false, Bool.toNat_true, if_true, Bool.true_and, Bool.not_false] at hw ⊢
      omega
    | true =>
      simp only [hj, Bool.toNat_false, Bool.toNat_true, if_true, Bool.true_and, Bool.not_true] at hw ⊢
      omega

theorem load_added (job : Job δ) (hm : ∀ i, i < jobs.length → mine' i = mine i)
    (hh : ∀ x ∈ handlers, x.1 < jobs.length) :
    load mine' (jobs ++ [job]) handlers ≤ load mine jobs handlers + (mine' jobs.length).toNat := by
  have hc : handlers.countP (fun x => mine' x.1 && x.2.bears) = handlers.countP (fun x => mine x.1 && x.2.bears) :=
    List.countP_congr fun x hx => by rw [hm x.1 (hh x hx)]
  have hw : (List.range jobs.length).countP (fun i => mine' i && waits (jobs ++ [job]) handlers i) =
      (List.range jobs.length).countP fun i => mine i && waits jobs handlers i :=
    List.countP_congr fun i hi => by
      rw [hm i (List.mem_range.mp hi), waits, waits, List.getElem?_append_left (List.mem_range.mp hi)]
  have hl : (jobs ++ [job]).length = jobs.length + 1 := by simp
  rw [load, load, hl, List.range_succ, List.countP_append, List.countP_singleton, hc, hw]
  have hle : (if (mine' jobs.length && waits (jobs ++ [job]) handlers jobs.length) = true then 1 else 0) ≤
      (mine' jobs.length).toNat := by
    cases mine' jobs.length <;> cases waits (jobs ++ [job]) handlers jobs.length <;> decide
  omega

end

end JobQueue
