import IntellApi.ReportsSound

/-!
# The attempts of one job

A queue that hands a job over once at a time and counts its failures, rows
nobody else resets: the row is then pending between the attempts, and when the
job is done it tells how the attempts ended (`retries_end_right`). The handler's
test for the last attempt and the queue's own count agree because both were read
from the same job.
-/

namespace IntellApi.Reports

open Function JobQueue Lts

/-! ## Attempts -/

inductive Outcome
  | succeeded
  | failed
  | turnedAway
  deriving DecidableEq, Repr

def Outcome.between : Phase → Phase → Option Outcome
  | .reading, .throwing | .claiming _, .returning => some .turnedAway
  | .computing _, .throwing | .writing _ _, .throwing => some .failed
  | .writing _ _, .scheduling _ _ | .writing _ _, .returning => some .succeeded
  | _, _ => none

def Action.execution : Action → Option Nat
  | .execute e | .computationFails e | .addRenewed e _ | .crash e => some e
  | _ => none

section
variable (j id : Nat) (s : State)

/-- The execution at a place, if it is one of job `j` and has not ended. -/
def attempt (e : Nat) : Option Execution :=
  s.executions[e]?.bind fun x => if x.job = j ∧ x.phase ≠ .gone then some x else none

def noteOutcome (a : Action) (s' : State) (outcomes : List Outcome) : List Outcome :=
  match a.execution with
  | none => outcomes
  | some e =>
    match attempt j s e, attempt j s' e with
    | some x, some y => outcomes ++ (Outcome.between x.phase y.phase).toList
    | _, _ => outcomes

def Idle : Prop := ∀ x ∈ s.executions, x.job = j → x.phase = .gone

instance : Decidable (Idle j s) := inferInstanceAs (Decidable (∀ x ∈ s.executions, x.job = j → x.phase = .gone))

/-- The job is handed over once at a time and its executions do not crash; the
report is not cancelled, deleted or reset. -/
def Reliable : Action → Prop
  | .deliver k => k = j → Idle j s
  | .crash e => ∀ x ∈ s.executions[e]?, x.job ≠ j
  | .request r _ => ∀ request ∈ s.requests[r]?, request ≠ .cancelling id ∧ request ≠ .deleting id
  | .resetStalledReports => (s.report id).any (stalled s.clock) = false
  | _ => True

instance : (a : Action) → Decidable (Reliable j id s a)
  | .deliver k => inferInstanceAs (Decidable (k = j → Idle j s))
  | .crash e => inferInstanceAs (Decidable (∀ x ∈ s.executions[e]?, x.job ≠ j))
  | .request r _ =>
    inferInstanceAs (Decidable (∀ request ∈ s.requests[r]?, request ≠ .cancelling id ∧ request ≠ .deleting id))
  | .resetStalledReports => inferInstanceAs (Decidable ((s.report id).any (stalled s.clock) = false))
  | .tick _ | .generateReport _ _ _ | .cancelReports _ _ | .deleteReports _ _ | .execute _ | .computationFails _
  | .addRenewed _ _ => instDecidableTrue

end

/-- The job `j` of a pending report, with `n` attempts and none of them made. -/
structure Fresh (n j id : Nat) (s : State) : Prop where
  wf : Wf s
  job : ∃ delay, s.jobs[j]? = some ⟨⟨id, delay⟩, n, 0, true⟩
  sole : ∀ k, s.jobIds[k]? = some id ↔ k = j
  created : ¬ s.Creating id
  idle : Idle j s
  pending : s.status id = some (some .pending)

structure EndsRight (n j id : Nat) (s : State) (outcomes : List Outcome) : Prop where
  taken : .turnedAway ∉ outcomes
  pending : ∀ job, s.jobs[j]? = some job → job.queued = true → Idle j s → s.status id = some (some .pending)
  settled : ∀ job, s.jobs[j]? = some job → job.queued = false →
    s.status id = some (some .ready) ∨ s.status id = some (some .failed)
  done : ∀ job, s.jobs[j]? = some job → job.queued = false →
    (s.status id = some (some .ready) ↔ .succeeded ∈ outcomes) ∧
      (s.status id = some (some .failed) ↔ outcomes = List.replicate n .failed)

/-! ## The invariant -/

/-- What the row says while attempt `k + 1` of `n` is at a phase. -/
def statusAt (n k : Nat) : Phase → ReportStatus
  | .reading | .claiming _ => .pending
  | .computing _ | .writing _ _ => .processing
  | .scheduling _ _ | .enqueuing _ _ | .returning => .ready
  | .throwing | .gone => if n ≤ k + 1 then .failed else .pending

def outcomesAt (k : Nat) : Phase → List Outcome
  | .reading | .claiming _ | .computing _ | .writing _ _ => List.replicate k .failed
  | .scheduling _ _ | .enqueuing _ _ | .returning => List.replicate k .failed ++ [.succeeded]
  | .throwing | .gone => List.replicate k .failed ++ [.failed]

structure Running (n j id : Nat) (s : State) (k e : Nat) (x : Execution) : Prop where
  left : k < n
  job : ∃ delay, s.jobs[j]? = some ⟨⟨id, delay⟩, n, k, true⟩
  sole : ∀ q, attempt j s q = if q = e then some x else none
  made : x.attemptsMade = k
  attempts : x.attempts = n
  status : s.status id = some (some (statusAt n k x.phase))

structure Resting (j id : Nat) (s : State) (status : ReportStatus) : Prop where
  idle : ∀ e, attempt j s e = none
  status : s.status id = some (some status)

inductive Stage (n j id : Nat) (s : State) (outcomes : List Outcome) : Prop
  | waiting (k : Nat) (left : k < n) (job : ∃ delay, s.jobs[j]? = some ⟨⟨id, delay⟩, n, k, true⟩)
      (rest : Resting j id s .pending) (so : outcomes = List.replicate k .failed)
  | running (k e : Nat) (x : Execution) (run : Running n j id s k e x) (so : outcomes = outcomesAt k x.phase)
  | ready (k : Nat) (job : ∃ job, s.jobs[j]? = some job ∧ job.queued = false) (rest : Resting j id s .ready)
      (so : outcomes = List.replicate k .failed ++ [.succeeded])
  | failed (job : ∃ job, s.jobs[j]? = some job ∧ job.queued = false) (rest : Resting j id s .failed)
      (so : outcomes = List.replicate n .failed)

section
variable {n j id e k : Nat} {s s' : State} {x : Execution} {ph : Phase} {a : Action} {outcomes : List Outcome}

/-! ### Attempts of a step -/

theorem attempt_eq_some : attempt j s e = some x ↔ s.executions[e]? = some x ∧ x.job = j ∧ x.phase ≠ .gone := by
  unfold attempt
  constructor
  · intro h
    obtain ⟨y, hy, ht⟩ := Option.bind_eq_some_iff.mp h
    simp only [Option.ite_none_right_eq_some, Option.some.injEq] at ht
    exact ht.2 ▸ ⟨hy, ht.1⟩
  · rintro ⟨he, h⟩
    rw [he, Option.bind_some, if_pos h]

theorem idle_iff : Idle j s ↔ ∀ e, attempt j s e = none := by
  constructor
  · intro h e
    cases ha : attempt j s e with
    | none => rfl
    | some x =>
      obtain ⟨he, hx, hp⟩ := attempt_eq_some.mp ha
      exact absurd (h x (List.mem_of_getElem? he) hx) hp
  · intro h x hm hx
    obtain ⟨e, he⟩ := List.mem_iff_getElem?.mp hm
    by_contra hp
    have := attempt_eq_some.mpr ⟨he, hx, hp⟩
    rw [h e] at this
    cases this

theorem attempt_move (he : s.executions[e]? = some x) : attempt j (s.move e x ph) =
    update (attempt j s) e (if x.job = j ∧ ph ≠ .gone then some { x with phase := ph } else none) :=
  Calls.bind_set _ he

theorem attempt_move_other (he : s.executions[e]? = some x) (hx : x.job ≠ j) :
    attempt j (s.move e x ph) = attempt j s := by
  have hn : attempt j s e = none := by
    unfold attempt
    rw [he, Option.bind_some, if_neg fun h => hx h.1]
  rw [attempt_move he, if_neg fun h => hx h.1, ← hn, update_eq_self]

theorem between_self (p : Phase) : Outcome.between p p = none := by
  cases p <;> rfl

theorem note_same (h : attempt j s' = attempt j s) : noteOutcome j s a s' outcomes = outcomes := by
  unfold noteOutcome
  split
  · rfl
  · rename_i e _
    rw [h]
    cases attempt j s e with
    | none => rfl
    | some x => simp [between_self]

theorem note_none (h : a.execution = some e) (hs : attempt j s' e = none) :
    noteOutcome j s a s' outcomes = outcomes := by
  unfold noteOutcome
  simp only [h, hs]
  cases attempt j s e <;> rfl

theorem note_own {y : Execution} (h : a.execution = some e) (hs : attempt j s e = some x)
    (hs' : attempt j s' e = some y) :
    noteOutcome j s a s' outcomes = outcomes ++ (Outcome.between x.phase y.phase).toList := by
  unfold noteOutcome
  simp only [h, hs, hs']

/-! ### Rows -/

theorem status_update_other {id' : Nat} {f : Report → Report} (h : id' ≠ id) :
    (s.update id' f).status id = s.status id := by
  simp [State.status, State.update, h]

theorem status_update_self {f : Report → Report} {st st' : ReportStatus} (hf : ∀ r, (f r).status = st')
    (h : s.status id = some (some st)) : (s.update id f).status id = some (some st') := by
  obtain ⟨o, ho, hm⟩ := Option.map_eq_some_iff.mp h
  obtain ⟨r, rfl, -⟩ := Option.map_eq_some_iff.mp hm
  simp [State.status, State.update, ho, hf]

theorem status_insert_lt {r : Report} {st : Option ReportStatus} (h : s.status id = some st) :
    (s.insert r).status id = some st := by
  obtain ⟨o, ho, hm⟩ := Option.map_eq_some_iff.mp h
  simp only [State.status, State.insert, Calls.snoc_of_some ho, Option.map_some, hm]

theorem report_of_status {st : ReportStatus} (h : s.status id = some (some st)) :
    ∃ r, s.report id = some r ∧ r.status = st := by
  obtain ⟨o, ho, hm⟩ := Option.map_eq_some_iff.mp h
  obtain ⟨r, rfl, hr⟩ := Option.map_eq_some_iff.mp hm
  exact ⟨r, by simp [State.report, ho], hr⟩

theorem status_reset {st : ReportStatus} (h : s.status id = some (some st))
    (ho : (s.report id).any (stalled s.clock) = false) : (resetStalled s).status id = some (some st) := by
  obtain ⟨r, hr, rfl⟩ := report_of_status h
  rw [hr, Option.any_some] at ho
  refine status_report (r := r) ?_
  rw [report_resetStalled, hr, Option.map_some, ho]
  rfl

/-! ### The other jobs -/

/-- No other job computes the report and none will. -/
structure Alone (j id : Nat) (s : State) : Prop where
  wf : Wf s
  exists_row : id < s.reports.length
  sole : ∀ k, s.jobIds[k]? = some id ↔ k = j
  created : ¬ s.Creating id

theorem Alone.reportId_ne (h : Alone j id s) (he : s.executions[e]? = some x) (hx : x.job ≠ j) : x.reportId ≠ id := by
  intro hid
  exact hx ((h.sole x.job).mp (hid ▸ h.wf.linked x (List.mem_of_getElem? he)))

theorem creating_of_move (hp : ∀ d, ph ≠ .enqueuing id d) (h : (s.move e x ph).Creating id) : s.Creating id := by
  rcases h with h | ⟨y, hy, d, hd⟩
  · exact .inl h
  · rcases List.mem_or_eq_of_mem_set hy with hy | rfl
    · exact .inr ⟨y, hy, d, hd⟩
    · exact absurd hd (hp d)

theorem creating_of_requests {requests : List Request}
    (hr : ∀ d, Request.enqueuing id d ∈ requests → Request.enqueuing id d ∈ s.requests)
    (h : State.Creating { s with requests } id) : s.Creating id := by
  rcases h with ⟨d, hd⟩ | h
  · exact .inl ⟨d, hr d hd⟩
  · exact .inr h

theorem mem_of_respond {r : Nat} {q request : Request} (hq : q ≠ request) (h : q ∈ (s.respond r request).requests) :
    q ∈ s.requests := by
  rcases List.mem_or_eq_of_mem_set h with h | h
  · exact h
  · exact absurd h hq

theorem sole_addJob (h : Alone j id s) {id' : Nat} (hid : id' ≠ id) (delay : Int) (k : Nat) :
    (s.addJob id' delay).jobIds[k]? = some id ↔ k = j := by
  rw [jobIds_addJob]
  constructor
  · intro hk
    rcases Calls.snoc_cases hk with hk | ⟨_, hk⟩
    · exact (h.sole k).mp hk
    · exact absurd hk.symm hid
  · exact fun hk => Calls.snoc_of_some ((h.sole k).mpr hk)

theorem sole_event (h : Alone j id s) (he : Event s a s') : ∀ k, s'.jobIds[k]? = some id ↔ k = j := by
  cases he with
  | add r id' delay hr =>
    exact sole_addJob h (fun e' => h.created (e' ▸ .inl ⟨delay, List.mem_of_getElem? hr⟩)) delay
  | finish e x _ _ => exact (jobIds_of_data (finish_data s.jobs x.job)).symm ▸ h.sole
  | throw e x _ _ => exact (jobIds_of_data (fail_data s.jobs x.job)).symm ▸ h.sole
  | addRenewed e x id' delay ok he hp =>
    cases ok
    · exact h.sole
    · exact sole_addJob h (fun e' => h.created (e' ▸ .inr ⟨x, List.mem_of_getElem? he, delay, hp⟩)) delay
  | _ => exact h.sole

theorem length_event (he : Event s a s') : s.reports.length ≤ s'.reports.length := by
  cases he with
  | addRenewed e x id' delay ok _ _ => cases ok <;> exact Nat.le_refl _
  | _ => simp [State.insert, State.update, State.move, State.respond, State.addJob, resetStalled]

theorem created_event (h : Alone j id s) (he : Event s a s') (hc : s'.Creating id) : s.Creating id := by
  have hne : s.reports.length ≠ id := Nat.ne_of_gt h.exists_row
  cases he with
  | tick ms => exact hc
  | create dto userId seriesId delay r _ =>
    refine creating_of_requests (s := s.insert r) (fun d hd => ?_) hc
    rcases List.mem_append.mp hd with hd | hd
    · exact hd
    · cases List.mem_singleton.mp hd
      exact absurd rfl hne
  | ask a request hq =>
    refine creating_of_requests (fun d hd => ?_) hc
    rcases List.mem_append.mp hd with hd | hd
    · exact hd
    · exact absurd (List.mem_singleton.mp hd).symm (hq id d)
  | add r id' delay _ => exact creating_of_requests (fun d => mem_of_respond (by simp)) hc
  | addFails r id' delay _ => exact creating_of_requests (fun d => mem_of_respond (by simp)) hc
  | cancel r ok id' row _ _ _ => exact creating_of_requests (fun d => mem_of_respond (by simp)) hc
  | refuse r ok id' _ => exact creating_of_requests (fun d => mem_of_respond (by simp)) hc
  | delete r ok id' _ => exact creating_of_requests (fun d => mem_of_respond (by simp)) hc
  | deliver k x _ _ hp =>
    rcases hc with hc | ⟨y, hy, d, hd⟩
    · exact .inl hc
    · rcases List.mem_append.mp hy with hy | hy
      · exact .inr ⟨y, hy, d, hd⟩
      · rw [List.mem_singleton.mp hy, hp] at hd
        cases hd
  | reset => exact hc
  | write e x r d ph he _ hph =>
    exact creating_of_move (fun d => by rcases hph with rfl | ⟨rfl, _⟩ <;> simp) hc
  | renew e x r d delay renewed he _ _ =>
    exact creating_of_move (s := s.insert renewed) (fun d hd => hne (Phase.enqueuing.inj hd).1) hc
  | addRenewed e x id' delay ok he _ =>
    cases ok <;> exact creating_of_move (by simp) hc
  | _ => exact creating_of_move (by simp) hc

theorem alone_event (h : Alone j id s) (he : Event s a s') : Alone j id s' :=
  ⟨wf_event h.wf he, Nat.lt_of_lt_of_le h.exists_row (length_event he), sole_event h he,
    fun hc => h.created (created_event h he hc)⟩

/-! ### Steps of an attempt -/

theorem Stage.untouched (h : Stage n j id s outcomes) (hj : ∀ job, s.jobs[j]? = some job → s'.jobs[j]? = some job)
    (hat : attempt j s' = attempt j s) (hst : ∀ st, s.status id = some (some st) → s'.status id = some (some st)) :
    Stage n j id s' (noteOutcome j s a s' outcomes) := by
  rw [note_same hat]
  have rest : ∀ {status}, Resting j id s status → Resting j id s' status := fun hr =>
    ⟨by rw [hat]; exact hr.idle, hst _ hr.status⟩
  cases h with
  | waiting k left job hr so =>
    obtain ⟨delay, job⟩ := job
    exact .waiting k left ⟨delay, hj _ job⟩ (rest hr) so
  | running k e x run so =>
    obtain ⟨delay, job⟩ := run.job
    exact .running k e x ⟨run.left, ⟨delay, hj _ job⟩, by rw [hat]; exact run.sole, run.made, run.attempts,
      hst _ run.status⟩ so
  | ready k job hr so =>
    obtain ⟨job, hjob, hq⟩ := job
    exact .ready k ⟨job, hj _ hjob, hq⟩ (rest hr) so
  | failed job hr so =>
    obtain ⟨job, hjob, hq⟩ := job
    exact .failed ⟨job, hj _ hjob, hq⟩ (rest hr) so

/-- Only the attempt under way takes steps. -/
theorem Stage.under_way (h : Stage n j id s outcomes) (he : s.executions[e]? = some x) (hx : x.job = j)
    (hp : x.phase ≠ .gone) : ∃ k, Running n j id s k e x ∧ outcomes = outcomesAt k x.phase := by
  have ha := attempt_eq_some.mpr ⟨he, hx, hp⟩
  have resting : ∀ {status}, ¬ Resting j id s status := fun hr => by
    rw [hr.idle e] at ha
    cases ha
  cases h with
  | waiting k left job hr so => exact absurd hr resting
  | running k e' x' run so =>
    have hs := run.sole e
    rw [ha] at hs
    split at hs
    · rename_i h
      subst h
      cases hs
      exact ⟨k, run, so⟩
    · cases hs
  | ready k job hr so => exact absurd hr resting
  | failed job hr so => exact absurd hr resting

theorem Running.at_phase (h : Running n j id s k e x) {p : Phase} (hp : x.phase = p) :
    s.status id = some (some (statusAt n k p)) :=
  hp ▸ h.status

theorem Stage.advance (hs : Stage n j id s outcomes) (he : s.executions[e]? = some x) (hx : x.job = j) {p : Phase}
    (hp : x.phase = p) (hg : p ≠ .gone) (ha : a.execution = some e) (hph : ph ≠ .gone)
    (hj : ∀ job, s.jobs[j]? = some job → s'.jobs[j]? = some job) (hat : attempt j s' = attempt j (s.move e x ph))
    (hst : ∀ k, Running n j id s k e x → s'.status id = some (some (statusAt n k ph)))
    (hout : ∀ k, outcomesAt k ph = outcomesAt k p ++ (Outcome.between p ph).toList) :
    Stage n j id s' (noteOutcome j s a s' outcomes) := by
  subst hp
  obtain ⟨k, run, so⟩ := hs.under_way he hx hg
  have hmove : ∀ q, attempt j s' q = if q = e then some { x with phase := ph } else none := fun q => by
    rw [hat, attempt_move he, if_pos ⟨hx, hph⟩, update_apply, run.sole q]
    split <;> rfl
  obtain ⟨delay, job⟩ := run.job
  refine .running k e { x with phase := ph } ⟨run.left, ⟨delay, hj _ job⟩, hmove, run.made, run.attempts, hst k run⟩ ?_
  rw [note_own ha (attempt_eq_some.mpr ⟨he, hx, hg⟩) ((hmove e).trans (if_pos rfl)), so, hout]

theorem Stage.pass (hs : Stage n j id s outcomes) (he : s.executions[e]? = some x) (hx : x.job = j) {p : Phase}
    (hp : x.phase = p) (hg : p ≠ .gone) (ha : a.execution = some e) (hph : ph ≠ .gone)
    (hj : ∀ job, s.jobs[j]? = some job → s'.jobs[j]? = some job) (hat : attempt j s' = attempt j (s.move e x ph))
    (hst : ∀ st, s.status id = some (some st) → s'.status id = some (some st))
    (hsame : ∀ k, statusAt n k ph = statusAt n k p ∧ outcomesAt k ph = outcomesAt k p)
    (hb : Outcome.between p ph = none) : Stage n j id s' (noteOutcome j s a s' outcomes) := by
  refine hs.advance he hx hp hg ha hph hj hat (fun k run => ?_) fun k => ?_
  · rw [(hsame k).1]
    exact hst _ (run.at_phase hp)
  · rw [(hsame k).2, hb, Option.toList_none, List.append_nil]

theorem Running.end (h : Running n j id s k e x) (he : s.executions[e]? = some x)
    (hat : attempt j s' = attempt j (s.move e x .gone)) : ∀ q, attempt j s' q = none := by
  intro q
  rw [hat, attempt_move he, update_apply, h.sole q]
  split <;> simp [*]

theorem Running.finished (h : Running n j id s k e x) (he : s.executions[e]? = some x) (hx : x.job = j)
    (ha : a.execution = some e) (hp : x.phase = .returning) (so : outcomes = outcomesAt k x.phase) :
    Stage n j id ({ s with jobs := finish s.jobs x.job }.move e x .gone)
      (noteOutcome j s a ({ s with jobs := finish s.jobs x.job }.move e x .gone) outcomes) := by
  have hidle : ∀ q, attempt j ({ s with jobs := finish s.jobs x.job }.move e x .gone) q = none := h.end he rfl
  rw [note_none ha (hidle e)]
  obtain ⟨delay, job⟩ := h.job
  have hst := h.status
  rw [hp] at hst so
  have hjob : (finish s.jobs x.job)[j]? = some ⟨⟨id, delay⟩, n, k, false⟩ := by
    rw [hx, finish, List.getElem?_modify_eq, job]
    rfl
  exact .ready k ⟨_, hjob, rfl⟩ ⟨hidle, hst⟩ so

theorem Running.thrown (h : Running n j id s k e x) (he : s.executions[e]? = some x) (hx : x.job = j)
    (ha : a.execution = some e) (hp : x.phase = .throwing) (so : outcomes = outcomesAt k x.phase) :
    Stage n j id ({ s with jobs := fail s.jobs x.job }.move e x .gone)
      (noteOutcome j s a ({ s with jobs := fail s.jobs x.job }.move e x .gone) outcomes) := by
  have hidle : ∀ q, attempt j ({ s with jobs := fail s.jobs x.job }.move e x .gone) q = none := h.end he rfl
  rw [note_none ha (hidle e)]
  obtain ⟨delay, job⟩ := h.job
  have hst := h.status
  rw [hp] at hst so
  have hjob : (fail s.jobs x.job)[j]? = some ⟨⟨id, delay⟩, n, k + 1, k + 1 < n⟩ := by
    rw [hx, fail, List.getElem?_modify_eq, job]
    rfl
  have hout : outcomes = List.replicate (k + 1) .failed := so.trans List.replicate_succ'.symm
  unfold statusAt at hst
  by_cases hn : n ≤ k + 1
  · rw [if_pos hn] at hst
    have hk : k + 1 = n := Nat.le_antisymm h.left hn
    exact .failed ⟨_, hjob, by simp [hk]⟩ ⟨hidle, hst⟩ (hk ▸ hout)
  · rw [if_neg hn] at hst
    have hlt : k + 1 < n := Nat.lt_of_not_le hn
    rw [decide_eq_true hlt] at hjob
    exact .waiting (k + 1) hlt ⟨delay, hjob⟩ ⟨hidle, hst⟩ hout

/-- The handler counts as the queue does. -/
theorem Running.failureStatus_eq (h : Running n j id s k e x) : failureStatus x = statusAt n k .throwing := by
  simp only [failureStatus, Execution.isLastAttempt, h.made, h.attempts, statusAt, decide_eq_true_eq]

/-- Before its claim an attempt finds the row pending. -/
theorem Stage.row_pending (hs : Stage n j id s outcomes) (he : s.executions[e]? = some x) (hx : x.job = j) {p : Phase}
    (hp : x.phase = p) (hg : p ≠ .gone) (hst : ∀ k, statusAt n k p = .pending) :
    ∃ r, s.report id = some r ∧ r.status = .pending := by
  obtain ⟨k, run, -⟩ := hs.under_way he hx (hp ▸ hg)
  exact report_of_status (hst k ▸ run.at_phase hp)

theorem stage_own (hs : Stage n j id s outcomes) (ho : Reliable j id s a)
    (he : s.executions[e]? = some x) (hx : x.job = j) (hid : x.reportId = id) (ha : a.execution = some e)
    (hev : Event s a s') : Stage n j id s' (noteOutcome j s a s' outcomes) := by
  cases hev with
  | ask a request _ => exact hs.untouched (fun _ hj => hj) rfl fun _ hst => hst
  | read e' x' r he' hp =>
    cases ha
    cases he.symm.trans he'
    exact hs.pass he hx hp (by simp) rfl (by simp) (fun _ hj => hj) rfl (fun _ hst => hst) (fun k => ⟨rfl, rfl⟩) rfl
  | reject e' x' he' hp hn =>
    cases ha
    cases he.symm.trans he'
    obtain ⟨r, hr, hst⟩ := hs.row_pending he hx hp (by simp) fun _ => rfl
    exact absurd hst (hn r (hid ▸ hr))
  | claim e' x' r row he' hp _ _ =>
    cases ha
    cases he.symm.trans he'
    refine hs.advance he hx hp (by simp) rfl (by simp) (fun _ hj => hj) rfl (fun k run => ?_)
      fun k => (List.append_nil _).symm
    rw [hid]
    exact status_update_self (fun _ => rfl) run.status
  | lose e' x' r he' hp hn =>
    cases ha
    cases he.symm.trans he'
    obtain ⟨r, hr, hst⟩ := hs.row_pending he hx hp (by simp) fun _ => rfl
    exact absurd hst (hn r (hid ▸ hr))
  | compute e' x' r d he' hp =>
    cases ha
    cases he.symm.trans he'
    exact hs.pass he hx hp (by simp) rfl (by simp) (fun _ hj => hj) rfl (fun _ hst => hst) (fun k => ⟨rfl, rfl⟩) rfl
  | write e' x' r d ph he' hp hph =>
    cases ha
    cases he.symm.trans he'
    rcases hph with rfl | ⟨rfl, -⟩
    · refine hs.advance he hx hp (by simp) rfl (by simp) (fun _ hj => hj) rfl (fun k run => ?_) fun k => rfl
      rw [hid]
      exact status_update_self (fun _ => rfl) run.status
    · refine hs.advance he hx hp (by simp) rfl (by simp) (fun _ hj => hj) rfl (fun k run => ?_) fun k => rfl
      rw [hid]
      exact status_update_self (fun _ => rfl) run.status
  | schedule e' x' r d he' hp =>
    cases ha
    cases he.symm.trans he'
    exact hs.pass he hx hp (by simp) rfl (by simp) (fun _ hj => hj) rfl (fun _ hst => hst) (fun k => ⟨rfl, rfl⟩) rfl
  | renew e' x' r d delay renewed he' hp _ =>
    cases ha
    cases he.symm.trans he'
    exact hs.pass he hx hp (by simp) rfl (by simp) (fun _ hj => hj) rfl (fun _ hst => status_insert_lt hst)
      (fun k => ⟨rfl, rfl⟩) rfl
  | finish e' x' he' hp =>
    cases ha
    cases he.symm.trans he'
    obtain ⟨k, run, so⟩ := hs.under_way he hx (by rw [hp]; simp)
    exact run.finished he hx rfl hp so
  | throw e' x' he' hp =>
    cases ha
    cases he.symm.trans he'
    obtain ⟨k, run, so⟩ := hs.under_way he hx (by rw [hp]; simp)
    exact run.thrown he hx rfl hp so
  | failure e' x' r he' hp =>
    cases ha
    cases he.symm.trans he'
    have hst : ∀ k, Running n j id s k e x →
        (s.update x.reportId (setStatus (failureStatus x))).status id = some (some (statusAt n k .throwing)) :=
      fun k run => by
        rw [hid, ← run.failureStatus_eq]
        exact status_update_self (fun _ => rfl) run.status
    rcases hp with hp | ⟨d, hp⟩
    · exact hs.advance he hx hp (by simp) rfl (by simp) (fun _ hj => hj) rfl hst fun k => rfl
    · exact hs.advance he hx hp (by simp) rfl (by simp) (fun _ hj => hj) rfl hst fun k => rfl
  | addRenewed e' x' id' delay ok he' hp =>
    cases ha
    cases he.symm.trans he'
    cases ok
    · exact hs.pass he hx hp (by simp) rfl (by simp) (fun _ hj => hj) rfl (fun _ hst => hst)
        (fun k => ⟨rfl, rfl⟩) rfl
    · exact hs.pass he hx hp (by simp) rfl (by simp) (fun _ hj => Calls.snoc_of_some hj) rfl (fun _ hst => hst)
        (fun k => ⟨rfl, rfl⟩) rfl
  | crash e' x' he' => exact absurd hx (ho x (by cases ha; exact he))
  | _ => cases ha

theorem stage_other (h : Alone j id s) (hs : Stage n j id s outcomes) (ho : Reliable j id s a) (hd : a ≠ .deliver j)
    (hx : ∀ e x, a.execution = some e → s.executions[e]? = some x → x.job ≠ j) (hev : Event s a s') :
    Stage n j id s' (noteOutcome j s a s' outcomes) := by
  cases hev with
  | tick ms => exact hs.untouched (fun _ hj => hj) rfl fun _ hst => hst
  | create dto userId seriesId delay r _ =>
    exact hs.untouched (fun _ hj => hj) rfl fun _ hst => status_insert_lt hst
  | ask a request _ => exact hs.untouched (fun _ hj => hj) rfl fun _ hst => hst
  | add r id' delay _ => exact hs.untouched (fun _ hj => Calls.snoc_of_some hj) rfl fun _ hst => hst
  | addFails r id' delay _ => exact hs.untouched (fun _ hj => hj) rfl fun _ hst => hst
  | cancel r ok id' row hr _ _ =>
    have hne : id' ≠ id := fun e' => (ho _ hr).1 (e' ▸ rfl)
    exact hs.untouched (fun _ hj => hj) rfl fun _ hst => (status_update_other hne).trans hst
  | refuse r ok id' _ => exact hs.untouched (fun _ hj => hj) rfl fun _ hst => hst
  | delete r ok id' hr =>
    have hne : id' ≠ id := fun e' => (ho _ hr).2 (e' ▸ rfl)
    refine hs.untouched (fun _ hj => hj) rfl fun st hst => ?_
    simpa [State.status, State.respond, List.getElem?_set_ne hne] using hst
  | deliver k x _ hk hp =>
    have hk : x.job ≠ j := fun e' => hd (by rw [← e', hk])
    refine hs.untouched (fun _ hj => hj) ?_ fun _ hst => hst
    exact Calls.bind_snoc _ (if_neg fun hc => hk hc.1)
  | reset => exact hs.untouched (fun _ hj => hj) rfl fun _ hst => status_reset hst ho
  | claim e x r row he _ _ _ =>
    have hk := hx e x rfl he
    exact hs.untouched (fun _ hj => hj) (attempt_move_other he hk) fun _ hst =>
      (status_update_other (h.reportId_ne he hk)).trans hst
  | write e x r d ph he _ _ =>
    have hk := hx e x rfl he
    exact hs.untouched (fun _ hj => hj) (attempt_move_other he hk) fun _ hst =>
      (status_update_other (h.reportId_ne he hk)).trans hst
  | renew e x r d delay renewed he _ _ =>
    exact hs.untouched (fun _ hj => hj) (attempt_move_other (s := s.insert renewed) he (hx e x rfl he))
      fun _ hst => status_insert_lt hst
  | finish e x he _ =>
    have hk := hx e x rfl he
    exact hs.untouched (fun _ hj => (finish_other hk).trans hj) (attempt_move_other he hk) fun _ hst => hst
  | throw e x he _ =>
    have hk := hx e x rfl he
    exact hs.untouched (fun _ hj => (fail_other hk).trans hj) (attempt_move_other he hk) fun _ hst => hst
  | failure e x r he _ =>
    have hk := hx e x rfl he
    exact hs.untouched (fun _ hj => hj) (attempt_move_other he hk) fun _ hst =>
      (status_update_other (h.reportId_ne he hk)).trans hst
  | addRenewed e x id' delay ok he _ =>
    have hk := hx e x rfl he
    cases ok
    · exact hs.untouched (fun _ hj => hj) (attempt_move_other he hk) fun _ hst => hst
    · exact hs.untouched (fun _ hj => Calls.snoc_of_some hj) (attempt_move_other he hk) fun _ hst => hst
  | _ => exact hs.untouched (fun _ hj => hj) (attempt_move_other ‹_› (hx _ _ rfl ‹_›)) fun _ hst => hst

theorem stage_deliver {tza : Int} (hs : Stage n j id s outcomes) (ho : Reliable j id s (.deliver j))
    (hst : step tza s (.deliver j) = some s') : Stage n j id s' (noteOutcome j s (.deliver j) s' outcomes) := by
  have hidle := idle_iff.mp (ho rfl)
  have ended : ∀ {job : Job ComputeReportJobData}, s.jobs[j]? = some job → job.queued = false → False := by
    intro job hjob hq
    simp [step, hjob, hq] at hst
  cases hs with
  | waiting k left job rest so =>
    obtain ⟨delay, job⟩ := job
    simp only [step, job, if_true, Option.some.injEq] at hst
    subst hst
    let x : Execution := ⟨j, id, k, n, .reading⟩
    have hat : attempt j { s with executions := s.executions ++ [x] } = update (attempt j s) s.executions.length
        (if x.job = j ∧ x.phase ≠ .gone then some x else none) := Calls.bind_append _
    have hx : (if x.job = j ∧ x.phase ≠ .gone then some x else none) = some x := if_pos ⟨rfl, by simp [x]⟩
    refine .running k s.executions.length x ⟨left, ⟨delay, job⟩, fun q => ?_, rfl, rfl, rest.status⟩ so
    rw [hat, hx, update_apply, rest.idle q]
  | running k e x run so =>
    have := run.sole e
    rw [hidle e, if_pos rfl] at this
    cases this
  | ready k job rest so =>
    obtain ⟨job, hjob, hq⟩ := job
    exact (ended hjob hq).elim
  | failed job rest so =>
    obtain ⟨job, hjob, hq⟩ := job
    exact (ended hjob hq).elim

theorem stage_step {tza : Int} (h : Alone j id s) (hs : Stage n j id s outcomes) (ho : Reliable j id s a)
    (hst : step tza s a = some s') : Stage n j id s' (noteOutcome j s a s' outcomes) := by
  by_cases hd : a = .deliver j
  · subst hd
    exact stage_deliver hs ho hst
  have hev := event_of_step h.wf hst
  by_cases hown : ∃ e x, a.execution = some e ∧ s.executions[e]? = some x ∧ x.job = j
  · obtain ⟨e, x, ha, he, hx⟩ := hown
    have hl : s.jobIds[j]? = some x.reportId := hx ▸ h.wf.linked x (List.mem_of_getElem? he)
    have hid : x.reportId = id := Option.some.inj (hl.symm.trans ((h.sole j).mpr rfl))
    exact stage_own hs ho he hx hid ha hev
  · exact stage_other h hs ho hd (fun e x ha he hx => hown ⟨e, x, ha, he, hx⟩) hev

/-! ### Runs -/

theorem Fresh.alone (h : Fresh n j id s) : Alone j id s := by
  obtain ⟨o, ho, -⟩ := Option.map_eq_some_iff.mp h.pending
  exact ⟨h.wf, (List.getElem?_eq_some_iff.mp ho).1, h.sole, h.created⟩

theorem Fresh.stage (hn : 1 ≤ n) (h : Fresh n j id s) : Stage n j id s [] :=
  .waiting 0 hn h.job ⟨idle_iff.mp h.idle, h.pending⟩ rfl

theorem not_turnedAway (k : Nat) (p : Phase) : .turnedAway ∉ outcomesAt k p := by
  cases p <;> simp [outcomesAt]

theorem Stage.endsRight (h : Stage n j id s outcomes) : EndsRight n j id s outcomes := by
  -- the job is queued, or it is done
  have queued : ∀ {job job' : Job ComputeReportJobData} {P : Prop}, s.jobs[j]? = some job →
      s.jobs[j]? = some job' → job.queued = true → job'.queued = false → P := by
    intro job job' P hj hj' hq hq'
    cases hj.symm.trans hj'
    rw [hq] at hq'
    cases hq'
  cases h with
  | waiting k left job rest so =>
    obtain ⟨delay, job⟩ := job
    exact ⟨by simp [so], fun _ _ _ _ => rest.status, fun _ hj hq => queued job hj rfl hq,
      fun _ hj hq => queued job hj rfl hq⟩
  | running k e x run so =>
    obtain ⟨delay, job⟩ := run.job
    refine ⟨so ▸ not_turnedAway k x.phase, fun _ _ _ hi => ?_, fun _ hj hq => queued job hj rfl hq,
      fun _ hj hq => queued job hj rfl hq⟩
    have := run.sole e
    rw [idle_iff.mp hi e, if_pos rfl] at this
    cases this
  | ready k job rest so =>
    obtain ⟨job, hjob, hq⟩ := job
    have hm : .succeeded ∈ outcomes := by simp [so]
    have hne : outcomes ≠ List.replicate n .failed := fun h => by simp [h] at hm
    refine ⟨by simp [so], fun _ hj hq' _ => queued hj hjob hq' hq, fun _ _ _ => .inl rest.status, fun _ _ _ => ?_⟩
    rw [rest.status]
    simp [hm, hne]
  | failed job rest so =>
    obtain ⟨job, hjob, hq⟩ := job
    refine ⟨by simp [so], fun _ hj hq' _ => queued hj hjob hq' hq, fun _ _ _ => .inr rest.status, fun _ _ _ => ?_⟩
    rw [rest.status]
    simp [so]

end

/-- The job of a weekly report, as `generateReport` leaves it. -/
def enqueued : State :=
  { clock := 0, reports := [some (generateReport weekly 5 1 0)], jobs := [⟨⟨0, 345600000⟩, 3, 0, true⟩]
    executions := [], requests := [.done] }

theorem fresh_enqueued : Fresh 3 0 0 enqueued where
  wf :=
    { linked := fun x hx => (nomatch hx)
      jobs := fun id hid => by
        rw [List.mem_singleton.mp hid]
        decide
      creating := fun id h => by rcases h with ⟨d, h⟩ | ⟨x, h, d⟩ <;> simp [enqueued] at h
      recurring := fun x hx => (nomatch hx) }
  job := ⟨345600000, rfl⟩
  sole k := by cases k <;> simp [State.jobIds, enqueued]
  created h := by rcases h with ⟨d, h⟩ | ⟨x, h, d⟩ <;> simp [enqueued] at h
  idle x hx := (nomatch hx)
  pending := rfl

theorem retries_end_right {tza : Int} {n j id : Nat} {s s' : State} {outcomes : List Outcome} (hn : 1 ≤ n)
    (hs : Fresh n j id s)
    (h : ((machine tza).noting [] (noteOutcome j)).Path (fun s a => Reliable j id s.1 a) (s, []) (s', outcomes)) :
    EndsRight n j id s' outcomes := by
  have hi : Alone j id s' ∧ Stage n j id s' outcomes :=
    h.keep (I := fun s => Alone j id s.1 ∧ Stage n j id s.1 s.2)
      (fun s a t hi ho hst => by
        obtain ⟨hstep, hnote⟩ := Machine.step_noting hst
        rw [hnote]
        exact ⟨alone_event hi.1 (event_of_step hi.1.wf hstep), stage_step hi.1 hi.2 ho hstep⟩)
      ⟨hs.alone, hs.stage hn⟩
  exact hi.2.endsRight

def failThenSucceed : List Action :=
  [.deliver 0, .execute 0, .execute 0, .computationFails 0, .execute 0, .deliver 0, .execute 1, .execute 1, .execute 1,
    .execute 1, .execute 1]

theorem retries_end_right_second : (machine 0).run init [.generateReport weekly 5 1, .request 0 true] = some enqueued ∧
    ∃ s, (((machine 0).noting [] (noteOutcome 0)).only fun s a => Reliable 0 0 s.1 a).run (enqueued, [])
        failThenSucceed = some (s, [.failed, .succeeded]) ∧
      s.jobs.map (·.queued) = [false] ∧ EndsRight 3 0 0 s [.failed, .succeeded] := by
  refine ⟨rfl, ?_⟩
  have h0 : ((((machine 0).noting [] (noteOutcome 0)).only fun s a => Reliable 0 0 s.1 a).run (enqueued, [])
      failThenSucceed).map (fun t => (t.2, t.1.jobs.map (·.queued))) = some ([.failed, .succeeded], [false]) := by
    decide +kernel
  obtain ⟨t, ht, h0⟩ := Option.map_eq_some_iff.mp h0
  obtain ⟨s, outcomes⟩ := t
  simp only [Prod.mk.injEq] at h0
  obtain ⟨rfl, hq⟩ := h0
  exact ⟨s, ht, hq, retries_end_right (by decide) fresh_enqueued (Machine.path_of_run_only ht)⟩

end IntellApi.Reports
