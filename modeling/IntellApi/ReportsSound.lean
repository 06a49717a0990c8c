import IntellApi.Calls
import IntellApi.Holders
import IntellApi.Reports

/-!
# Report statuses

Between its claim and its final write an execution is busy. As long as the cron
resets no report while an execution of it is busy, a report has one busy
execution at most and stays `PROCESSING` under it, so its status only moves
along `Edge` and the terminal statuses are final (`terminal_statuses_final`).
The final writes are unconditional: after such a reset a slow execution
overwrites what happened since (`cancelled_then_ready`).
-/

namespace IntellApi.Reports

open Function Holders JobQueue Lts

/-! ## Rows -/

section
variable {s : State} {id id' : Nat} {e : Nat} {x : Execution} {ph : Phase}

theorem report_update (f : Report → Report) :
    (s.update id f).report id' = if id = id' then (s.report id).map (fun r => { f r with updatedAt := s.clock })
      else s.report id' := by
  simp only [State.report, State.update, List.getElem?_modify]
  by_cases h : id = id'
  · subst h; cases s.reports[id]? with
    | none => simp
    | some o => cases o <;> simp
  · simp [h]

theorem report_insert (r : Report) : (s.insert r).report id' =
    if id' = s.reports.length then some r else s.report id' := by
  simp only [State.report, State.insert, List.getElem?_append]
  by_cases h : id' = s.reports.length
  · subst h; simp
  · by_cases hlt : id' < s.reports.length
    · simp [hlt, h]
    · have h1 : id' - s.reports.length ≠ 0 := by omega
      simp [hlt, h, h1]

theorem updateReportStatus_some {s' : State} {status : ReportStatus}
    (h : s.updateReportStatus id status = some s') :
    s' = s.update id (setStatus status) ∧ ∃ r, s.report id = some r ∧ r.status = .pending := by
  unfold State.updateReportStatus at h
  split at h
  · rename_i hp
    simp only [Option.some.injEq] at h
    obtain ⟨r, hr, hs⟩ : ∃ r, s.report id = some r ∧ r.status = .pending := by
      simpa [Option.any_eq_true] using hp
    exact ⟨h.symm, r, hr, hs⟩
  · cases h

theorem updateReportStatus_none {status : ReportStatus} (h : s.updateReportStatus id status = none) :
    ∀ r, s.report id = some r → r.status ≠ .pending := by
  intro r hr hp
  unfold State.updateReportStatus at h
  rw [if_pos (by simp [hr, hp])] at h
  cases h

/-! ## Well-formed states -/

def State.jobIds (s : State) : List Nat := s.jobs.map (·.data.reportId)

/-- The report is being created: its job is still to be enqueued. -/
def State.Creating (s : State) (id : Nat) : Prop :=
  (∃ delay, .enqueuing id delay ∈ s.requests) ∨ ∃ x ∈ s.executions, ∃ delay, x.phase = .enqueuing id delay

/-- Jobs, executions and pending creations point at rows that were created. -/
structure Wf (s : State) : Prop where
  linked : ∀ x ∈ s.executions, s.jobIds[x.job]? = some x.reportId
  jobs : ∀ id ∈ s.jobIds, id < s.reports.length
  creating : ∀ id, s.Creating id → id < s.reports.length
  recurring : ∀ x ∈ s.executions, ∀ report d, x.phase = .scheduling report d → report.period ≠ .custom

theorem Wf.bound (h : Wf s) {x : Execution} (hx : x ∈ s.executions) : x.reportId < s.reports.length :=
  h.jobs _ (List.mem_of_getElem? (h.linked x hx))

end

/-! ## What a step can do -/

def failureStatus (x : Execution) : ReportStatus := if x.isLastAttempt then .failed else .pending

def resetStalled (s : State) : State :=
  { s with
    reports := s.reports.map (Option.map fun r =>
      if stalled s.clock r then { r with status := .pending, updatedAt := s.clock } else r) }

inductive Event (s : State) : Action → State → Prop
  | tick (ms : Nat) : Event s (.tick ms) { s with clock := s.clock + ms }
  | create (dto : ReportsDto) (userId seriesId : Uuid) (delay : Int) (r : Report) : r.status = .pending →
      Event s (.generateReport dto userId seriesId)
        { s.insert r with requests := s.requests ++ [.enqueuing s.reports.length delay] }
  | ask (a : Action) (request : Request) : (∀ id delay, request ≠ .enqueuing id delay) →
      Event s a { s with requests := s.requests ++ [request] }
  | add (r : Nat) (id : Nat) (delay : Int) : s.requests[r]? = some (.enqueuing id delay) →
      Event s (.request r true) ((s.addJob id delay).respond r .done)
  | addFails (r : Nat) (id : Nat) (delay : Int) : s.requests[r]? = some (.enqueuing id delay) →
      Event s (.request r false) (s.respond r .failed)
  | cancel (r : Nat) (ok : Bool) (id : Nat) (row : Report) : s.requests[r]? = some (.cancelling id) →
      s.report id = some row → row.status = .pending →
      Event s (.request r ok) ((s.update id (setStatus .cancelled)).respond r .done)
  | refuse (r : Nat) (ok : Bool) (id : Nat) : s.requests[r]? = some (.cancelling id) →
      Event s (.request r ok) (s.respond r .failed)
  | delete (r : Nat) (ok : Bool) (id : Nat) : s.requests[r]? = some (.deleting id) →
      Event s (.request r ok) ({ s with reports := s.reports.set id none }.respond r .done)
  | deliver (j : Nat) (x : Execution) : s.jobIds[j]? = some x.reportId → x.job = j → x.phase = .reading →
      Event s (.deliver j) { s with executions := s.executions ++ [x] }
  | reset : Event s .resetStalledReports (resetStalled s)
  | read (e : Nat) (x : Execution) (r : Report) : s.executions[e]? = some x → x.phase = .reading →
      Event s (.execute e) (s.move e x (.claiming r))
  | reject (e : Nat) (x : Execution) : s.executions[e]? = some x → x.phase = .reading →
      (∀ r, s.report x.reportId = some r → r.status ≠ .pending) → Event s (.execute e) (s.move e x .throwing)
  | claim (e : Nat) (x : Execution) (r row : Report) : s.executions[e]? = some x → x.phase = .claiming r →
      s.report x.reportId = some row → row.status = .pending →
      Event s (.execute e) ((s.update x.reportId (setStatus .processing)).move e x (.computing r))
  | lose (e : Nat) (x : Execution) (r : Report) : s.executions[e]? = some x → x.phase = .claiming r →
      (∀ r, s.report x.reportId = some r → r.status ≠ .pending) → Event s (.execute e) (s.move e x .returning)
  | compute (e : Nat) (x : Execution) (r : Report) (d : Int) : s.executions[e]? = some x → x.phase = .computing r →
      Event s (.execute e) (s.move e x (.writing r d))
  | write (e : Nat) (x : Execution) (r : Report) (d : Int) (ph : Phase) : s.executions[e]? = some x →
      x.phase = .writing r d → (ph = .returning ∨ ph = .scheduling r d ∧ r.period ≠ .custom) →
      Event s (.execute e) ((s.update x.reportId (deliverReport d)).move e x ph)
  | schedule (e : Nat) (x : Execution) (r : Report) (d : Int) : s.executions[e]? = some x →
      x.phase = .scheduling r d → Event s (.execute e) (s.move e x .returning)
  | renew (e : Nat) (x : Execution) (r : Report) (d delay : Int) (renewed : Report) : s.executions[e]? = some x →
      x.phase = .scheduling r d → renewed.status = .pending →
      Event s (.execute e) ((s.insert renewed).move e x (.enqueuing s.reports.length delay))
  | finish (e : Nat) (x : Execution) : s.executions[e]? = some x → x.phase = .returning →
      Event s (.execute e) ({ s with jobs := finish s.jobs x.job }.move e x .gone)
  | throw (e : Nat) (x : Execution) : s.executions[e]? = some x → x.phase = .throwing →
      Event s (.execute e) ({ s with jobs := fail s.jobs x.job }.move e x .gone)
  | failure (e : Nat) (x : Execution) (r : Report) : s.executions[e]? = some x →
      (x.phase = .computing r ∨ ∃ d, x.phase = .writing r d) →
      Event s (.computationFails e) ((s.update x.reportId (setStatus (failureStatus x))).move e x .throwing)
  | addRenewed (e : Nat) (x : Execution) (id : Nat) (delay : Int) (ok : Bool) : s.executions[e]? = some x →
      x.phase = .enqueuing id delay →
      Event s (.addRenewed e ok) ((if ok then s.addJob id delay else s).move e x .returning)
  | crash (e : Nat) (x : Execution) : s.executions[e]? = some x → Event s (.crash e) (s.move e x .gone)

section
variable {tza : Int} {s s' : State}

theorem delay_generated (tza : Int) (dto : ReportsDto) (userId seriesId : Uuid) (now now' : Int) :
    ∃ delay, computeReportDelay tza (generateReport dto userId seriesId now) now' = .ok delay := by
  cases h : dto.range <;> simp [computeReportDelay, generateReport, h, serviceRangeEnd, pure, Except.pure]

theorem delay_renewed (tza now' : Int) {old renewed : Report} {d now : Int} (h : generateNewSeriesReport old d now = some renewed)
    (hp : old.period ≠ .custom) : renewed.status = .pending ∧ ∃ delay, computeReportDelay tza renewed now' = .ok delay := by
  unfold generateNewSeriesReport at h
  split at h
  · simp only [Option.some.injEq] at h
    subst h
    refine ⟨rfl, ?_⟩
    cases h : old.period
    · simp [computeReportDelay, serviceRangeEnd, pure, Except.pure]
    · simp [computeReportDelay, serviceRangeEnd, pure, Except.pure]
    · exact absurd h hp
  · cases h

theorem requestStep_event {r : Nat} {ok : Bool} {request : Request} (hr : s.requests[r]? = some request)
    (h : requestStep s r ok request = some s') : Event s (.request r ok) s' := by
  cases request with
  | enqueuing id delay =>
    cases ok <;> simp only [requestStep, Option.some.injEq] at h <;> subst h
    · exact .addFails r id delay hr
    · exact .add r id delay hr
  | cancelling id =>
    simp only [requestStep] at h
    split at h <;> simp only [Option.some.injEq] at h <;> subst h
    · rename_i t ht
      obtain ⟨rfl, row, hrow, hp⟩ := updateReportStatus_some ht
      exact .cancel r ok id row hr hrow hp
    · exact .refuse r ok id hr
  | deleting id =>
    simp only [requestStep, Option.some.injEq] at h
    subst h; exact .delete r ok id hr
  | done => cases h
  | failed => cases h

theorem executionStep_event {e : Nat} {x : Execution} (hw : Wf s) (he : s.executions[e]? = some x)
    (h : executionStep tza s e x x.phase = some s') : Event s (.execute e) s' := by
  cases hp : x.phase with
  | reading =>
    simp only [hp, executionStep] at h
    split at h <;> simp only [Option.some.injEq] at h <;> subst h
    · rename_i r hr
      split
      · exact .read e x r he hp
      · rename_i hn
        refine .reject e x he hp fun r' hr' => ?_
        rw [hr, Option.some.injEq] at hr'
        exact hr' ▸ hn
    · rename_i hr
      exact .reject e x he hp fun r' hr' => by rw [hr] at hr'; cases hr'
  | claiming r =>
    simp only [hp, executionStep] at h
    split at h <;> simp only [Option.some.injEq] at h <;> subst h
    · rename_i t ht
      obtain ⟨rfl, row, hrow, hs⟩ := updateReportStatus_some ht
      exact .claim e x r row he hp hrow hs
    · rename_i ht
      exact .lose e x r he hp (updateReportStatus_none ht)
  | computing r =>
    simp only [hp, executionStep, Option.some.injEq] at h
    subst h; exact .compute e x r _ he hp
  | writing r d =>
    simp only [hp, executionStep, Option.some.injEq] at h
    subst h
    refine .write e x r d _ he hp ?_
    split
    · rename_i hr
      simp only [recurs, decide_eq_true_eq] at hr
      exact .inr ⟨rfl, hr.1⟩
    · exact .inl rfl
  | scheduling r d =>
    have hc := hw.recurring x (List.mem_of_getElem? he) r d hp
    simp only [hp, executionStep] at h
    split at h
    · simp only [Option.some.injEq] at h; subst h; exact .schedule e x r d he hp
    · rename_i renewed hn
      obtain ⟨hs, delay, hd⟩ := delay_renewed tza s.clock hn hc
      rw [hd] at h
      split at h <;> simp only [Option.some.injEq] at h <;> subst h
      · exact .schedule e x r d he hp
      · exact .renew e x r d delay renewed he hp hs
  | returning =>
    simp only [hp, executionStep, Option.some.injEq] at h
    subst h; exact .finish e x he hp
  | throwing =>
    simp only [hp, executionStep, Option.some.injEq] at h
    subst h; exact .throw e x he hp
  | enqueuing id delay => rw [hp] at h; cases h
  | gone => rw [hp] at h; cases h

theorem event_of_step {a : Action} (hw : Wf s) (h : step tza s a = some s') : Event s a s' := by
  cases a with
  | tick ms => simp only [step, Option.some.injEq] at h; subst h; exact .tick ms
  | generateReport dto userId seriesId =>
    simp only [step] at h
    split at h
    · cases h
    · obtain ⟨delay, hd⟩ := delay_generated tza dto userId seriesId s.clock s.clock
      rw [hd] at h
      simp only [Option.some.injEq] at h
      subst h
      refine .create dto userId seriesId delay _ ?_
      cases hr : dto.range <;> simp [generateReport, hr]
  | cancelReports id userId =>
    simp only [step, Option.some.injEq] at h
    subst h; exact .ask _ _ (by split <;> simp)
  | deleteReports id userId =>
    simp only [step, Option.some.injEq] at h
    subst h; exact .ask _ _ (by split <;> simp)
  | request r ok =>
    obtain ⟨request, hr, h⟩ := Option.bind_eq_some_iff.mp h
    exact requestStep_event hr h
  | deliver j =>
    simp only [step] at h
    split at h
    · rename_i job hj
      split at h
      · simp only [Option.some.injEq] at h
        subst h
        exact .deliver j ⟨j, job.data.reportId, _, _, _⟩ (by simp [State.jobIds, hj]) rfl rfl
      · cases h
    · cases h
  | execute e =>
    obtain ⟨x, he, h⟩ := Option.bind_eq_some_iff.mp h
    exact executionStep_event hw he h
  | computationFails e =>
    obtain ⟨x, he, h⟩ := Option.bind_eq_some_iff.mp h
    split at h
    · rename_i r hp
      simp only [Option.some.injEq] at h
      subst h; exact .failure e x r he (.inl hp)
    · rename_i r d hp
      simp only [Option.some.injEq] at h
      subst h; exact .failure e x r he (.inr ⟨d, hp⟩)
    · cases h
  | addRenewed e ok =>
    obtain ⟨x, he, h⟩ := Option.bind_eq_some_iff.mp h
    split at h
    · rename_i id delay hp
      simp only [Option.some.injEq] at h
      subst h; exact .addRenewed e x id delay ok he hp
    · cases h
  | crash e =>
    obtain ⟨x, he, h⟩ := Option.map_eq_some_iff.mp h
    subst h; exact .crash e x he
  | resetStalledReports => simp only [step, Option.some.injEq] at h; subst h; exact .reset

/-! ## Well-formedness -/

theorem wf_init : Wf init where
  linked x hx := by cases hx
  jobs id hid := by cases hid
  creating id h := by
    rcases h with ⟨_, h⟩ | ⟨_, h, _⟩ <;> cases h
  recurring x hx := by cases hx

theorem Wf.move (h : Wf s) {e : Nat} {x : Execution} (he : s.executions[e]? = some x) {ph : Phase}
    (hq : ∀ id d, ph = .enqueuing id d → id < s.reports.length)
    (hr : ∀ r d, ph = .scheduling r d → r.period ≠ .custom) : Wf (s.move e x ph) where
  linked y hy := by
    rcases List.mem_or_eq_of_mem_set hy with hy | rfl
    · exact h.linked y hy
    · exact h.linked x (List.mem_of_getElem? he)
  jobs := h.jobs
  creating id hc := by
    rcases hc with hc | ⟨y, hy, d, hd⟩
    · exact h.creating id (.inl hc)
    · rcases List.mem_or_eq_of_mem_set hy with hy | rfl
      · exact h.creating id (.inr ⟨y, hy, d, hd⟩)
      · exact hq id d hd
  recurring y hy r d hd := by
    rcases List.mem_or_eq_of_mem_set hy with hy | rfl
    · exact h.recurring y hy r d hd
    · exact hr r d hd

theorem Wf.move' (h : Wf s) {e : Nat} {x : Execution} (he : s.executions[e]? = some x) {ph : Phase}
    (hq : ∀ id d, ph ≠ .enqueuing id d) (hr : ∀ r d, ph ≠ .scheduling r d) : Wf (s.move e x ph) :=
  h.move he (fun id d hp => absurd hp (hq id d)) fun r d hp => absurd hp (hr r d)

theorem Wf.reports (h : Wf s) {rows : List (Option Report)} (hl : s.reports.length ≤ rows.length) :
    Wf { s with reports := rows } where
  linked := h.linked
  jobs id hid := Nat.lt_of_lt_of_le (h.jobs id hid) hl
  creating id hc := Nat.lt_of_lt_of_le (h.creating id hc) hl
  recurring := h.recurring

theorem Wf.update (h : Wf s) (id : Nat) (f : Report → Report) : Wf (s.update id f) :=
  h.reports (by simp)

theorem Wf.insert (h : Wf s) (r : Report) : Wf (s.insert r) := h.reports (by simp)

theorem jobIds_of_data {jobs : List (Job ComputeReportJobData)} (hj : jobs.map (·.data) = s.jobs.map (·.data)) :
    State.jobIds { s with jobs } = s.jobIds := by
  have := congrArg (List.map (·.reportId)) hj
  simpa [State.jobIds, Function.comp_def] using this

theorem Wf.sameJobs (h : Wf s) {jobs : List (Job ComputeReportJobData)}
    (hj : jobs.map (·.data) = s.jobs.map (·.data)) : Wf { s with jobs } := by
  have hi := jobIds_of_data hj
  exact ⟨by rw [hi]; exact h.linked, by rw [hi]; exact h.jobs, h.creating, h.recurring⟩

theorem jobIds_addJob (id : Nat) (delay : Int) : (s.addJob id delay).jobIds = s.jobIds ++ [id] := by
  simp [State.jobIds, State.addJob]

theorem Wf.addJob (h : Wf s) {id : Nat} (hid : id < s.reports.length) (delay : Int) : Wf (s.addJob id delay) where
  linked x hx := by
    rw [jobIds_addJob]
    exact Calls.snoc_of_some (h.linked x hx)
  jobs k hk := by
    rw [jobIds_addJob] at hk
    rcases List.mem_append.mp hk with hk | hk
    · exact h.jobs k hk
    · rw [List.mem_singleton.mp hk]; exact hid
  creating := h.creating
  recurring := h.recurring

theorem Wf.requests (h : Wf s) {requests : List Request}
    (hr : ∀ id d, .enqueuing id d ∈ requests → .enqueuing id d ∈ s.requests ∨ id < s.reports.length) :
    Wf { s with requests } where
  linked := h.linked
  jobs := h.jobs
  creating id hc := by
    rcases hc with ⟨d, hd⟩ | hc
    · rcases hr id d hd with hd | hlt
      · exact h.creating id (.inl ⟨d, hd⟩)
      · exact hlt
    · exact h.creating id (.inr hc)
  recurring := h.recurring

theorem Wf.respond (h : Wf s) (r : Nat) {request : Request} (hr : ∀ id d, request ≠ .enqueuing id d) :
    Wf (s.respond r request) :=
  h.requests fun id d hd => by
    rcases List.mem_or_eq_of_mem_set hd with hd | hd
    · exact .inl hd
    · exact absurd hd.symm (hr id d)

theorem Wf.deliver (h : Wf s) {x : Execution} (hj : s.jobIds[x.job]? = some x.reportId)
    (hp : x.phase = .reading) : Wf { s with executions := s.executions ++ [x] } where
  linked y hy := by
    rcases List.mem_append.mp hy with hy | hy
    · exact h.linked y hy
    · rw [List.mem_singleton.mp hy]; exact hj
  jobs := h.jobs
  creating id hc := by
    rcases hc with hc | ⟨y, hy, d, hd⟩
    · exact h.creating id (.inl hc)
    · rcases List.mem_append.mp hy with hy | hy
      · exact h.creating id (.inr ⟨y, hy, d, hd⟩)
      · rw [List.mem_singleton.mp hy, hp] at hd; cases hd
  recurring y hy r d hd := by
    rcases List.mem_append.mp hy with hy | hy
    · exact h.recurring y hy r d hd
    · rw [List.mem_singleton.mp hy, hp] at hd; cases hd

theorem wf_event {a : Action} (h : Wf s) (he : Event s a s') : Wf s' := by
  cases he with
  | tick ms => exact ⟨h.linked, h.jobs, h.creating, h.recurring⟩
  | create dto userId seriesId delay r _ =>
    refine (h.insert r).requests fun id d hd => ?_
    rcases List.mem_append.mp hd with hd | hd
    · exact .inl hd
    · cases List.mem_singleton.mp hd; exact .inr (by simp [State.insert])
  | ask a request hr =>
    refine h.requests fun id d hd => ?_
    rcases List.mem_append.mp hd with hd | hd
    · exact .inl hd
    · exact absurd (List.mem_singleton.mp hd).symm (hr id d)
  | add r id delay hr =>
    exact (h.addJob (h.creating id (.inl ⟨delay, List.mem_of_getElem? hr⟩)) delay).respond r (by simp)
  | addFails r id delay _ => exact h.respond r (by simp)
  | cancel r ok id row _ _ _ => exact (h.update id _).respond r (by simp)
  | refuse r ok id _ => exact h.respond r (by simp)
  | delete r ok id _ =>
    have hd : Wf { s with reports := s.reports.set id none } := h.reports (by simp)
    exact hd.respond r (by simp)
  | deliver j x hj hx hp => exact h.deliver (hx ▸ hj) hp
  | reset => exact h.reports (by simp)
  | read e x r he _ => exact h.move' he (by simp) (by simp)
  | reject e x he _ _ => exact h.move' he (by simp) (by simp)
  | claim e x r row he _ _ _ => exact (h.update _ _).move' he (by simp) (by simp)
  | lose e x r he _ _ => exact h.move' he (by simp) (by simp)
  | compute e x r d he _ => exact h.move' he (by simp) (by simp)
  | write e x r d ph he _ hph =>
    refine (h.update _ _).move he (fun id d' hp => ?_) fun r' d' hp => ?_
    · rcases hph with rfl | ⟨rfl, _⟩ <;> cases hp
    · rcases hph with rfl | ⟨rfl, hc⟩ <;> cases hp; exact hc
  | schedule e x r d he _ => exact h.move' he (by simp) (by simp)
  | renew e x r d delay renewed he _ _ =>
    refine (h.insert renewed).move he (fun id d' hp => ?_) (by simp)
    cases hp; simp [State.insert]
  | finish e x he _ => exact (h.sameJobs (finish_data s.jobs x.job)).move' he (by simp) (by simp)
  | throw e x he _ => exact (h.sameJobs (fail_data s.jobs x.job)).move' he (by simp) (by simp)
  | failure e x r he _ => exact (h.update _ _).move' he (by simp) (by simp)
  | addRenewed e x id delay ok he hp =>
    cases ok
    · exact h.move' he (by simp) (by simp)
    · exact (h.addJob (h.creating id (.inr ⟨x, List.mem_of_getElem? he, delay, hp⟩)) delay).move' he
        (by simp) (by simp)
  | crash e x he => exact h.move' he (by simp) (by simp)

end

/-! ## Busy executions -/

def Phase.busy : Phase → Bool
  | .computing _ | .writing _ _ => true
  | _ => false

def busyOn (s : State) (e : Nat) : Option Nat :=
  s.executions[e]?.bind fun x => if x.phase.busy then some x.reportId else none

/-- The cron resets no report while an execution of it is busy. -/
def Settled (s : State) : Action → Prop
  | .resetStalledReports =>
    ∀ x ∈ s.executions, x.phase.busy = true → (s.report x.reportId).any (stalled s.clock) = false
  | _ => True

instance (s : State) (a : Action) : Decidable (Settled s a) := by
  unfold Settled; split <;> infer_instance

structure Busy (s : State) : Prop where
  sole : Sole (busyOn s)
  processing : ∀ e id, busyOn s e = some id → ∀ r, s.report id = some r → r.status = .processing

/-- The same for one report: its other executions, and other reports, do not matter. -/
def SettledAt (id : Nat) (s : State) : Action → Prop
  | .resetStalledReports =>
    ∀ x ∈ s.executions, x.reportId = id → x.phase.busy = true → (s.report id).any (stalled s.clock) = false
  | _ => True

instance (id : Nat) (s : State) (a : Action) : Decidable (SettledAt id s a) := by
  unfold SettledAt; split <;> infer_instance

structure BusyAt (id : Nat) (s : State) : Prop where
  sole : ∀ e e', busyOn s e = some id → busyOn s e' = some id → e = e'
  processing : ∀ e, busyOn s e = some id → ∀ r, s.report id = some r → r.status = .processing

theorem busy_iff {s : State} : Busy s ↔ ∀ id, BusyAt id s := by
  constructor
  · intro h id
    exact ⟨fun e e' he he' => h.sole e e' id he he', fun e he => h.processing e id he⟩
  · intro h
    exact ⟨fun e e' id he he' => (h id).sole e e' he he', fun e id he => (h id).processing e he⟩

theorem Settled.at {s : State} {a : Action} (h : Settled s a) (id : Nat) : SettledAt id s a := by
  cases a with
  | resetStalledReports =>
    intro x hx he hb
    rw [← he]
    exact h x hx hb
  | _ => trivial

section
variable {s s' : State} {e id : Nat} {x : Execution}

theorem busyOn_move (he : s.executions[e]? = some x) (ph : Phase) :
    busyOn (s.move e x ph) = update (busyOn s) e (if ph.busy then some x.reportId else none) :=
  Calls.bind_set _ he

theorem busyOn_some {id : Nat} (h : busyOn s e = some id) :
    ∃ x, s.executions[e]? = some x ∧ x.phase.busy = true ∧ x.reportId = id := by
  obtain ⟨x, hx, hb⟩ := Option.bind_eq_some_iff.mp h
  simp only [Option.ite_none_right_eq_some, Option.some.injEq] at hb
  exact ⟨x, hx, hb⟩

theorem busyOn_of (he : s.executions[e]? = some x) (hb : x.phase.busy = true) : busyOn s e = some x.reportId := by
  simp [busyOn, he, hb]

theorem BusyAt.rows (h : BusyAt id s) (hb : busyOn s' = busyOn s)
    (hr : ∀ e, busyOn s e = some id → ∀ r, s'.report id = some r → s.report id = some r) : BusyAt id s' where
  sole := by rw [hb]; exact h.sole
  processing e he r hs := by
    rw [hb] at he
    exact h.processing e he r (hr e he r hs)

theorem BusyAt.same (h : BusyAt id s) (hx : s'.executions = s.executions) (hr : s'.reports = s.reports) : BusyAt id s' :=
  h.rows (by unfold busyOn; rw [hx]) fun _ _ _ hs => by rwa [State.report, hr] at hs

theorem busyOn_free (he : s.executions[e]? = some x) {ph : Phase} (hp : ph.busy = false) {q : Nat}
    (hq : busyOn (s.move e x ph) q = some id) : q ≠ e ∧ busyOn s q = some id := by
  rw [busyOn_move he, hp] at hq
  by_cases h : q = e
  · subst h
    simp at hq
  · rw [update_of_ne h] at hq
    exact ⟨h, hq⟩

theorem BusyAt.free (h : BusyAt id s) (he : s.executions[e]? = some x) {ph : Phase} (hp : ph.busy = false) :
    BusyAt id (s.move e x ph) where
  sole p q hp' hq := h.sole p q (busyOn_free he hp hp').2 (busyOn_free he hp hq).2
  processing q hq := h.processing q (busyOn_free he hp hq).2

theorem BusyAt.leave (h : BusyAt id s) (he : s.executions[e]? = some x) (hb : x.phase.busy = true)
    (f : Report → Report) {ph : Phase} (hp : ph.busy = false) : BusyAt id ((s.update x.reportId f).move e x ph) where
  sole p q hp' hq := h.sole p q (busyOn_free (s := s.update x.reportId f) he hp hp').2
    (busyOn_free (s := s.update x.reportId f) he hp hq).2
  processing q hq r hr := by
    obtain ⟨hne, hq⟩ := busyOn_free (s := s.update x.reportId f) he hp hq
    -- the execution that leaves was the only one
    have hid : x.reportId ≠ id := fun e' => hne (h.sole q e hq (e' ▸ busyOn_of he hb))
    have hr : (s.update x.reportId f).report id = some r := hr
    rw [report_update, if_neg hid] at hr
    exact h.processing q hq r hr

theorem BusyAt.not_pending (h : BusyAt id s) {row : Report} (hr : s.report id = some row)
    (hp : row.status = .pending) (q : Nat) : busyOn s q ≠ some id := fun hq => by
  have := h.processing q hq row hr
  rw [hp] at this; cases this

theorem BusyAt.claim (h : BusyAt id s) (he : s.executions[e]? = some x) {row : Report}
    (hr : s.report x.reportId = some row) (hp : row.status = .pending) (r : Report) :
    BusyAt id ((s.update x.reportId (setStatus .processing)).move e x (.computing r)) := by
  have hmove := busyOn_move (s := s.update x.reportId (setStatus .processing)) he (.computing r)
  by_cases hid : x.reportId = id
  · subst hid
    -- nobody was busy on a pending report
    have hq : ∀ q, busyOn ((s.update x.reportId (setStatus .processing)).move e x (.computing r)) q = some x.reportId →
        q = e := by
      intro q hq
      rw [hmove] at hq
      rcases update_some hq with hq | ⟨rfl, -⟩
      · exact absurd hq (h.not_pending hr hp q)
      · rfl
    refine ⟨fun p q hp hq' => (hq p hp).trans (hq q hq').symm, fun q _ r' hr' => ?_⟩
    have hr' : (s.update x.reportId (setStatus .processing)).report x.reportId = some r' := hr'
    rw [report_update, if_pos rfl, hr] at hr'
    cases hr'
    rfl
  · have hq : ∀ q, busyOn ((s.update x.reportId (setStatus .processing)).move e x (.computing r)) q = some id →
        busyOn s q = some id := by
      intro q hq
      rw [hmove] at hq
      rcases update_some hq with hq | ⟨-, hq⟩
      · exact hq
      · exact absurd (Option.some.inj hq) hid
    refine ⟨fun p q hp hq' => h.sole p q (hq p hp) (hq q hq'), fun q hq' r' hr' => ?_⟩
    have hr' : (s.update x.reportId (setStatus .processing)).report id = some r' := hr'
    rw [report_update, if_neg hid] at hr'
    exact h.processing q (hq q hq') r' hr'

theorem BusyAt.keep (h : BusyAt id s) (he : s.executions[e]? = some x) (hb : x.phase.busy = true) {ph : Phase}
    (hp : ph.busy = true) : BusyAt id (s.move e x ph) := by
  refine h.rows ?_ fun _ _ _ hr => hr
  rw [busyOn_move he, hp, if_pos rfl, ← busyOn_of he hb, update_eq_self]

theorem busyOn_append (hx : x.phase.busy = false) :
    busyOn { s with executions := s.executions ++ [x] } = busyOn s :=
  Calls.bind_snoc _ (by rw [hx]; rfl)

theorem BusyAt.insert (h : BusyAt id s) (hw : Wf s) (r : Report) : BusyAt id (s.insert r) :=
  h.rows rfl fun q hq row hr => by
    obtain ⟨x, hx, -, rfl⟩ := busyOn_some hq
    have := hw.bound (List.mem_of_getElem? hx)
    rwa [report_insert, if_neg (by omega)] at hr

theorem report_resetStalled (id : Nat) : (resetStalled s).report id = (s.report id).map fun r =>
    if stalled s.clock r then { r with status := .pending, updatedAt := s.clock } else r := by
  simp only [State.report, resetStalled, List.getElem?_map]
  cases s.reports[id]? with
  | none => rfl
  | some o => cases o <;> rfl

theorem busyAt_event {a : Action} (h : BusyAt id s) (hw : Wf s) (ho : SettledAt id s a) (hs : Event s a s') : BusyAt id s' := by
  cases hs with
  | tick ms => exact h.same rfl rfl
  | create dto userId seriesId delay r _ => exact (h.insert hw r).same rfl rfl
  | ask a request _ => exact h.same rfl rfl
  | add r id delay _ => exact h.same rfl rfl
  | addFails r id delay _ => exact h.same rfl rfl
  | cancel r ok id' row _ hr hp =>
    refine h.rows rfl fun q hq row' hr' => ?_
    have hr' : (s.update id' (setStatus .cancelled)).report id = some row' := hr'
    have hne : id' ≠ id := fun e => h.not_pending (e ▸ hr) hp q hq
    rwa [report_update, if_neg hne] at hr'
  | refuse r ok id _ => exact h.same rfl rfl
  | delete r ok id _ =>
    refine h.rows rfl fun q hq row' hr' => ?_
    simp only [State.report, State.respond, List.getElem?_set] at hr'
    split at hr'
    · split at hr' <;> cases hr'
    · exact hr'
  | deliver j x _ _ hp => exact h.rows (busyOn_append (by rw [hp]; rfl)) fun _ _ _ hr => hr
  | reset =>
    refine h.rows rfl fun q hq r hr => ?_
    obtain ⟨x, hx, hb, rfl⟩ := busyOn_some hq
    rw [report_resetStalled] at hr
    cases hrow : s.report x.reportId with
    | none => rw [hrow] at hr; cases hr
    | some row =>
      have hns : stalled s.clock row = false := by
        by_contra hst
        have := ho x (List.mem_of_getElem? hx) rfl hb
        simp [hrow, hst] at this
      simpa [hrow, hns] using hr
  | read e x r he _ => exact h.free he rfl
  | reject e x he _ _ => exact h.free he rfl
  | claim e x r row he _ hr hp => exact h.claim he hr hp r
  | lose e x r he _ _ => exact h.free he rfl
  | compute e x r d he hp => exact h.keep he (by rw [hp]; rfl) rfl
  | write e x r d ph he hp hph =>
    exact h.leave he (by rw [hp]; rfl) _ (by rcases hph with rfl | ⟨rfl, _⟩ <;> rfl)
  | schedule e x r d he _ => exact h.free he rfl
  | renew e x r d delay renewed he _ _ => exact (h.insert hw renewed).free he rfl
  | finish e x he _ => exact (h.same rfl rfl : BusyAt id { s with jobs := finish s.jobs x.job }).free he rfl
  | throw e x he _ => exact (h.same rfl rfl : BusyAt id { s with jobs := fail s.jobs x.job }).free he rfl
  | failure e x r he hp =>
    refine h.leave he ?_ _ rfl
    rcases hp with hp | ⟨d, hp⟩ <;> rw [hp] <;> rfl
  | addRenewed e x id' delay ok he _ =>
    cases ok
    · exact h.free he rfl
    · exact (h.same rfl rfl : BusyAt id (s.addJob id' delay)).free he rfl
  | crash e x he => exact h.free he rfl

theorem busy_event {a : Action} (h : Busy s) (hw : Wf s) (ho : Settled s a) (hs : Event s a s') : Busy s' :=
  busy_iff.mpr fun id => busyAt_event (busy_iff.mp h id) hw (ho.at id) hs

end

/-! ## Statuses -/

/-- `none`: no such row yet, `some none`: the row was deleted. -/
def State.status (s : State) (id : Nat) : Option (Option ReportStatus) := s.reports[id]?.map (Option.map (·.status))

inductive Edge : Option (Option ReportStatus) → Option (Option ReportStatus) → Prop
  | create : Edge none (some (some .pending))
  | claim : Edge (some (some .pending)) (some (some .processing))
  | cancel : Edge (some (some .pending)) (some (some .cancelled))
  | ready : Edge (some (some .processing)) (some (some .ready))
  | fail : Edge (some (some .processing)) (some (some .failed))
  | retry : Edge (some (some .processing)) (some (some .pending))
  | delete (v : Option ReportStatus) : Edge (some v) (some none)

def ReportStatus.terminal : ReportStatus → Bool
  | .ready | .failed | .cancelled => true
  | .pending | .processing => false

theorem Edge.terminal {status : ReportStatus} (ht : status.terminal = true) {v : Option (Option ReportStatus)}
    (h : Relation.ReflTransGen Edge (some (some status)) v) : v = some (some status) ∨ v = some none := by
  induction h with
  | refl => exact .inl rfl
  | tail _ he ih =>
    rcases ih with rfl | rfl
    · cases he with
      | delete => exact .inr rfl
      | _ => cases ht
    · cases he; exact .inr rfl

section
variable {s s' : State} {id id' : Nat}

theorem status_report {r : Report} (h : s.report id = some r) : s.status id = some (some r.status) := by
  simp [State.status, Option.join_eq_some_iff.mp h]

theorem status_update (id : Nat) {f : Report → Report}
    (hf : ∀ r, s.report id = some r → Edge (some (some r.status)) (some (some (f r).status))) :
    (s.update id f).status id' = s.status id' ∨ Edge (s.status id') ((s.update id f).status id') := by
  by_cases h : id = id'
  · subst h
    cases hr : s.reports[id]? with
    | none => left; simp [State.status, State.update, hr]
    | some o =>
      cases o with
      | none => left; simp [State.status, State.update, hr]
      | some r =>
        right
        have := hf r (by simp [State.report, hr])
        simpa [State.status, State.update, hr] using this
  · left; simp [State.status, State.update, h]

theorem status_insert {r : Report} (hr : r.status = .pending) :
    (s.insert r).status id' = s.status id' ∨ Edge (s.status id') ((s.insert r).status id') := by
  simp only [State.status, State.insert, List.getElem?_append]
  by_cases hlt : id' < s.reports.length
  · left; simp [hlt]
  · by_cases he : id' = s.reports.length
    · right; subst he; simpa [hr] using Edge.create
    · left
      have h1 : id' - s.reports.length ≠ 0 := by omega
      simp [hlt, h1]

theorem status_event {a : Action} (h : Busy s) (he : Event s a s') (id : Nat) :
    s'.status id = s.status id ∨ Edge (s.status id) (s'.status id) := by
  have busy : ∀ {e} {x : Execution}, s.executions[e]? = some x → x.phase.busy = true →
      ∀ r, s.report x.reportId = some r → r.status = .processing := fun he hb => h.processing _ _ (busyOn_of he hb)
  cases he with
  | create dto userId seriesId delay r hr => exact status_insert hr
  | cancel r ok id' row _ hr hp =>
    refine status_update id' fun row' hr' => ?_
    rw [hr, Option.some.injEq] at hr'
    rw [← hr', hp]; exact .cancel
  | delete r ok id' _ =>
    by_cases hd : id' = id
    · subst hd
      cases hr : s.reports[id']? with
      | none => left; simp [State.status, State.respond, hr, List.set_eq_of_length_le (by simpa using hr)]
      | some o =>
        right
        have hlt := (List.getElem?_eq_some_iff.mp hr).1
        have h1 : s.status id' = some (o.map (·.status)) := by simp only [State.status, hr, Option.map_some]
        have h2 : ({ s with reports := s.reports.set id' none }.respond r .done : State).status id' = some none := by
          simp [State.status, State.respond, hlt]
        rw [h1, h2]; exact .delete _
    · left; simp [State.status, State.respond, List.getElem?_set_ne hd]
  | reset =>
    cases hr : s.reports[id]? with
    | none => left; simp [State.status, resetStalled, hr]
    | some o =>
      cases o with
      | none => left; simp [State.status, resetStalled, hr]
      | some r =>
        by_cases hst : stalled s.clock r
        · right
          have hp : r.status = .processing := by simp [stalled] at hst; exact hst.1
          simpa [State.status, resetStalled, hr, hst, hp] using Edge.retry
        · left; simp [State.status, resetStalled, hr, hst]
  | claim e x r row he _ hr hp =>
    refine status_update x.reportId fun row' hr' => ?_
    rw [hr, Option.some.injEq] at hr'
    rw [← hr', hp]; exact .claim
  | write e x r d ph he hp _ =>
    refine status_update x.reportId fun row hr => ?_
    rw [busy he (by rw [hp]; rfl) row hr]; exact .ready
  | renew e x r d delay renewed _ _ hs => exact status_insert hs
  | failure e x r he hp =>
    refine status_update x.reportId fun row hr => ?_
    rw [busy he (by rcases hp with hp | ⟨d, hp⟩ <;> rw [hp] <;> rfl) row hr]
    simp only [setStatus, failureStatus]
    split
    · exact .fail
    · exact .retry
  | addRenewed e x id' delay ok _ _ => left; cases ok <;> rfl
  | _ => exact .inl rfl

variable {tza : Int}

theorem busy_init : Busy init where
  sole p q id hp := by simp [busyOn, init] at hp
  processing e id he := by simp [busyOn, init] at he

theorem busy_step (s : State) (a : Action) (s' : State) (h : Wf s ∧ Busy s) (ho : Settled s a)
    (hs : (machine tza).step s a = some s') : Wf s' ∧ Busy s' :=
  have he := event_of_step h.1 hs
  ⟨wf_event h.1 he, busy_event h.2 h.1 ho he⟩

theorem busyAt_init (id : Nat) : BusyAt id init := busy_iff.mp busy_init id

/-- Between its claim and its final write an execution has the report to itself. -/
def OneWorker (id : Nat) (s : State) : Prop :=
  ∀ (e e' : Nat) (x x' : Execution), s.executions[e]? = some x → s.executions[e']? = some x' → x.reportId = id →
    x'.reportId = id → x.phase.busy = true → x'.phase.busy = true → e = e'

/-- As long as the cron does not reset a report under a busy execution of it,
one execution at most is busy with it, whatever happens to other reports. -/
theorem one_worker (h : (machine tza).Reach (SettledAt id) s) : OneWorker id s := by
  have hi : Wf s ∧ BusyAt id s := h.inv (I := fun s => Wf s ∧ BusyAt id s) ⟨wf_init, busyAt_init id⟩
    fun _ _ _ hi ho hs =>
      have he := event_of_step hi.1 hs
      ⟨wf_event hi.1 he, busyAt_event hi.2 hi.1 ho he⟩
  intro e e' x x' he he' hx hx' hb hb'
  apply hi.2.sole
  · rw [← hx]
    exact busyOn_of he hb
  · rw [← hx']
    exact busyOn_of he' hb'

/-- Unless the cron resets a report under a busy execution, a report that is
`READY`, `FAILED` or `CANCELLED` keeps that status as long as its row exists. -/
theorem terminal_statuses_final (h : (machine tza).Reach Settled s) (ht : (machine tza).Path Settled s s')
    {row row' : Report} (hr : s.report id = some row) (hs : row.status.terminal = true)
    (hr' : s'.report id = some row') : row'.status = row.status := by
  have hi : Wf s ∧ Busy s := h.inv (I := fun s => Wf s ∧ Busy s) ⟨wf_init, busy_init⟩ busy_step
  have hv := ht.view (v := (·.status id)) (R := Edge) busy_step
    (fun u a u' hi _ hs => status_event hi.2 (event_of_step hi.1 hs) id) hi
  rw [status_report hr, status_report hr'] at hv
  rcases Edge.terminal hs hv with he | he
  · simpa using he
  · cases he

end

/-! ## Runs -/

def weekly : ReportsDto := ⟨1, .solar, "June", false, .weekly 0⟩

/-- The cron resets a report under a slow worker, the user cancels it. -/
def resetThenCancel : List Action :=
  [.generateReport weekly 5 1, .request 0 true, .deliver 0, .execute 0, .execute 0, .tick 1860000,
    .resetStalledReports, .cancelReports 0 5, .request 1 true]

theorem cancelled_then_ready :
    ¬ ∀ s s' id row row', (machine 0).Reach Free s → (machine 0).Path Free s s' → s.report id = some row →
      row.status.terminal = true → s'.report id = some row' → row'.status = row.status := by
  intro h
  have h0 : ((machine 0).run init resetThenCancel).bind (fun s =>
      ((machine 0).run s [.execute 0, .execute 0]).map fun s' => (s.report 0, s'.report 0)) =
      some (some { generateReport weekly 5 1 0 with status := .cancelled, updatedAt := 1860000 },
        some { generateReport weekly 5 1 0 with
          status := .ready, dateDelivered := some 1860000, updatedAt := 1860000 }) := by decide
  obtain ⟨s, hs, h0⟩ := Option.bind_eq_some_iff.mp h0
  obtain ⟨s', hs', h0⟩ := Option.map_eq_some_iff.mp h0
  simp only [Prod.mk.injEq] at h0
  have := h s s' 0 _ _ (Machine.path_of_run hs) (Machine.path_of_run hs') h0.1 rfl h0.2
  cases this

/-- Two executions have read the report, the second one claims it first. -/
def claimTwice : List Action :=
  [.generateReport weekly 5 1, .request 0 true, .deliver 0, .deliver 0, .execute 0, .execute 1, .execute 1, .execute 0,
    .cancelReports 0 5, .request 1 true, .resetStalledReports]

theorem one_worker_claimTwice : ∃ s, ((machine 0).only (SettledAt 0)).run init claimTwice = some s ∧
    s.executions.map (·.phase.busy) = [false, true] ∧ OneWorker 0 s := by
  have h0 : (((machine 0).only (SettledAt 0)).run init claimTwice).map (fun s => s.executions.map (·.phase.busy)) =
      some [false, true] := by decide
  obtain ⟨s, hs, hb⟩ := Option.map_eq_some_iff.mp h0
  exact ⟨s, hs, hb, one_worker (Machine.path_of_run_only hs)⟩

theorem terminal_statuses_final_ready : ∃ s s' row',
    ((machine 0).only Settled).run init [.generateReport weekly 5 1, .request 0 true, .deliver 0, .execute 0,
      .execute 0, .execute 0, .execute 0] = some s ∧
    ((machine 0).only Settled).run s [.cancelReports 0 5, .request 1 true, .tick 1860000, .resetStalledReports,
      .execute 0] = some s' ∧
    s'.report 0 = some row' ∧ row'.status = .ready := by
  have h0 : (((machine 0).only Settled).run init [.generateReport weekly 5 1, .request 0 true, .deliver 0,
      .execute 0, .execute 0, .execute 0, .execute 0]).bind (fun s =>
      (((machine 0).only Settled).run s [.cancelReports 0 5, .request 1 true, .tick 1860000, .resetStalledReports,
        .execute 0]).map fun s' => (s.report 0, s'.report 0)) =
      some (some { generateReport weekly 5 1 0 with status := .ready, dateDelivered := some 0 },
        some { generateReport weekly 5 1 0 with status := .ready, dateDelivered := some 0 }) := by decide
  obtain ⟨s, hs, h0⟩ := Option.bind_eq_some_iff.mp h0
  obtain ⟨s', hs', h0⟩ := Option.map_eq_some_iff.mp h0
  simp only [Prod.mk.injEq] at h0
  exact ⟨s, s', _, hs, hs', h0.2,
    terminal_statuses_final (Machine.path_of_run_only hs) (Machine.path_of_run_only hs') h0.1 rfl h0.2⟩

end IntellApi.Reports
