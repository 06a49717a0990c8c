import IntellApi.ReportMailsSound

/-!
# Who is mailed a report

A mail holds the report that its request found ready, and goes to the owner, who
asked for it. Of the steps between the request and the mail only the cron could
make this wrong: it must not reset a report that is being computed
(`report_mailed`).
-/

namespace IntellApi.ReportMails

open Lts Reports JobQueue

/-! ## What is mailed -/

/-- A place of the table whose report is final, or deleted. -/
def Final (o : Option Report) : Prop := ∀ row, o = some row → row.status.terminal = true

/-- The place still has what it had, or its report has been deleted. -/
def Stays (o : Option Report) (store : Reports.State) (id : Nat) : Prop :=
  store.reports[id]? = some o ∨ store.reports[id]? = some none

section
variable {store store' : Reports.State} {id : Nat} {o : Option Report}

theorem stays_update (h : store.reports[id]? = some o) (hf : Final o) {id' : Nat} {f : Report → Report}
    (hn : ∀ row, store.report id' = some row → row.status.terminal = false) :
    (store.update id' f).reports[id]? = some o := by
  by_cases hi : id' = id
  · subst hi
    cases o with
    | none => simp [Reports.State.update, h]
    | some row =>
      have hr : store.report id' = some row := by simp [Reports.State.report, h]
      exact absurd ((hf row rfl).symm.trans (hn row hr)) Bool.false_ne_true.symm
  · simpa [Reports.State.update, hi] using h

theorem stays_insert (h : store.reports[id]? = some o) (row : Report) : (store.insert row).reports[id]? = some o :=
  Calls.snoc_of_some h

/-- A report that is final is written no more. -/
theorem stays_event {a : Reports.Action} (hb : Busy store) (he : Event store a store') (h : store.reports[id]? = some o)
    (hf : Final o) : Stays o store' id := by
  have busy : ∀ {e} {x : Execution}, store.executions[e]? = some x → x.phase.busy = true →
      ∀ row, store.report x.reportId = some row → row.status.terminal = false := fun he hp row hr => by
    rw [hb.processing _ _ (busyOn_of he hp) row hr]
    rfl
  cases he with
  | create dto userId seriesId delay r _ => exact .inl (stays_insert h r)
  | renew e x r d delay renewed _ _ _ => exact .inl (stays_insert h renewed)
  | cancel r ok id' row _ hr hp =>
    refine .inl (stays_update h hf fun row' hr' => ?_)
    rw [hr, Option.some.injEq] at hr'
    rw [← hr', hp]
    rfl
  | delete r ok id' _ =>
    by_cases hi : id' = id
    · subst hi
      exact .inr (List.getElem?_set_self (List.getElem?_eq_some_iff.mp h).1)
    · exact .inl ((List.getElem?_set_ne hi).trans h)
  | reset =>
    refine .inl ?_
    simp only [resetStalled, List.getElem?_map, h, Option.map_some]
    cases o with
    | none => rfl
    | some row =>
      have hs : stalled store.clock row = false := by
        by_contra hst
        have ht := hf row rfl
        simp only [stalled, Bool.not_eq_false, decide_eq_true_eq] at hst
        rw [hst.1] at ht
        cases ht
      simp [hs]
  | claim e x r row he hp hr hs =>
    refine .inl (stays_update h hf fun row' hr' => ?_)
    rw [hr, Option.some.injEq] at hr'
    rw [← hr', hs]
    rfl
  | write e x r d ph he hp _ => exact .inl (stays_update h hf (busy he (by rw [hp]; rfl)))
  | failure e x r he hp =>
    exact .inl (stays_update h hf (busy he (by rcases hp with hp | ⟨d, hp⟩ <;> rw [hp] <;> rfl)))
  | addRenewed e x id' delay ok _ _ => cases ok <;> exact .inl h
  | _ => exact .inl h

end

/-- What the checks of a request have left in its variables. -/
structure Request.Checked (request : Request) : Prop where
  report : ∀ report, request.report = some report → report.userId = request.userId ∧ report.status = .ready
  user : ∀ user, request.user = some user → ∃ report, request.report = some report ∧ user.id = report.userId
  finding : request.stage = .findingUser → request.user = none

/-- The variables of a request are set once. -/
def Request.Keeps (request request' : Request) : Prop :=
  request'.reportId = request.reportId ∧ request'.userId = request.userId ∧ request'.report = request.report ∧
    ∀ user, request.user = some user → request'.user = some user

def Extends (s s' : State) : Prop :=
  (∀ (r : Nat) (request : Request), s.requests[r]? = some request →
    ∃ request', s'.requests[r]? = some request' ∧ request.Keeps request') ∧
  ∀ (j : Nat) (job : Job SendReportJob), s.jobs[j]? = some job → ∃ job', s'.jobs[j]? = some job' ∧ job'.data = job.data

section
variable (clientUrl : String)

/-- The job's data is that of the request it comes from. -/
def Asked (s : State) (r : Nat) (data : SendReportJobData) : Prop :=
  ∃ request report user, s.requests[r]? = some request ∧ request.report = some report ∧ request.user = some user ∧
    data = jobData clientUrl user request.reportId

def Mailed (s : State) (mail : Mail) : Prop :=
  ∃ request report user d queue, s.requests[mail.request]? = some request ∧ request.report = some report ∧
    request.user = some user ∧ report.dateDelivered = some d ∧
    mail = reportMail ⟨queue, jobData clientUrl user request.reportId, mail.request⟩ report d

def Sending (s : State) (x : Handler) : Prop :=
  ∀ report d, x.phase = .sending report d → ∃ job request, s.jobs[x.job]? = some job ∧
    s.requests[job.data.request]? = some request ∧ request.report = some report ∧ report.dateDelivered = some d

structure Sound (s : State) : Prop where
  store : Wf s.store ∧ Busy s.store
  checked : ∀ request ∈ s.requests, request.Checked
  rows : ∀ request ∈ s.requests, ∀ report, request.report = some report → Stays (some report) s.store request.reportId
  jobs : ∀ job ∈ s.jobs, Asked clientUrl s job.data.request job.data.data
  handlers : ∀ x ∈ s.handlers, Sending s x
  sent : ∀ mail ∈ s.sent, Mailed clientUrl s mail

end

section
variable {s s' : State} {tza : Int} {clientUrl : String} {r h : Nat} {request : Request}

theorem Extends.asked (he : Extends s s') {data : SendReportJobData} (ha : Asked clientUrl s r data) :
    Asked clientUrl s' r data := by
  obtain ⟨request, report, user, hr, hre, hu, rfl⟩ := ha
  obtain ⟨request', hr', hid, -, hre', hu'⟩ := he.1 r request hr
  exact ⟨request', report, user, hr', hre'.trans hre, hu' user hu, by rw [hid]⟩

theorem Extends.mailed (he : Extends s s') {mail : Mail} (hm : Mailed clientUrl s mail) : Mailed clientUrl s' mail := by
  obtain ⟨request, report, user, d, queue, hr, hre, hu, hd, hmail⟩ := hm
  obtain ⟨request', hr', hid, -, hre', hu'⟩ := he.1 _ request hr
  exact ⟨request', report, user, d, queue, hr', hre'.trans hre, hu' user hu, hd, by rw [hid]; exact hmail⟩

theorem Extends.sending (he : Extends s s') {x : Handler} (hx : Sending s x) : Sending s' x := by
  intro report d hp
  obtain ⟨job, request, hj, hr, hre, hd⟩ := hx report d hp
  obtain ⟨job', hj', hdata⟩ := he.2 _ job hj
  obtain ⟨request', hr', -, -, hre', -⟩ := he.1 _ request hr
  exact ⟨job', request', hj', by rw [hdata]; exact hr', hre'.trans hre, hd⟩

/-! ### Requests -/

theorem Request.Keeps.refl (request : Request) : request.Keeps request := ⟨rfl, rfl, rfl, fun _ h => h⟩

theorem keeps_findUser (hc : request.Checked) (hst : request.stage = .findingUser) (report : Report)
    (error : Option String) : request.Keeps (findUser s request report error) := by
  have hn := hc.finding hst
  unfold findUser
  split
  · exact ⟨rfl, rfl, rfl, fun _ h => h⟩
  · split
    · exact ⟨rfl, rfl, rfl, fun _ h => h⟩
    · exact ⟨rfl, rfl, rfl, fun user h => by rw [hn] at h; cases h⟩

theorem keeps_finish (answer : Answer) : request.Keeps (finishRequest request answer) := by
  unfold finishRequest
  split <;> exact ⟨rfl, rfl, rfl, fun _ h => h⟩

theorem checkReport_ok {found : Option Report} {userId : Uuid} {report : Report}
    (h : checkReport found userId = .ok report) :
    found = some report ∧ report.userId = userId ∧ report.status = .ready := by
  unfold checkReport at h
  split at h
  · cases h
  · rename_i row
    split at h
    · cases h
    · rename_i hu
      split at h
      · cases h
      · rename_i hs
        cases h
        exact ⟨rfl, Decidable.not_not.mp hu, Decidable.not_not.mp hs⟩

/-- A request is refused at once, or has found a report that its user may have. -/
theorem trigger_cases (reportId : Nat) (userId : Uuid) (error : Option String) :
    (∃ e, trigger s reportId userId error = ⟨reportId, userId, none, none, .failed e⟩) ∨
      ∃ report, trigger s reportId userId error = ⟨reportId, userId, some report, none, .findingUser⟩ ∧
        s.store.report reportId = some report ∧ report.userId = userId ∧ report.status = .ready := by
  cases error with
  | some message => exact .inl ⟨_, rfl⟩
  | none =>
    cases hc : checkReport (s.store.report reportId) userId with
    | error e => exact .inl ⟨e, by simp only [trigger, hc]⟩
    | ok report => exact .inr ⟨report, by simp only [trigger, hc], checkReport_ok hc⟩

theorem checked_trigger (reportId : Nat) (userId : Uuid) (error : Option String) :
    (trigger s reportId userId error).Checked := by
  obtain ⟨e, ht⟩ | ⟨report, ht, -, hu, hs⟩ := trigger_cases (s := s) reportId userId error
  · rw [ht]
    exact ⟨fun _ h => absurd h (by simp), fun _ h => absurd h (by simp), fun h => absurd h (by simp)⟩
  · rw [ht]
    refine ⟨fun report' hr => ?_, fun _ h => absurd h (by simp), fun _ => rfl⟩
    cases hr
    exact ⟨hu, hs⟩

theorem checked_findUser (hc : request.Checked) (hst : request.stage = .findingUser) {report : Report}
    (hre : request.report = some report) (error : Option String) : (findUser s request report error).Checked := by
  have hn := hc.finding hst
  have hfailed : ∀ e, ({ request with stage := .failed e } : Request).Checked := fun e =>
    ⟨hc.report, hc.user, fun h => absurd h (by simp)⟩
  unfold findUser
  split
  · exact hfailed _
  · split
    · exact hfailed _
    · rename_i user hu
      refine ⟨hc.report, fun user' h => ?_, fun h => absurd h (by simp)⟩
      cases h
      exact ⟨report, hre, by simpa using List.find?_some hu⟩

theorem checked_finish (hc : request.Checked) (answer : Answer) : (finishRequest request answer).Checked := by
  unfold finishRequest
  split <;> exact ⟨hc.report, hc.user, fun h => absurd h (by simp)⟩

/-! ### What there is stays -/

theorem extends_requests {requests : List Request}
    (hr : ∀ (r : Nat) (request : Request), s.requests[r]? = some request →
      ∃ request', requests[r]? = some request' ∧ request.Keeps request') :
    Extends s { s with requests } :=
  ⟨hr, fun _ job hj => ⟨job, hj, rfl⟩⟩

theorem extends_same (hr : s'.requests = s.requests) (hj : s'.jobs = s.jobs) : Extends s s' :=
  ⟨fun _ request h => ⟨request, hr ▸ h, .refl request⟩, fun _ job h => ⟨job, hj ▸ h, rfl⟩⟩

theorem Extends.trans {t : State} (h : Extends s s') (h' : Extends s' t) : Extends s t := by
  refine ⟨fun r request hr => ?_, fun j job hj => ?_⟩
  · obtain ⟨request', hr', k1, k2, k3, k4⟩ := h.1 r request hr
    obtain ⟨request'', hr'', l1, l2, l3, l4⟩ := h'.1 r request' hr'
    exact ⟨request'', hr'', l1.trans k1, l2.trans k2, l3.trans k3, fun user hu => l4 user (k4 user hu)⟩
  · obtain ⟨job', hj', hd⟩ := h.2 j job hj
    obtain ⟨job'', hj'', hd'⟩ := h'.2 j job' hj'
    exact ⟨job'', hj'', hd'.trans hd⟩

theorem extends_setRequest (hq : s.requests[r]? = some request) {request' : Request} (hk : request.Keeps request') :
    Extends s (s.setRequest r request') := by
  refine extends_requests fun q old hold => ?_
  obtain hset | ⟨rfl, hset⟩ := Calls.getElem?_set_some (b := request') hq hold
  · exact ⟨old, hset, .refl old⟩
  · exact ⟨request', hset, hk⟩

theorem extends_passOn (job : SendReportJob) (answer : Answer) : Extends s (passOn s job answer) := by
  unfold passOn
  split
  · exact ⟨fun _ request h => ⟨request, h, .refl request⟩, fun _ job' h => ⟨job', Calls.snoc_of_some h, rfl⟩⟩
  · exact extends_same rfl rfl

theorem extends_jobs {jobs : List (Job SendReportJob)} (hd : jobs.map (·.data) = s.jobs.map (·.data)) :
    Extends s { s with jobs } := by
  refine ⟨fun _ request h => ⟨request, h, .refl request⟩, fun j job hj => ?_⟩
  have hm : (jobs.map (·.data))[j]? = some job.data := by rw [hd, List.getElem?_map, hj, Option.map_some]
  rw [List.getElem?_map, Option.map_eq_some_iff] at hm
  obtain ⟨job', hj', hdata⟩ := hm
  exact ⟨job', hj', hdata⟩

theorem extends_change {a : Action} (hs : ∀ request ∈ s.requests, request.Checked)
    (hc : Change tza clientUrl s a s') : Extends s s' := by
  cases hc with
  | ask reportId userId error =>
    exact extends_requests fun _ request hr => ⟨request, Calls.snoc_of_some hr, .refl request⟩
  | found r request report error hr hst hre =>
    exact extends_setRequest hr (keeps_findUser (hs _ (List.mem_of_getElem? hr)) hst report error)
  | added r request user answer hr hst hu =>
    exact (extends_passOn _ answer).trans
      (extends_setRequest (by rw [passOn_requests]; exact hr) (keeps_finish answer))
  | forwarded h x job answer _ _ _ => exact (extends_passOn _ answer).trans (extends_same rfl rfl)
  | mailed h x job report d answer _ _ _ =>
    exact extends_same (send_requests _) (send_jobs _)
  | returned h x _ _ => exact (extends_jobs (finish_data s.jobs x.job)).trans (extends_same rfl rfl)
  | thrown h x _ _ => exact (extends_jobs (fail_data s.jobs x.job)).trans (extends_same rfl rfl)
  | _ => exact extends_same rfl rfl

/-! ### What is new is sound -/

theorem stays_later {store store' : Reports.State} {a : Reports.Action} {id : Nat} {report : Report}
    (hb : Busy store) (he : Event store a store') (ht : report.status = .ready) (h : Stays (some report) store id) :
    Stays (some report) store' id := by
  rcases h with h | h
  · exact stays_event hb he h fun row hr => by cases hr; rw [ht]; rfl
  · obtain hn | hn := stays_event hb he h fun row hr => by cases hr
    · exact .inr hn
    · exact .inr hn

theorem Stays.report {store : Reports.State} {id : Nat} {report row : Report} (h : Stays (some report) store id)
    (hr : store.report id = some row) : row = report := by
  rw [Reports.State.report] at hr
  rcases h with h | h <;> rw [h] at hr <;> cases hr
  rfl

theorem mem_set_request {request' y : Request} (hy : y ∈ (s.setRequest r request').requests) :
    y ∈ s.requests ∨ y = request' := List.mem_or_eq_of_mem_set hy

theorem checked_change {a : Action} (hs : Sound clientUrl s) (hc : Change tza clientUrl s a s') :
    ∀ request ∈ s'.requests, request.Checked := by
  cases hc with
  | ask reportId userId error =>
    intro y hy
    rcases List.mem_append.mp hy with hy | hy
    · exact hs.checked y hy
    · rw [List.mem_singleton.mp hy]
      exact checked_trigger reportId userId error
  | found r request report error hr hst hre =>
    intro y hy
    rcases mem_set_request hy with hy | rfl
    · exact hs.checked y hy
    · exact checked_findUser (hs.checked _ (List.mem_of_getElem? hr)) hst hre error
  | added r request user answer hr hst hu =>
    intro y hy
    rcases mem_set_request hy with hy | rfl
    · exact hs.checked y (by rwa [passOn_requests] at hy)
    · exact checked_finish (hs.checked _ (List.mem_of_getElem? hr)) answer
  | forwarded h x job answer _ _ _ => exact fun y hy => hs.checked y (by rwa [State.move, passOn_requests] at hy)
  | mailed h x job report d answer _ _ _ =>
    exact fun y hy => hs.checked y (by rwa [State.move, send_requests] at hy)
  | _ => exact hs.checked

theorem rows_change {a : Action} (hs : Sound clientUrl s) (hc : Change tza clientUrl s a s') :
    ∀ request ∈ s'.requests, ∀ report, request.report = some report →
      Stays (some report) s'.store request.reportId := by
  have hkept : ∀ {q : Nat} {request request' : Request}, s.requests[q]? = some request → request.Keeps request' →
      ∀ report, request'.report = some report → Stays (some report) s.store request'.reportId := by
    intro q request request' hq hk report hre
    rw [hk.1]
    exact hs.rows request (List.mem_of_getElem? hq) report (hk.2.2.1 ▸ hre)
  cases hc with
  | reports a store hstep =>
    exact fun y hy report hre => stays_later hs.store.2 (event_of_step hs.store.1 hstep)
      ((hs.checked y hy).report report hre).2 (hs.rows y hy report hre)
  | ask reportId userId error =>
    intro y hy
    rcases List.mem_append.mp hy with hy | hy
    · exact hs.rows y hy
    · rw [List.mem_singleton.mp hy]
      obtain ⟨e, ht⟩ | ⟨report, ht, hf, -, -⟩ := trigger_cases (s := s) reportId userId error
      · rw [ht]
        exact fun _ h => absurd h (by simp)
      · rw [ht]
        intro report' hre
        cases hre
        exact .inl (Option.join_eq_some_iff.mp hf)
  | found r request report error hr hst hre =>
    intro y hy
    rcases mem_set_request hy with hy | rfl
    · exact hs.rows y hy
    · exact hkept hr (keeps_findUser (hs.checked _ (List.mem_of_getElem? hr)) hst report error)
  | added r request user answer hr hst hu =>
    intro y hy
    simp only [State.setRequest, passOn_store]
    rcases mem_set_request hy with hy | rfl
    · exact hs.rows y (by rwa [passOn_requests] at hy)
    · exact hkept hr (keeps_finish answer)
  | forwarded h x job answer _ _ _ =>
    simp only [State.move, passOn_requests, passOn_store]
    exact hs.rows
  | mailed h x job report d answer _ _ _ =>
    simp only [State.move, send_requests, send_store]
    exact hs.rows
  | _ => exact hs.rows

theorem store_change {a : Action} (hs : Sound clientUrl s) (ho : ∀ b, a = .reports b → Reports.Settled s.store b)
    (hc : Change tza clientUrl s a s') : Wf s'.store ∧ Busy s'.store := by
  cases hc with
  | reports b store hstep => exact busy_step s.store b store hs.store (ho b rfl) hstep
  | added r request user answer _ _ _ => simpa only [State.setRequest, passOn_store] using hs.store
  | forwarded h x job answer _ _ _ => simpa only [State.move, passOn_store] using hs.store
  | mailed h x job report d answer _ _ _ => simpa only [State.move, send_store] using hs.store
  | _ => exact hs.store

theorem mem_passOn {job : SendReportJob} {answer : Answer} {y : Job SendReportJob}
    (hy : y ∈ (passOn s job answer).jobs) : y ∈ s.jobs ∨ y.data = job := by
  unfold passOn at hy
  split at hy
  · rcases List.mem_append.mp hy with hy | hy
    · exact .inl hy
    · rw [List.mem_singleton.mp hy]
      exact .inr rfl
  · exact .inl hy

theorem mem_of_data {jobs : List (Job SendReportJob)} (hd : jobs.map (·.data) = s.jobs.map (·.data))
    {y : Job SendReportJob} (hy : y ∈ jobs) : ∃ job ∈ s.jobs, job.data = y.data := by
  have hm : y.data ∈ s.jobs.map (·.data) := hd ▸ List.mem_map_of_mem hy
  exact List.mem_map.mp hm

theorem jobs_change {a : Action} (hs : Sound clientUrl s) (he : Extends s s') (hc : Change tza clientUrl s a s') :
    ∀ job ∈ s'.jobs, Asked clientUrl s' job.data.request job.data.data := by
  have hold : ∀ job ∈ s.jobs, Asked clientUrl s' job.data.request job.data.data := fun job hj =>
    he.asked (hs.jobs job hj)
  have hdata : ∀ {jobs : List (Job SendReportJob)}, jobs.map (·.data) = s.jobs.map (·.data) →
      ∀ job ∈ jobs, Asked clientUrl s' job.data.request job.data.data := by
    intro jobs hd y hy
    obtain ⟨job, hj, hjd⟩ := mem_of_data hd hy
    exact hjd ▸ hold job hj
  cases hc with
  | added r request user answer hr hst hu =>
    intro y hy
    rcases mem_passOn hy with hy | hy
    · exact hold y hy
    · obtain ⟨report, hre, -⟩ := (hs.checked request (List.mem_of_getElem? hr)).user user hu
      rw [hy]
      exact he.asked ⟨request, report, user, hr, hre, hu, rfl⟩
  | forwarded h x job answer _ hj _ =>
    intro y hy
    rcases mem_passOn hy with hy | hy
    · exact hold y hy
    · rw [hy]
      exact hold job (List.mem_of_getElem? hj)
  | mailed h x job report d answer _ _ _ => exact fun y hy => hold y (by rwa [State.move, send_jobs] at hy)
  | returned h x _ _ => exact hdata (finish_data s.jobs x.job)
  | thrown h x _ _ => exact hdata (fail_data s.jobs x.job)
  | _ => exact hold

theorem mem_move {x y : Handler} {phase : Phase} (hy : y ∈ (s.move h x phase).handlers) :
    y ∈ s.handlers ∨ y = { x with phase } := List.mem_or_eq_of_mem_set hy

theorem sending_of {x : Handler} (hn : ∀ report d, x.phase ≠ .sending report d) : Sending s x :=
  fun report d hp => absurd hp (hn report d)

theorem passedPhase_ne (answer : Answer) (report : Report) (d : Int) : passedPhase answer ≠ .sending report d := by
  unfold passedPhase
  split <;> simp

theorem readPhase_sending {found : Option Report} {report : Report} {d : Int}
    (h : readPhase found = .sending report d) : found = some report ∧ report.dateDelivered = some d := by
  unfold readPhase at h
  split at h
  · cases h
  · split at h
    · cases h
    · split at h
      · cases h
      · rename_i hd
        cases h
        exact ⟨rfl, hd⟩

theorem handlers_change {a : Action} (hs : Sound clientUrl s) (he : Extends s s') (hc : Change tza clientUrl s a s') :
    ∀ x ∈ s'.handlers, Sending s' x := by
  have hold : ∀ x ∈ s.handlers, Sending s' x := fun x hx => he.sending (hs.handlers x hx)
  cases hc with
  | deliver j job _ _ =>
    intro y hy
    rcases List.mem_append.mp hy with hy | hy
    · exact hold y hy
    · rw [List.mem_singleton.mp hy]
      exact sending_of fun report d => by cases job.data.queue <;> simp [startPhase]
  | forwarded h x job answer _ _ _ =>
    intro y hy
    rcases mem_move hy with hy | rfl
    · exact hold y (by rwa [passOn_handlers] at hy)
    · exact sending_of (passedPhase_ne answer)
  | mailed h x job report d answer _ _ _ =>
    intro y hy
    rcases mem_move hy with hy | rfl
    · exact hold y (by rwa [send_handlers] at hy)
    · exact sending_of (passedPhase_ne answer)
  | read h x job error hx hj hp =>
    intro y hy
    rcases mem_move hy with hy | rfl
    · exact hold y hy
    · intro report d hph
      have hr : readPhase (s.store.report job.data.data.reportId) = .sending report d := by
        by_cases herr : error = none
        · simpa only [if_pos herr] using hph
        · rw [if_neg herr] at hph
          cases hph
      obtain ⟨hf, hd⟩ := readPhase_sending hr
      obtain ⟨request, report', user, hq, hre, -, hdata⟩ := hs.jobs job (List.mem_of_getElem? hj)
      have hstays := hs.rows request (List.mem_of_getElem? hq) report' hre
      rw [hdata] at hf
      cases hstays.report hf
      exact ⟨job, request, hj, hq, hre, hd⟩
  | returned h x _ _ | thrown h x _ _ | crash h x _ =>
    intro y hy
    rcases mem_move hy with hy | rfl
    · exact hold y hy
    · exact sending_of fun _ _ hp => Phase.noConfusion hp
  | added r request user answer _ _ _ => exact fun y hy => hold y (by rwa [State.setRequest, passOn_handlers] at hy)
  | _ => exact hold

theorem sent_change {a : Action} (hs : Sound clientUrl s) (he : Extends s s') (hc : Change tza clientUrl s a s') :
    ∀ mail ∈ s'.sent, Mailed clientUrl s' mail := by
  have hold : ∀ mail ∈ s.sent, Mailed clientUrl s' mail := fun mail hm => he.mailed (hs.sent mail hm)
  cases hc with
  | mailed h x job report d answer hx hj hp =>
    intro mail hm
    simp only [State.move, send] at hm
    split at hm
    · rcases List.mem_append.mp hm with hm | hm
      · exact hold mail hm
      · obtain ⟨job', request, hj', hq, hre, hd⟩ := hs.handlers x (List.mem_of_getElem? hx) report d hp
        cases hj.symm.trans hj'
        obtain ⟨request', report', user, hq', hre', hu, hdata⟩ := hs.jobs job (List.mem_of_getElem? hj)
        cases hq.symm.trans hq'
        refine he.mailed ⟨request, report, user, d, job.data.queue, ?_⟩
        rw [List.mem_singleton.mp hm]
        refine ⟨hq, hre, hu, hd, ?_⟩
        rw [← hdata]
        rfl
    · exact hold mail hm
  | added r request user answer _ _ _ => exact fun mail hm => hold mail (by rwa [State.setRequest, passOn_sent] at hm)
  | forwarded h x job answer _ _ _ => exact fun mail hm => hold mail (by rwa [State.move, passOn_sent] at hm)
  | _ => exact hold

/-- The cron resets no report while an execution of it is busy. -/
def Settled (s : State) : Action → Prop
  | .reports a => Reports.Settled s.store a
  | _ => True

instance (s : State) (a : Action) : Decidable (Settled s a) := by
  unfold Settled; split <;> infer_instance

theorem sound_step (s : State) (a : Action) (t : State) (hs : Sound clientUrl s) (ho : Settled s a)
    (hst : step tza clientUrl s a = some t) : Sound clientUrl t := by
  have hc := change_of_step hst
  have he := extends_change hs.checked hc
  exact ⟨store_change hs (fun b hb => by subst hb; exact ho) hc, checked_change hs hc, rows_change hs hc,
    jobs_change hs he hc, handlers_change hs he hc, sent_change hs he hc⟩

theorem sound_init : Sound clientUrl init where
  store := ⟨wf_init, busy_init⟩
  checked _ hr := absurd hr List.not_mem_nil
  rows _ hr := absurd hr List.not_mem_nil
  jobs _ hj := absurd hj List.not_mem_nil
  handlers _ hx := absurd hx List.not_mem_nil
  sent _ hm := absurd hm List.not_mem_nil

end

end IntellApi.ReportMails
