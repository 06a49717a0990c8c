import IntellApi.Calls
import IntellApi.ReportMails
import IntellApi.ReportsSound

/-!
# How often a report is mailed

A request brings one mail at most, and one more for each answer that is lost,
for each worker that dies before it can report a mail or a job as passed on, and
for each job handed over twice at a time (`mails_of_request`).
-/

namespace IntellApi.ReportMails

open Lts Reports JobQueue

/-! ## What a step can do -/

section
variable (tza : Int) (clientUrl : String)

inductive Change (s : State) : Action → State → Prop
  | reports (a : Reports.Action) (store : Reports.State) : Reports.step tza s.store a = some store →
      Change s (.reports a) { s with store }
  | setUsers (users : List User) : Change s (.setUsers users) { s with users }
  | ask (reportId : Nat) (userId : Uuid) (error : Option String) :
      Change s (.triggerReportEmail reportId userId error)
        { s with requests := s.requests ++ [trigger s reportId userId error] }
  | found (r : Nat) (request : Request) (report : Report) (error : Option String) :
      s.requests[r]? = some request → request.stage = .findingUser → request.report = some report →
      Change s (.userFound r error) (s.setRequest r (findUser s request report error))
  | added (r : Nat) (request : Request) (user : User) (answer : Answer) :
      s.requests[r]? = some request → request.stage = .adding → request.user = some user →
      Change s (.added r answer)
        ((passOn s ⟨.reportDispatch, jobData clientUrl user request.reportId, r⟩ answer).setRequest r
          (finishRequest request answer))
  | deliver (j : Nat) (job : Job SendReportJob) : s.jobs[j]? = some job → job.queued = true →
      Change s (.deliver j) { s with handlers := s.handlers ++ [⟨j, startPhase job.data.queue⟩] }
  | forwarded (h : Nat) (x : Handler) (job : Job SendReportJob) (answer : Answer) : s.handlers[h]? = some x →
      s.jobs[x.job]? = some job → x.phase = .forwarding →
      Change s (.forwarded h answer)
        ((passOn s { job.data with queue := .email } answer).move h x (passedPhase answer))
  | read (h : Nat) (x : Handler) (job : Job SendReportJob) (error : Option String) : s.handlers[h]? = some x →
      s.jobs[x.job]? = some job → x.phase = .reading →
      Change s (.reportRead h error)
        (s.move h x (if error = none then readPhase (s.store.report job.data.data.reportId) else .throwing))
  | mailed (h : Nat) (x : Handler) (job : Job SendReportJob) (report : Report) (d : Int) (answer : Answer) :
      s.handlers[h]? = some x → s.jobs[x.job]? = some job → x.phase = .sending report d →
      Change s (.mailed h answer) ((send s (reportMail job.data report d) answer).move h x (passedPhase answer))
  | returned (h : Nat) (x : Handler) : s.handlers[h]? = some x → x.phase = .returning →
      Change s (.ended h) ({ s with jobs := finish s.jobs x.job }.move h x .gone)
  | thrown (h : Nat) (x : Handler) : s.handlers[h]? = some x → x.phase = .throwing →
      Change s (.ended h) ({ s with jobs := fail s.jobs x.job }.move h x .gone)
  | crash (h : Nat) (x : Handler) : s.handlers[h]? = some x → Change s (.crash h) (s.move h x .gone)

variable {tza clientUrl} {s s' : State}

theorem handle_some {h : Nat} {a : Action} (hs : s.handle h a = some s') :
    ∃ x job, s.handlers[h]? = some x ∧ s.jobs[x.job]? = some job ∧ handlerStep s h x job.data a = some s' := by
  obtain ⟨x, hx, hs⟩ := Option.bind_eq_some_iff.mp hs
  obtain ⟨job, hj, hs⟩ := Option.bind_eq_some_iff.mp hs
  exact ⟨x, job, hx, hj, hs⟩

theorem change_of_step {a : Action} (h : step tza clientUrl s a = some s') : Change tza clientUrl s a s' := by
  cases a with
  | reports a =>
    obtain ⟨store, hstore, rfl⟩ := Option.map_eq_some_iff.mp h
    exact .reports a store hstore
  | setUsers users => cases h; exact .setUsers users
  | triggerReportEmail reportId userId error => cases h; exact .ask reportId userId error
  | userFound r error =>
    obtain ⟨request, hr, h⟩ := Option.bind_eq_some_iff.mp h
    simp only [requestStep] at h
    split at h
    · rename_i report hst hre
      cases h
      exact .found r request report error hr hst hre
    · cases h
  | added r answer =>
    obtain ⟨request, hr, h⟩ := Option.bind_eq_some_iff.mp h
    simp only [requestStep] at h
    split at h
    · rename_i user hst hu
      cases h
      exact .added r request user answer hr hst hu
    · cases h
  | deliver j =>
    obtain ⟨job, hj, h⟩ := Option.bind_eq_some_iff.mp h
    simp only [Option.ite_none_right_eq_some, Option.some.injEq] at h
    obtain ⟨hq, rfl⟩ := h
    exact .deliver j job hj hq
  | forwarded k answer =>
    obtain ⟨x, job, hx, hj, h⟩ := handle_some h
    simp only [handlerStep, Option.ite_none_right_eq_some, Option.some.injEq] at h
    obtain ⟨hp, rfl⟩ := h
    exact .forwarded k x job answer hx hj hp
  | reportRead k error =>
    obtain ⟨x, job, hx, hj, h⟩ := handle_some h
    simp only [handlerStep, Option.ite_none_right_eq_some, Option.some.injEq] at h
    obtain ⟨hp, rfl⟩ := h
    exact .read k x job error hx hj hp
  | mailed k answer =>
    obtain ⟨x, job, hx, hj, h⟩ := handle_some h
    simp only [handlerStep] at h
    split at h
    · rename_i report d hp
      cases h
      exact .mailed k x job report d answer hx hj hp
    · cases h
  | ended k =>
    obtain ⟨x, job, hx, -, h⟩ := handle_some h
    simp only [handlerStep] at h
    split at h
    · rename_i hp
      cases h
      exact .returned k x hx hp
    · rename_i hp
      cases h
      exact .thrown k x hx hp
    · cases h
  | crash k =>
    obtain ⟨x, job, hx, -, h⟩ := handle_some h
    cases h
    exact .crash k x hx

end

/-! ## A run -/

def owner : User := ⟨5, "ada@example.org", "Ada"⟩

/-- The report of `weekly` is made, and its owner asks for it. -/
def asking : List Action :=
  [.setUsers [owner], .reports (.generateReport weekly 5 1), .reports (.request 0 true), .reports (.deliver 0),
    .reports (.execute 0), .reports (.execute 0), .reports (.execute 0), .reports (.execute 0),
    .triggerReportEmail 0 5 none, .userFound 0 none, .added 0 .done]

/-- The answer of the mail service is lost, and the mail goes out twice. -/
def mailedTwice : List Action :=
  asking ++ [.deliver 0, .forwarded 0 .done, .ended 0, .deliver 1, .reportRead 1 none,
    .mailed 1 (.unanswered "timeout"), .ended 1, .deliver 1, .reportRead 2 none, .mailed 2 .done, .ended 2]

/-! ## How often -/

def Stage.asks : Stage → Bool
  | .findingUser | .adding => true
  | .returned | .failed _ => false

def Phase.fate : Phase → Fate
  | .forwarding | .reading | .sending _ _ => .free
  | .returning => .returning
  | .throwing => .throwing
  | .gone => .gone

namespace State

def fates (s : State) : List (Nat × Fate) := s.handlers.map fun x => (x.job, x.phase.fate)

/-- The job goes back to request `r`. -/
def isOf (s : State) (r j : Nat) : Bool := (s.jobs.map (·.data))[j]?.any (·.request = r)

/-- The request has not left its job in the queue yet; it may not have been made. -/
def asks (s : State) (r : Nat) : Bool :=
  match s.requests[r]? with
  | none => true
  | some request => request.stage.asks

def mails (s : State) (r : Nat) : Nat := s.sent.countP (·.request = r)

def work (s : State) (r : Nat) : Nat := load (s.isOf r) s.jobs s.fates

/-- The mails of a request: those sent, and those that may still be. -/
def due (s : State) (r : Nat) : Nat := (s.asks r).toNat + s.work r + s.mails r

/-- A step after which a request may bring one mail more than before. -/
def faulty (s : State) (r : Nat) : Action → Bool
  -- handed over while a handler has it
  | .deliver j => s.isOf r j && s.handlers.any fun x => x.job = j ∧ x.phase ≠ .gone
  -- passed on, but the handler is told otherwise
  | .forwarded h (.unanswered _) | .mailed h (.unanswered _) => s.handlers[h]?.any fun x => s.isOf r x.job
  -- passed on, but the handler cannot report it
  | .crash h => s.handlers[h]?.any fun x => x.phase = .returning ∧ s.isOf r x.job
  | _ => false

end State

def countFaults (s : State) (a : Action) (_ : State) (faults : Nat → Nat) : Nat → Nat :=
  fun r => faults r + (s.faulty r a).toNat

def Linked (s : State) : Prop := ∀ x ∈ s.handlers, x.job < s.jobs.length

section
variable {s s' : State} {tza : Int} {clientUrl : String} {h r : Nat} {x : Handler} {phase : Phase} {answer : Answer}

theorem fates_of (hx : s.handlers[h]? = some x) : s.fates[h]? = some (x.job, x.phase.fate) := by
  rw [State.fates, List.getElem?_map, hx, Option.map_some]

theorem fates_move : (s.move h x phase).fates = s.fates.set h (x.job, phase.fate) := by
  simp only [State.fates, State.move, List.map_set]

theorem isOf_eq {j : Nat} {job : Job SendReportJob} (hj : s.jobs[j]? = some job) :
    s.isOf r j = decide (job.data.request = r) := by
  simp [State.isOf, hj]

theorem isOf_data {jobs : List (Job SendReportJob)} (hd : jobs.map (·.data) = s.jobs.map (·.data)) :
    ({ s with jobs } : State).isOf r = s.isOf r := by
  funext j
  simp only [State.isOf, hd]

theorem isOf_addJob {job : SendReportJob} {j : Nat} (hj : j < s.jobs.length) :
    (s.addJob job).isOf r j = s.isOf r j := by
  simp only [State.isOf, State.addJob, List.map_append]
  rw [List.getElem?_append_left (by simpa using hj)]

/-! ### Work -/

theorem work_addJob (hl : Linked s) (job : SendReportJob) :
    (s.addJob job).work r ≤ s.work r + (decide (job.request = r)).toNat := by
  have hh : ∀ y ∈ s.fates, y.1 < s.jobs.length := fun y hy => by
    obtain ⟨x, hx, rfl⟩ := List.mem_map.mp hy
    exact hl x hx
  have ha : (s.addJob job).work r ≤ s.work r + ((s.addJob job).isOf r s.jobs.length).toNat :=
    load_added ⟨job, 3, 0, true⟩ (fun i hi => isOf_addJob hi) hh
  have hn : (s.addJob job).jobs[s.jobs.length]? = some ⟨job, 3, 0, true⟩ := by simp [State.addJob]
  rwa [isOf_eq hn] at ha

theorem work_passOn (hl : Linked s) (job : SendReportJob) (answer : Answer) :
    (passOn s job answer).work r ≤ s.work r + (answer.applied && decide (job.request = r)).toNat := by
  unfold passOn
  split
  · rename_i ha
    rw [ha, Bool.true_and]
    exact work_addJob hl job
  · exact Nat.le_add_right _ _

theorem work_move :
    (s.move h x phase).work r = load (s.isOf r) s.jobs (s.fates.set h (x.job, phase.fate)) := by
  rw [State.work, fates_move]
  rfl

theorem work_passed (hx : s.handlers[h]? = some x) (hf : x.phase.fate = .free) :
    (s.move h x .returning).work r + (s.isOf r x.job).toNat = s.work r := by
  have hm : s.fates[h]? = some (x.job, .free) := hf ▸ fates_of hx
  rw [work_move]
  exact load_passed hm

theorem work_kept (hx : s.handlers[h]? = some x) (hf : x.phase.fate = .free)
    (hp : phase.fate = .free ∨ phase.fate = .throwing) : (s.move h x phase).work r = s.work r := by
  have hm : s.fates[h]? = some (x.job, .free) := hf ▸ fates_of hx
  rw [work_move]
  exact load_kept hm hp

/-- What the handlers do at the end, to their own jobs. -/
theorem work_jobs {jobs : List (Job SendReportJob)} (hd : jobs.map (·.data) = s.jobs.map (·.data)) :
    ({ s with jobs }.move h x phase).work r = load (s.isOf r) jobs (s.fates.set h (x.job, phase.fate)) := by
  rw [work_move, isOf_data hd]
  rfl

/-! ### Requests -/

theorem asks_set {request : Request} {q : Nat} (request' : Request) (hq : s.requests[q]? = some request)
    (ha : request'.stage.asks = true → request.stage.asks = true) :
    ((s.setRequest q request').asks r).toNat ≤ (s.asks r).toNat := by
  by_cases hqr : q = r
  · subst hqr
    have hset : (s.requests.set q request')[q]? = some request' := Calls.getElem?_set_own hq
    simp only [State.asks, State.setRequest, hset, hq]
    cases hb : request'.stage.asks
    · exact Nat.zero_le _
    · rw [ha hb]
  · have hset : (s.requests.set q request')[r]? = s.requests[r]? := List.getElem?_set_ne hqr
    simp only [State.asks, State.setRequest, hset]
    exact Nat.le_refl _

theorem asks_append (request : Request) :
    (({ s with requests := s.requests ++ [request] } : State).asks r).toNat ≤ (s.asks r).toNat := by
  cases hr : s.requests[r]? with
  | none =>
    have ht : s.asks r = true := by simp only [State.asks, hr]
    rw [ht]
    exact Bool.toNat_le _
  | some request' =>
    have happ : (s.requests ++ [request])[r]? = some request' := Calls.snoc_of_some hr
    simp only [State.asks, happ, hr]
    exact Nat.le_refl _

/-- A request that has left its job asks no more. -/
theorem asks_finish {request : Request} {q : Nat} (answer : Answer) (hq : s.requests[q]? = some request)
    (hst : request.stage = .adding) :
    ((s.setRequest q (finishRequest request answer)).asks r).toNat + (decide (q = r)).toNat = (s.asks r).toNat := by
  by_cases hqr : q = r
  · subst hqr
    have hset : (s.requests.set q (finishRequest request answer))[q]? = some (finishRequest request answer) :=
      Calls.getElem?_set_own hq
    have hf : (finishRequest request answer).stage.asks = false := by
      unfold finishRequest
      split <;> rfl
    have ha : request.stage.asks = true := by rw [hst]; rfl
    simp only [State.asks, State.setRequest, hset, hq, hf, ha, decide_true]
    rfl
  · have hset : (s.requests.set q (finishRequest request answer))[r]? = s.requests[r]? := List.getElem?_set_ne hqr
    simp [State.asks, State.setRequest, hset, hqr]

/-! ### The step -/

theorem linked_change {a : Action} (hl : Linked s) (hc : Change tza clientUrl s a s') : Linked s' := by
  have hmove : ∀ {t : State} {h : Nat} {x : Handler} {phase : Phase}, Linked t → t.handlers[h]? = some x →
      Linked (t.move h x phase) := fun {t _ x _} ht hx y hy => by
    rcases List.mem_or_eq_of_mem_set hy with hy | rfl
    · exact ht y hy
    · exact ht x (List.mem_of_getElem? hx)
  have hpass : ∀ (job : SendReportJob) (answer : Answer), Linked (passOn s job answer) := fun job answer => by
    unfold passOn
    split
    · exact fun y hy => by simpa [State.addJob] using Nat.lt_succ_of_lt (hl y hy)
    · exact hl
  cases hc with
  | deliver j job hj _ =>
    intro y hy
    rcases List.mem_append.mp hy with hy | hy
    · exact hl y hy
    · rw [List.mem_singleton.mp hy]
      exact (List.getElem?_eq_some_iff.mp hj).1
  | added r request user answer => exact hpass _ answer
  | forwarded h x job answer hx => exact hmove (hpass _ answer) (by unfold passOn; split <;> exact hx)
  | read h x job error hx => exact hmove hl hx
  | mailed h x job report d answer hx =>
    refine hmove ?_ (by unfold send; split <;> exact hx)
    unfold send
    split <;> exact hl
  | returned h x hx _ =>
    refine hmove (fun y hy => ?_) hx
    exact (length_of_data (finish_data s.jobs x.job)).symm ▸ hl y hy
  | thrown h x hx _ =>
    refine hmove (fun y hy => ?_) hx
    exact (length_of_data (fail_data s.jobs x.job)).symm ▸ hl y hy
  | crash h x hx => exact hmove hl hx
  | _ => exact hl

/-- A handler that has passed its work on, or is told that it has not. -/
theorem work_answered (hx : s.handlers[h]? = some x) (hf : x.phase.fate = .free) (answer : Answer) :
    (s.move h x (passedPhase answer)).work r + (decide (answer = .done) && s.isOf r x.job).toNat = s.work r := by
  cases answer with
  | done =>
    simp only [decide_true, Bool.true_and]
    exact work_passed hx hf
  | failed message => simpa [passedPhase, Answer.error] using work_kept hx hf (.inr rfl)
  | unanswered message => simpa [passedPhase, Answer.error] using work_kept hx hf (.inr rfl)

theorem send_work (mail : Mail) : (send s mail answer).work r = s.work r := by
  unfold send
  split <;> rfl

theorem send_mails (mail : Mail) :
    (send s mail answer).mails r = s.mails r + (answer.applied && decide (mail.request = r)).toNat := by
  unfold send
  split
  · rename_i ha
    simp only [State.mails, List.countP_append, List.countP_singleton, ha, Bool.true_and]
    cases decide (mail.request = r) <;> rfl
  · rename_i ha
    rw [Bool.not_eq_true] at ha
    rw [ha]
    rfl

/-- Passed on, and not known to be. -/
theorem applied_le (answer : Answer) (b : Bool) : (answer.applied && b).toNat ≤
    (decide (answer = .done) && b).toNat + (answer.applied && (answer.error.isSome && b)).toNat := by
  cases answer <;> cases b <;> simp [Answer.applied, Answer.error]

theorem faulty_forwarded (hx : s.handlers[h]? = some x) :
    s.faulty r (.forwarded h answer) = (answer.applied && (answer.error.isSome && s.isOf r x.job)) := by
  cases answer <;> simp [State.faulty, hx, Answer.applied, Answer.error]

theorem faulty_mailed (hx : s.handlers[h]? = some x) :
    s.faulty r (.mailed h answer) = (answer.applied && (answer.error.isSome && s.isOf r x.job)) := by
  cases answer <;> simp [State.faulty, hx, Answer.applied, Answer.error]

theorem fate_readPhase (found : Option Report) :
    (readPhase found).fate = .free ∨ (readPhase found).fate = .throwing := by
  unfold readPhase
  split
  · exact .inr rfl
  · split
    · exact .inr rfl
    · split
      · exact .inr rfl
      · exact .inl rfl

theorem due_forwarded {job : Job SendReportJob} {job' : SendReportJob} (hl : Linked s) (hx : s.handlers[h]? = some x)
    (hj : s.jobs[x.job]? = some job) (hp : x.phase = .forwarding) (hr : job'.request = job.data.request) :
    ((passOn s job' answer).move h x (passedPhase answer)).work r ≤
      s.work r + (s.faulty r (.forwarded h answer)).toNat := by
  have hf : x.phase.fate = .free := by rw [hp]; rfl
  have hx' : (passOn s job' answer).handlers[h]? = some x := by
    unfold passOn
    split <;> exact hx
  have hi : (passOn s job' answer).isOf r x.job = s.isOf r x.job := by
    unfold passOn
    split
    · exact isOf_addJob (List.getElem?_eq_some_iff.mp hj).1
    · rfl
  have hw := work_passOn (r := r) hl job' answer
  have hm := work_answered (r := r) hx' hf answer
  have ha := applied_le answer (s.isOf r x.job)
  rw [hi] at hm
  rw [hr, ← isOf_eq hj] at hw
  rw [faulty_forwarded hx]
  omega

theorem due_mailed {job : Job SendReportJob} (mail : Mail) (answer : Answer) (hx : s.handlers[h]? = some x)
    (hj : s.jobs[x.job]? = some job) (hf : x.phase.fate = .free) (hr : mail.request = job.data.request) :
    ((send s mail answer).move h x (passedPhase answer)).work r +
        ((send s mail answer).move h x (passedPhase answer)).mails r ≤
      s.work r + s.mails r + (s.faulty r (.mailed h answer)).toNat := by
  have hx' : (send s mail answer).handlers[h]? = some x := by
    unfold send
    split <;> exact hx
  have hi : (send s mail answer).isOf r x.job = s.isOf r x.job := by
    unfold send
    split <;> rfl
  have hm := work_answered (r := r) hx' hf answer
  have ha := applied_le answer (s.isOf r x.job)
  have hs : ((send s mail answer).move h x (passedPhase answer)).mails r = (send s mail answer).mails r := rfl
  rw [hi, send_work] at hm
  rw [hs, send_mails, hr, ← isOf_eq hj, faulty_mailed hx]
  omega

@[simp] theorem passOn_requests (job : SendReportJob) : (passOn s job answer).requests = s.requests := by
  unfold passOn
  split <;> rfl

@[simp] theorem passOn_sent (job : SendReportJob) : (passOn s job answer).sent = s.sent := by
  unfold passOn
  split <;> rfl

@[simp] theorem passOn_store (job : SendReportJob) : (passOn s job answer).store = s.store := by
  unfold passOn
  split <;> rfl

@[simp] theorem send_requests (mail : Mail) : (send s mail answer).requests = s.requests := by
  unfold send
  split <;> rfl

@[simp] theorem send_store (mail : Mail) : (send s mail answer).store = s.store := by
  unfold send
  split <;> rfl

@[simp] theorem send_jobs (mail : Mail) : (send s mail answer).jobs = s.jobs := by
  unfold send
  split <;> rfl

@[simp] theorem passOn_handlers (job : SendReportJob) : (passOn s job answer).handlers = s.handlers := by
  unfold passOn
  split <;> rfl

@[simp] theorem send_handlers (mail : Mail) : (send s mail answer).handlers = s.handlers := by
  unfold send
  split <;> rfl

theorem waits_fates {j : Nat} {job : Job SendReportJob} (hj : s.jobs[j]? = some job) (hq : job.queued = true) :
    (!waits s.jobs s.fates j) = s.handlers.any fun x => x.job = j ∧ x.phase ≠ .gone := by
  have hx : ∀ x : Handler, (!(x.job != j || x.phase.fate == .gone)) = decide (x.job = j ∧ x.phase ≠ .gone) := by
    intro x
    by_cases hj : x.job = j <;> cases hp : x.phase <;> simp [hj, Phase.fate]
  simp only [waits, hj, Option.any_some, hq, Bool.true_and, State.fates, List.all_map, List.not_all_eq_any_not]
  exact congrArg (List.any s.handlers) (funext hx)

theorem asks_congr {t : State} (h : s'.requests = t.requests) : s'.asks r = t.asks r := by
  simp only [State.asks, h]

theorem due_of_asks {n : Nat} (hm : s'.sent = s.sent) (ha : (s'.asks r).toNat + n = (s.asks r).toNat)
    (hw : s'.work r ≤ s.work r + n) : s'.due r ≤ s.due r := by
  have hms : s'.mails r = s.mails r := by simp only [State.mails, hm]
  simp only [State.due, hms]
  omega

theorem due_of_work {n : Nat} (ha : s'.requests = s.requests) (hm : s'.sent = s.sent)
    (hw : s'.work r ≤ s.work r + n) : s'.due r ≤ s.due r + n := by
  have has : s'.asks r = s.asks r := asks_congr ha
  have hms : s'.mails r = s.mails r := by simp only [State.mails, hm]
  simp only [State.due, has, hms]
  omega

theorem due_change {a : Action} (hl : Linked s) (hc : Change tza clientUrl s a s') :
    s'.due r ≤ s.due r + (s.faulty r a).toNat := by
  cases hc with
  | reports a store _ => exact Nat.le_add_right _ _
  | setUsers users => exact Nat.le_add_right _ _
  | ask reportId userId error =>
    have ha := asks_append (s := s) (r := r) (trigger s reportId userId error)
    exact Nat.le_add_right_of_le (Nat.add_le_add_right (Nat.add_le_add_right ha _) _)
  | found q request report error hq hst _ =>
    have ha := asks_set (r := r) (findUser s request report error) hq fun _ => by rw [hst]; rfl
    exact Nat.le_add_right_of_le (Nat.add_le_add_right (Nat.add_le_add_right ha _) _)
  | added q request user answer hq hst _ =>
    have ha := asks_finish (r := r) answer hq hst
    have hw := work_passOn (r := r) hl ⟨.reportDispatch, jobData clientUrl user request.reportId, q⟩ answer
    have hb := toNat_and_le (decide (q = r)) answer.applied
    rw [Bool.and_comm] at hb
    refine Nat.le_add_right_of_le (due_of_asks (passOn_sent _) ?_ (Nat.le_trans hw (Nat.add_le_add_left hb _)))
    rw [← ha]
    exact congrArg (fun b => Bool.toNat b + _) (asks_congr (by simp only [State.setRequest, passOn_requests]))
  | deliver j job hj hq =>
    refine due_of_work rfl rfl ?_
    have hf : State.fates { s with handlers := s.handlers ++ [⟨j, startPhase job.data.queue⟩] } =
        s.fates ++ [(j, .free)] := by
      rw [State.fates, List.map_append]
      cases job.data.queue <;> rfl
    have hw : State.work { s with handlers := s.handlers ++ [⟨j, startPhase job.data.queue⟩] } r =
        load (s.isOf r) s.jobs (s.fates ++ [(j, .free)]) := by
      rw [State.work, hf]
      rfl
    rw [hw, State.faulty, ← waits_fates hj hq]
    exact load_delivered s.fates
  | forwarded h x job answer hx hj hp =>
    exact due_of_work (passOn_requests _) (passOn_sent _) (due_forwarded hl hx hj hp rfl)
  | read h x job error hx hj hp =>
    refine due_of_work rfl rfl ?_
    rw [work_kept hx (by rw [hp]; rfl)]
    · exact Nat.le_add_right _ _
    · split
      · exact fate_readPhase _
      · exact .inr rfl
  | mailed h x job report d answer hx hj hp =>
    have hd := due_mailed (r := r) (reportMail job.data report d) answer hx hj (by rw [hp]; rfl) rfl
    have ha : ((send s (reportMail job.data report d) answer).move h x (passedPhase answer)).asks r = s.asks r :=
      asks_congr (send_requests _)
    rw [State.due, State.due, ha]
    omega
  | returned h x hx hp =>
    refine due_of_work rfl rfl (Nat.le_add_right_of_le ?_)
    have hm : s.fates[h]? = some (x.job, .returning) := by rw [fates_of hx, hp]; rfl
    rw [work_jobs (finish_data s.jobs x.job)]
    exact Nat.le_of_eq (load_returned hm)
  | thrown h x hx hp =>
    refine due_of_work rfl rfl (Nat.le_add_right_of_le ?_)
    have hm : s.fates[h]? = some (x.job, .throwing) := by rw [fates_of hx, hp]; rfl
    rw [work_jobs (fail_data s.jobs x.job)]
    exact load_thrown hm
  | crash h x hx =>
    refine due_of_work rfl rfl ?_
    rw [work_move]
    refine Nat.le_trans (load_crashed (fates_of hx)) (Nat.le_of_eq ?_)
    cases hp : x.phase <;> cases ho : s.isOf r x.job <;> simp [State.faulty, hx, hp, ho, Phase.fate, State.work]

/-- A request brings one mail at most, and one more for each fault on the way. -/
theorem mails_of_request {s : State × (Nat → Nat)}
    (hr : ((machine tza clientUrl).noting (fun _ => 0) countFaults).Reach Free s) (r : Nat) :
    s.1.mails r ≤ 1 + s.2 r := by
  have hi : Linked s.1 ∧ s.1.due r ≤ 1 + s.2 r :=
    hr.inv (I := fun s => Linked s.1 ∧ s.1.due r ≤ 1 + s.2 r) ⟨fun x hx => absurd hx (List.not_mem_nil), Nat.le_refl 1⟩
      fun s a t hi _ hs => by
        obtain ⟨hst, hn⟩ := Machine.step_noting hs
        have hc := change_of_step hst
        have hd := due_change (r := r) hi.1 hc
        refine ⟨linked_change hi.1 hc, ?_⟩
        have hf : t.2 r = s.2 r + (s.1.faulty r a).toNat := by rw [hn]; rfl
        omega
  exact Nat.le_trans (Nat.le_add_left _ _) hi.2

end

theorem mails_of_request_mailedTwice : ∃ s, ((machine 0 "https://intell").noting (fun _ => 0) countFaults).run
    (init, fun _ => 0) mailedTwice = some s ∧ s.1.mails 0 = 2 ∧ s.2 0 = 1 ∧ s.1.mails 0 ≤ 1 + s.2 0 := by
  have h0 : (((machine 0 "https://intell").noting (fun _ => 0) countFaults).run (init, fun _ => 0) mailedTwice).map
      (fun s => (s.1.mails 0, s.2 0)) = some (2, 1) := by decide +kernel
  obtain ⟨s, hs, hm⟩ := Option.map_eq_some_iff.mp h0
  simp only [Prod.mk.injEq] at hm
  exact ⟨s, hs, hm.1, hm.2, mails_of_request (Machine.path_of_run hs) 0⟩

end IntellApi.ReportMails
