import IntellApi.ReportsSound

/-!
# Pending reports have a job

A pending report is backed by a job that outlives the handlers already bound
to end. Creation enqueues such a job, and a row that stays pending settles no
handler, so a report can only be stranded where it becomes pending without a
backing: a reset by the cron or by a failure handler, a lost enqueue
(`Covered`). Outside these no reachable state strands a report
(`pending_backed`); a crash after the claim does (`crash_strands`).
-/

namespace IntellApi.Reports

open JobQueue Lts

/-! ## Backing -/

/-- An execution past its final write will return; `enqueuing` too. -/
def Phase.fate : Phase → Fate
  | .reading | .claiming _ | .computing _ | .writing _ _ => .free
  | .scheduling _ _ | .enqueuing _ _ | .returning => .returning
  | .throwing => .throwing
  | .gone => .gone

def State.handlers (s : State) : List (Nat × Fate) := s.executions.map fun x => (x.job, x.phase.fate)

/-- A job of the report is still queued when the handlers bound to end have ended. -/
def State.Backed (s : State) (id : Nat) : Prop := ∃ j, s.jobIds[j]? = some id ∧ Outlives s.jobs s.handlers j

instance (s : State) (id : Nat) : Decidable (s.Backed id) :=
  decidable_of_iff (∃ j ∈ List.range s.jobs.length, s.jobIds[j]? = some id ∧ Outlives s.jobs s.handlers j) <| by
    refine ⟨fun ⟨j, _, h⟩ => ⟨j, h⟩, fun ⟨j, h⟩ => ⟨j, List.mem_range.mpr ?_, h⟩⟩
    have := (List.getElem?_eq_some_iff.mp h.1).1
    simpa [State.jobIds] using this

/-- A pending row that nobody is about to enqueue, without a job. -/
def Stranded (s : State) (id : Nat) : Prop :=
  (∃ r, s.report id = some r ∧ r.status = .pending) ∧ ¬ s.Creating id ∧
    ∀ job ∈ s.jobs, job.queued = true → job.data.reportId ≠ id

def Request.isEnqueuing : Request → Bool
  | .enqueuing _ _ => true
  | _ => false

def Phase.isEnqueuing : Phase → Bool
  | .enqueuing _ _ => true
  | _ => false

/-- No `add` fails or is lost in a crash; the cron and the failure handlers set
a report to pending only when a job of it outlives its handlers. -/
def Covered (s : State) : Action → Prop
  | .request r ok => s.requests[r]?.any Request.isEnqueuing = true → ok = true
  | .addRenewed _ ok => ok = true
  | .crash e => s.executions[e]?.any (·.phase.isEnqueuing) = false
  | .computationFails e =>
    ∀ x ∈ s.executions[e]?, x.isLastAttempt = false → (s.report x.reportId).isSome = true →
      (s.move e x .throwing).Backed x.reportId
  | .resetStalledReports =>
    ∀ id ∈ List.range s.reports.length, (s.report id).any (stalled s.clock) = true → s.Backed id
  | _ => True

instance (s : State) (a : Action) : Decidable (Covered s a) := by
  unfold Covered
  split
  case h_4 e => exact Option.decidableForallMem _
  all_goals infer_instance

def Kept (s : State) : Prop :=
  ∀ id r, s.report id = some r → r.status = .pending → s.Creating id ∨ s.Backed id

/-! ## Moves -/

section
variable {s s' : State} {e id : Nat} {x : Execution} {ph : Phase}

theorem handlers_move : (s.move e x ph).handlers = s.handlers.set e (x.job, ph.fate) := by
  simp [State.handlers, State.move, List.map_set]

theorem handlers_at (he : s.executions[e]? = some x) : s.handlers[e]? = some (x.job, x.phase.fate) := by
  simp [State.handlers, he]

theorem backed_release (h : s.Backed id) (he : s.executions[e]? = some x) (hf : ph.fate = .free ∨ ph.fate = .gone) :
    (s.move e x ph).Backed id := by
  obtain ⟨j, hj, ho⟩ := h
  refine ⟨j, hj, ?_⟩
  rw [handlers_move]
  exact ho.release (handlers_at he) hf

theorem backed_other (h : s.Backed id) (hw : Wf s) (he : s.executions[e]? = some x) (hid : x.reportId ≠ id) :
    (s.move e x ph).Backed id := by
  obtain ⟨j, hj, ho⟩ := h
  refine ⟨j, hj, ?_⟩
  rw [handlers_move]
  refine ho.other (handlers_at he) fun e' => hid ?_
  have := hw.linked x (List.mem_of_getElem? he)
  rw [e', hj, Option.some.injEq] at this
  exact this.symm

theorem backed_returning (h : s.Backed id) (he : s.executions[e]? = some x) (hx : x.phase.fate = .returning) :
    (s.move e x ph).Backed id := by
  obtain ⟨j, hj, ho⟩ := h
  refine ⟨j, hj, ?_⟩
  have hh := handlers_at he
  rw [handlers_move]
  exact ho.other hh (ho.ne_of_returning (hx ▸ hh))

theorem creating_more {s s' : State} {id : Nat} (hr : s.requests ⊆ s'.requests) (hx : s.executions ⊆ s'.executions)
    (h : s.Creating id) : s'.Creating id := by
  rcases h with ⟨delay, hm⟩ | ⟨x, hm, delay, hp⟩
  · exact .inl ⟨delay, hr hm⟩
  · exact .inr ⟨x, hx hm, delay, hp⟩

theorem creating_move (h : s.Creating id) (he : s.executions[e]? = some x) (hx : x.phase.isEnqueuing = false) :
    (s.move e x ph).Creating id := by
  rcases h with h | ⟨y, hy, d, hd⟩
  · exact .inl h
  · rcases Calls.mem_set_of_mem he hy with rfl | hm
    · rw [hd] at hx
      cases hx
    · exact .inr ⟨y, hm, d, hd⟩

theorem creating_respond {r : Nat} {request request' : Request} (h : s.Creating id)
    (hr : s.requests[r]? = some request) (hx : request.isEnqueuing = false) :
    (s.respond r request').Creating id := by
  rcases h with ⟨d, hd⟩ | h
  · rcases Calls.mem_set_of_mem hr hd with rfl | hm
    · cases hx
    · exact .inl ⟨d, hm⟩
  · exact .inr h

theorem backed_addJob (hw : Wf s) (id : Nat) (delay : Int) : (s.addJob id delay).Backed id := by
  refine ⟨s.jobs.length, by simp [State.jobIds, State.addJob], outlives_new rfl (Nat.zero_lt_succ 2) fun h hh => ?_⟩
  obtain ⟨x, hx, rfl⟩ := List.mem_map.mp hh
  have := (List.getElem?_eq_some_iff.mp (hw.linked x hx)).1
  simpa [State.jobIds] using this

theorem backed_add (h : s.Backed id) (id' : Nat) (delay : Int) : (s.addJob id' delay).Backed id := by
  obtain ⟨j, hj, ho⟩ := h
  refine ⟨j, ?_, ho.add _⟩
  rw [jobIds_addJob]
  exact Calls.snoc_of_some hj

/-! ## Steps -/

theorem Kept.pass (h : Kept s) {r : Report} (hr : s.report id = some r) (hp : r.status = .pending)
    (hc : s.Creating id → s'.Creating id) (hb : s.Backed id → s'.Backed id) : s'.Creating id ∨ s'.Backed id :=
  (h id r hr hp).imp hc hb

theorem pending_of_update {f : Report → Report} {id' : Nat} {r : Report} (hf : ∀ r, (f r).status ≠ .pending)
    (hr : (s.update id f).report id' = some r) (hp : r.status = .pending) :
    id ≠ id' ∧ s.report id' = some r := by
  rw [report_update] at hr
  split at hr
  · obtain ⟨r', _, rfl⟩ := Option.map_eq_some_iff.mp hr
    exact absurd hp (hf r')
  · rename_i hne; exact ⟨hne, hr⟩

theorem kept_create (h : Kept s) (r : Report) (delay : Int) :
    Kept { s.insert r with requests := s.requests ++ [.enqueuing s.reports.length delay] } := by
  intro id r' hr hp
  have hr : (s.insert r).report id = some r' := hr
  rw [report_insert] at hr
  split at hr
  · rename_i he
    exact .inl (.inl ⟨delay, by simp [he]⟩)
  · exact h.pass hr hp (Or.imp_left fun ⟨d, hd⟩ => ⟨d, List.mem_append_left _ hd⟩) fun hb => hb

theorem kept_add (h : Kept s) (hw : Wf s) {r : Nat} {delay : Int}
    (hr : s.requests[r]? = some (.enqueuing id delay)) : Kept ((s.addJob id delay).respond r .done) := by
  intro id' r' hr' hp
  by_cases he : id' = id
  · exact .inr (he ▸ backed_addJob hw id delay)
  · refine h.pass hr' hp ?_ fun hb => backed_add hb id delay
    intro hx
    rcases hx with ⟨d, hd⟩ | hc
    · rcases Calls.mem_set_of_mem hr hd with hq | hm
      · exact absurd (by cases hq; rfl) he
      · exact .inl ⟨d, hm⟩
    · exact .inr hc

theorem kept_renew (h : Kept s) (he : s.executions[e]? = some x) (hx : x.phase.fate = .returning)
    (hq : x.phase.isEnqueuing = false) (renewed : Report) (delay : Int) :
    Kept ((s.insert renewed).move e x (.enqueuing s.reports.length delay)) := by
  intro id r hr hp
  have hr : (s.insert renewed).report id = some r := hr
  rw [report_insert] at hr
  split at hr
  · rename_i hid
    have hlt := (List.getElem?_eq_some_iff.mp he).1
    exact .inl (.inr ⟨{ x with phase := .enqueuing s.reports.length delay },
      List.mem_of_getElem? (i := e) (by simp [State.move, State.insert, hlt]), delay, by rw [hid]⟩)
  · exact h.pass hr hp (fun hc => creating_move (s := s.insert renewed) hc he hq)
      fun hb => backed_returning (s := s.insert renewed) hb he hx

theorem kept_addRenewed (h : Kept s) (hw : Wf s) {id' : Nat} {delay : Int} (he : s.executions[e]? = some x)
    (hx : x.phase = .enqueuing id' delay) : Kept ((s.addJob id' delay).move e x .returning) := by
  have hw' : Wf (s.addJob id' delay) :=
    hw.addJob (hw.creating id' (.inr ⟨x, List.mem_of_getElem? he, delay, hx⟩)) delay
  have hret : x.phase.fate = .returning := by rw [hx]; rfl
  intro id r hr hp
  by_cases hid : id = id'
  · exact .inr (backed_returning (s := s.addJob id' delay) (hid ▸ backed_addJob hw id' delay) he hret)
  · refine h.pass hr hp ?_ fun hb => backed_returning (s := s.addJob id' delay) (backed_add hb id' delay) he hret
    intro hx
    rcases hx with hc | ⟨y, hy, d, hd⟩
    · exact .inl hc
    · rcases Calls.mem_set_of_mem he hy with rfl | hm
      · rw [hx] at hd
        exact absurd (by cases hd; rfl) hid
      · exact .inr ⟨y, hm, d, hd⟩

theorem kept_reset (h : Kept s) (ho : Covered s .resetStalledReports) : Kept (resetStalled s) := by
  intro id r hr hp
  rw [report_resetStalled] at hr
  obtain ⟨r', hr', rfl⟩ := Option.map_eq_some_iff.mp hr
  by_cases hst : stalled s.clock r' = true
  · have hlt : id < s.reports.length := (List.getElem?_eq_some_iff.mp (Option.join_eq_some_iff.mp hr')).1
    exact .inr (ho id (List.mem_range.mpr hlt) (by simp [hr', hst]))
  · rw [if_neg hst] at hp
    exact h.pass hr' hp (fun hc => hc) fun hb => hb

theorem kept_failure (h : Kept s) (hw : Wf s) (ho : Covered s (.computationFails e))
    (he : s.executions[e]? = some x) (hq : x.phase.isEnqueuing = false) :
    Kept ((s.update x.reportId (setStatus (failureStatus x))).move e x .throwing) := by
  intro id r hr hp
  have hr : (s.update x.reportId (setStatus (failureStatus x))).report id = some r := hr
  rw [report_update] at hr
  split at hr
  · rename_i hid
    obtain ⟨r', hr', rfl⟩ := Option.map_eq_some_iff.mp hr
    have hl : x.isLastAttempt = false := by
      by_contra hl
      simp [setStatus, failureStatus, hl] at hp
    exact .inr (hid ▸ ho x he hl (by simp [hr']))
  · rename_i hid
    exact h.pass hr hp (fun hc => creating_move (s := s.update _ _) hc he hq)
      fun hb => backed_other (s := s.update _ _) hb (hw.update _ _) he hid

theorem kept_event {a : Action} (h : Kept s) (hw : Wf s) (ho : Covered s a) (hs : Event s a s') : Kept s' := by
  -- a move that settles no handler, and one that does, of a row that is not pending
  have free : ∀ {e x ph}, s.executions[e]? = some x → x.phase.isEnqueuing = false →
      (ph.fate = .free ∨ ph.fate = .gone) → Kept (s.move e x ph) := fun he hq hf id r hr hp =>
    h.pass hr hp (creating_move · he hq) (backed_release · he hf)
  have settle : ∀ {e x ph}, s.executions[e]? = some x → x.phase.isEnqueuing = false →
      (∀ r, s.report x.reportId = some r → r.status ≠ .pending) → Kept (s.move e x ph) :=
    fun he hq hn id r hr hp => h.pass hr hp (creating_move · he hq)
      (backed_other · hw he fun e' => hn r (e' ▸ hr) hp)
  cases hs with
  | tick ms => exact h
  | create dto userId seriesId delay r _ => exact kept_create h r delay
  | ask a request _ =>
    intro id r hr hp
    exact h.pass hr hp (creating_more (List.subset_append_left _ _) (List.Subset.refl _)) fun hb => hb
  | add r id delay hr => exact kept_add h hw hr
  | addFails r id delay hr => exact absurd (ho (by simp [hr, Request.isEnqueuing])) (by simp)
  | cancel r ok id row hq _ _ =>
    intro id' r' hr' hp
    have hr' : (s.update id (setStatus .cancelled)).report id' = some r' := hr'
    have := (pending_of_update (by simp [setStatus]) hr' hp).2
    exact h.pass this hp (fun hc => creating_respond (s := s.update _ _) hc hq rfl) fun hb => hb
  | refuse r ok id hq => exact fun id' r' hr' hp => h.pass hr' hp (creating_respond · hq rfl) fun hb => hb
  | delete r ok id hq =>
    intro id' r' hr' hp
    simp only [State.report, State.respond, List.getElem?_set] at hr'
    split at hr'
    · split at hr' <;> cases hr'
    · exact h.pass hr' hp (fun hc => creating_respond (s := { s with reports := s.reports.set id none }) hc hq rfl)
        fun hb => hb
  | deliver j x _ _ hx =>
    intro id r hr hp
    refine h.pass hr hp (creating_more (List.Subset.refl _) (List.subset_append_left _ _)) ?_
    intro hx
    obtain ⟨k, hk, hb⟩ := hx
    refine ⟨k, hk, ?_⟩
    have := hb.deliver x.job
    simpa [State.handlers, hx, Phase.fate] using this
  | reset => exact kept_reset h ho
  | read e x r he hx => exact free he (by rw [hx]; rfl) (.inl rfl)
  | reject e x he hx hn => exact settle he (by rw [hx]; rfl) hn
  | claim e x r row he hx _ _ =>
    intro id r' hr' hp
    have hr' : (s.update x.reportId (setStatus .processing)).report id = some r' := hr'
    have := (pending_of_update (by simp [setStatus]) hr' hp).2
    exact h.pass this hp (fun hc => creating_move (s := s.update _ _) hc he (by rw [hx]; rfl))
      fun hb => backed_release (s := s.update _ _) hb he (.inl rfl)
  | lose e x r he hx hn => exact settle he (by rw [hx]; rfl) hn
  | compute e x r d he hx => exact free he (by rw [hx]; rfl) (.inl rfl)
  | write e x r d ph he hx _ =>
    intro id r' hr' hp
    have hr' : (s.update x.reportId (deliverReport d)).report id = some r' := hr'
    obtain ⟨hid, hr⟩ := pending_of_update (by simp [deliverReport]) hr' hp
    exact h.pass hr hp (fun hc => creating_move (s := s.update _ _) hc he (by rw [hx]; rfl))
      fun hb => backed_other (s := s.update _ _) hb (hw.update _ _) he hid
  | schedule e x r d he hx =>
    exact fun id r' hr hp => h.pass hr hp (creating_move · he (by rw [hx]; rfl))
      (backed_returning · he (by rw [hx]; rfl))
  | renew e x r d delay renewed he hx _ =>
    exact kept_renew h he (by rw [hx]; rfl) (by rw [hx]; rfl) renewed delay
  | finish e x he hx =>
    refine fun id r hr hp => h.pass hr hp
      (fun hc => creating_move (s := { s with jobs := finish s.jobs x.job }) hc he (by rw [hx]; rfl)) ?_
    intro hx
    obtain ⟨j, hj, hb⟩ := hx
    refine ⟨j, ?_, ?_⟩
    · exact (jobIds_of_data (finish_data s.jobs x.job)).symm ▸ hj
    · rw [handlers_move (s := { s with jobs := finish s.jobs x.job })]
      exact hb.returned (by rw [handlers_at he, hx]; rfl)
  | throw e x he hx =>
    refine fun id r hr hp => h.pass hr hp
      (fun hc => creating_move (s := { s with jobs := fail s.jobs x.job }) hc he (by rw [hx]; rfl)) ?_
    intro hx
    obtain ⟨j, hj, hb⟩ := hx
    refine ⟨j, ?_, ?_⟩
    · exact (jobIds_of_data (fail_data s.jobs x.job)).symm ▸ hj
    · rw [handlers_move (s := { s with jobs := fail s.jobs x.job })]
      exact hb.thrown (by rw [handlers_at he, hx]; rfl)
  | failure e x r he hx => exact kept_failure h hw ho he (by rcases hx with hx | ⟨d, hx⟩ <;> rw [hx] <;> rfl)
  | addRenewed e x id delay ok he hx =>
    have hok : ok = true := ho
    subst hok
    exact kept_addRenewed h hw he hx
  | crash e x he =>
    exact free he (by simpa [Covered, he] using ho) (.inr rfl)

/-- A failure handler is covered by its own job when that job is queued as it
was handed over and no other execution of it is left. -/
theorem covered_of_alone (hw : Wf s) (he : s.executions[e]? = some x) {job : Job ComputeReportJobData}
    (hj : s.jobs[x.job]? = some job) (hq : job.queued = true) (hm : job.attemptsMade = x.attemptsMade)
    (ha : job.attempts = x.attempts) (hx : x.phase.fate = .free)
    (hs : ∀ q y, s.executions[q]? = some y → y.job = x.job → q ≠ e → y.phase = .gone) :
    Covered s (.computationFails e) := by
  intro y hy hl _
  obtain rfl : x = y := by rw [he] at hy; exact Option.some.inj hy
  have fate : ∀ f, (x.job, f) ∈ s.handlers → f = .free ∨ f = .gone := by
    intro f hf
    obtain ⟨y, hy, hyf⟩ := List.mem_map.mp hf
    simp only [Prod.mk.injEq] at hyf
    obtain ⟨q, hq⟩ := List.mem_iff_getElem?.mp hy
    by_cases e' : q = e
    · subst e'
      rw [he, Option.some.injEq] at hq
      rw [← hyf.2, ← hq, hx]; exact .inl rfl
    · rw [← hyf.2, hs q y hq hyf.1 e']; exact .inr rfl
  have hlt : e < s.handlers.length := (List.getElem?_eq_some_iff.mp (handlers_at he)).1
  have h0 : s.handlers.count (x.job, Fate.throwing) = 0 := List.count_eq_zero.mpr fun h => by
    rcases fate _ h with h | h <;> cases h
  refine ⟨x.job, hw.linked x (List.mem_of_getElem? he), job, hj, hq, ?_, ?_⟩
  · rw [handlers_move]
    intro h
    rcases List.mem_or_eq_of_mem_set h with h | h
    · rcases fate _ h with h | h <;> cases h
    · cases h
  · rw [handlers_move, List.count_set hlt, h0]
    simp only [Execution.isLastAttempt, decide_eq_false_iff_not] at hl
    simp only [Phase.fate, beq_self_eq_true, if_true]
    omega

theorem kept_init : Kept init := by
  intro id r hr
  simp [State.report, init] at hr

theorem Kept.not_stranded (h : Kept s) (id : Nat) : ¬ Stranded s id := by
  intro hx
  obtain ⟨⟨r, hr, hp⟩, hc, hn⟩ := hx
  rcases h id r hr hp with h | ⟨j, hj, job, hjob, hq, -⟩
  · exact hc h
  · refine hn job (List.mem_of_getElem? hjob) hq ?_
    simpa [State.jobIds, hjob] using hj

/-- As long as no enqueue is lost and every reset to pending is covered by a
job that outlives its handlers, no pending report is without a job. -/
theorem pending_backed {tza : Int} (h : (machine tza).Reach Covered s) (id : Nat) : ¬ Stranded s id := by
  have hi : Wf s ∧ Kept s := h.inv (I := fun s => Wf s ∧ Kept s) ⟨wf_init, kept_init⟩
    fun _ _ _ hi ho hs =>
      have he := event_of_step hi.1 hs
      ⟨wf_event hi.1 he, kept_event hi.2 hi.1 ho he⟩
  exact hi.2.not_stranded id

end

/-! ## Runs -/

/-- A crash after the claim; the redelivered job finds the row `PROCESSING`
until its attempts are used up, and then the cron resets the row. -/
def crashThenReset : List Action :=
  [.generateReport weekly 5 1, .request 0 true, .deliver 0, .execute 0, .execute 0, .crash 0, .deliver 0, .execute 1,
    .execute 1, .deliver 0, .execute 2, .execute 2, .deliver 0, .execute 3, .execute 3, .tick 1860000,
    .resetStalledReports]

theorem crash_strands : ¬ ∀ s id, (machine 0).Reach Free s → ¬ Stranded s id := by
  intro h
  have h0 : ((machine 0).run init crashThenReset).map (fun s => ((s.report 0).map (·.status),
      s.requests.all (!·.isEnqueuing), s.executions.all (!·.phase.isEnqueuing), s.jobs.all (!·.queued))) =
      some (some .pending, true, true, true) := by decide
  obtain ⟨s, hs, h0⟩ := Option.map_eq_some_iff.mp h0
  simp only [Prod.mk.injEq, List.all_eq_true, Bool.not_eq_true'] at h0
  obtain ⟨hr, hq, hx, hj⟩ := h0
  refine h s 0 (Machine.path_of_run hs) ⟨Option.map_eq_some_iff.mp hr, ?_, fun job hm hqueued => ?_⟩
  · intro hx
    rcases hx with ⟨d, hd⟩ | ⟨x, hm, d, hd⟩
    · cases hq _ hd
    · have := hx x hm
      rw [hd] at this; cases this
  · rw [hj job hm] at hqueued; cases hqueued

/-- A failed attempt, then a crash of the next one, and the cron before the job
is handed out again. -/
theorem pending_backed_retry : ∃ s, ((machine 0).only Covered).run init
    [.generateReport weekly 5 1, .request 0 true, .deliver 0, .execute 0, .execute 0, .computationFails 0, .execute 0,
      .deliver 0, .execute 1, .execute 1, .crash 1, .tick 1860000, .resetStalledReports] = some s ∧
    (s.report 0).map (·.status) = some .pending ∧ ¬ Stranded s 0 := by
  have h0 : (((machine 0).only Covered).run init
      [.generateReport weekly 5 1, .request 0 true, .deliver 0, .execute 0, .execute 0, .computationFails 0,
        .execute 0, .deliver 0, .execute 1, .execute 1, .crash 1, .tick 1860000, .resetStalledReports]).map
      (fun s => (s.report 0).map (·.status)) = some (some .pending) := by decide
  obtain ⟨s, hs, hr⟩ := Option.map_eq_some_iff.mp h0
  exact ⟨s, hs, hr, pending_backed (Machine.path_of_run_only hs) 0⟩

end IntellApi.Reports
