import IntellApi.AlertDispatch
import IntellApi.Calls

/-!
# One delivery at most

The handler never looks at the delivery status it finds. An execution that
starts after another one has sent the alert, because the write that follows the
send failed or the worker crashed, sends it again (`resent_after_failed_save`),
and so does one that overlaps with another. If executions do not overlap and one
that has sent the alert saves it and returns, the queue does not hand the job
out again: one send succeeds at most, and a delivered alert is left alone
(`delivered_once`).
-/

namespace IntellApi.AlertDispatch

open Lts

/-! ## Sends and disturbances -/

def State.sent (s : State) : Nat := s.attempts.countP (·.2)

def State.delivered (s : State) : Prop := s.alert.map (·.deliveryStatus) = some .delivered

/-- A send of the execution has succeeded, and its return has not reached the queue. -/
def Phase.succeeded : Phase → Bool
  | .recording _ result => result.status = .delivered
  | .returning => true
  | _ => false

/-- The job is handed out when the earlier executions have ended, and one that
has sent the alert is answered and does not crash before it has returned. -/
def Undisturbed (s : State) : Action → Prop
  | .deliver _ => ∀ x ∈ s.executions, x.phase = .gone
  | .execute e answer => ∀ x ∈ s.executions[e]?, x.phase.succeeded = true → answer = .done
  | .crash e => ∀ x ∈ s.executions[e]?, x.phase.succeeded = false
  | _ => True

instance (s : State) (a : Action) : Decidable (Undisturbed s a) := by
  unfold Undisturbed
  split <;> infer_instance

/-! ## The invariant -/

/-- The execution may still send or write. -/
def Phase.active : Phase → Bool
  | .returning | .throwing _ | .gone => false
  | _ => true

def Phase.alert : Phase → Option Alert
  | .loading alert | .starting alert _ | .sending alert _ _ _ _ _ | .recording alert _ => some alert
  | _ => none

/-- The execution has not sent the alert. -/
def Phase.unsent : Phase → Bool
  | .recording _ result => result.status ≠ .delivered
  | ph => ph.active

/-- What an execution in this phase may assume. -/
structure Sound (s : State) (ph : Phase) : Prop where
  unsent : ph.unsent = true → s.sent = 0
  active : ph.active = true → ¬ s.delivered
  alert : ∀ alert, ph.alert = some alert → alert.deliveryStatus ≠ .delivered
  sent : ph.active = true → ph.unsent = false → s.sent = 1

/-- The queue hands nothing out any more. -/
def State.closed (s : State) : Prop := ∀ job ∈ s.jobs, job.queued = false

structure Inv (s : State) : Prop where
  sole : ∀ (e e' : Nat) (x x' : Execution), s.executions[e]? = some x → s.executions[e']? = some x' →
    x.phase ≠ .gone → x'.phase ≠ .gone → e = e'
  sound : ∀ x ∈ s.executions, Sound s x.phase
  sent : s.sent ≤ 1
  delivered : s.delivered → s.sent = 1
  jobs : s.jobs.length = 1
  job : ∀ x ∈ s.executions, x.job < s.jobs.length
  closed : s.sent = 1 → (∃ x ∈ s.executions, x.phase.succeeded = true) ∨ s.closed

section
variable {data : JobData} {s s' : State} {a : Action} {e : Nat} {x : Execution}

theorem sound_inactive {ph : Phase} (h : ph.active = false) (s : State) : Sound s ph := by
  cases ph with
  | returning => exact ⟨nofun, nofun, nofun, nofun⟩
  | throwing error => exact ⟨nofun, nofun, nofun, nofun⟩
  | gone => exact ⟨nofun, nofun, nofun, nofun⟩
  | _ => cases h

theorem Inv.others (h : Inv s) (he : s.executions[e]? = some x) (hx : x.phase ≠ .gone) {e' : Nat} {x' : Execution}
    (he' : s.executions[e']? = some x') (hne : e' ≠ e) : x'.phase = .gone := by
  by_contra hn
  exact hne (h.sole e' e x' x he' he hn hx)

/-- Soundness is about the row and the sends. -/
theorem Sound.same {t : State} {ph : Phase} (h : Sound s ph) (ha : t.alert = s.alert) (hs : t.sent = s.sent) :
    Sound t ph where
  unsent hu := hs.trans (h.unsent hu)
  active hx hd := h.active hx (by rwa [State.delivered, ha] at hd)
  alert := h.alert
  sent hx hu := hs.trans (h.sent hx hu)

/-- Once the alert is sent, an execution at work has sent it or the queue is done with the job. -/
theorem Inv.idle (h : Inv s) (he : s.executions[e]? = some x) (hx : x.phase ≠ .gone)
    (hn : x.phase.succeeded = false) (h1 : s.sent = 1) : s.closed := by
  rcases h.closed h1 with ⟨y, hy, hys⟩ | hc
  · obtain ⟨q, hq⟩ := List.mem_iff_getElem?.mp hy
    have hyg : y.phase ≠ .gone := fun hg => by
      rw [hg] at hys
      cases hys
    obtain rfl := h.sole q e y x hq he hyg hx
    cases Option.some.inj (hq.symm.trans he)
    rw [hn] at hys
    cases hys
  · exact hc

/-- A step of an execution keeps the invariant if what it leads to is sound. -/
theorem Inv.move (h : Inv s) {t : State} (ht : t.executions = s.executions) (he : s.executions[e]? = some x)
    (hx : x.phase ≠ .gone) {ph : Phase} (hp : Sound t ph) (hsent : t.sent ≤ 1) (hd : t.delivered → t.sent = 1)
    (hj : t.jobs.length = 1) (hc : t.sent = 1 → ph.succeeded = true ∨ t.closed) : Inv (t.move e x ph) := by
  refine ⟨fun q q' y y' hq hq' hy hy' => ?_, fun y hy => ?_, hsent, hd, hj, fun y hy => ?_, fun h1 => ?_⟩
  · have hself : ∀ {q y}, (t.move e x ph).executions[q]? = some y → y.phase ≠ .gone → q = e := by
      intro q y hq hy
      rcases Calls.set_cases hq with ⟨hqe, -⟩ | ⟨hqe, hq⟩
      · exact hqe
      · exact absurd (h.others he hx (ht ▸ hq) hqe) hy
    rw [hself hq hy, hself hq' hy']
  · obtain ⟨q, hq⟩ := List.mem_iff_getElem?.mp hy
    rcases Calls.set_cases hq with ⟨-, rfl⟩ | ⟨hqe, hq⟩
    · exact hp.same rfl rfl
    · rw [h.others he hx (ht ▸ hq) hqe]
      exact sound_inactive rfl _
  · have hlt : (t.move e x ph).jobs.length = s.jobs.length := hj.trans h.jobs.symm
    rw [hlt]
    rcases List.mem_or_eq_of_mem_set hy with hy | rfl
    · exact h.job y (ht ▸ hy)
    · exact h.job x (List.mem_of_getElem? he)
  · have hlt : e < t.executions.length := (List.getElem?_eq_some_iff.mp (ht.symm ▸ he)).1
    exact (hc h1).imp_left fun hs => ⟨_, List.mem_set hlt _, hs⟩

theorem sound_unsent {ph : Phase} (hu : ph.unsent = true) (hs : s.sent = 0) (hd : ¬ s.delivered)
    (ha : ∀ alert, ph.alert = some alert → alert.deliveryStatus ≠ .delivered) : Sound s ph where
  unsent _ := hs
  active _ := hd
  alert := ha
  sent _ hn := by
    rw [hu] at hn
    cases hn

theorem fallback_unsent (alert : Alert) (settings : ChannelSettings) (audit : List String) (lastError : Option String)
    (channels : List Channel) :
    (sendingPhase alert settings (deliverWithFallback settings audit lastError channels)).unsent = true ∧
      (sendingPhase alert settings (deliverWithFallback settings audit lastError channels)).alert = some alert := by
  induction channels generalizing audit with
  | nil =>
    unfold deliverWithFallback
    refine ⟨?_, rfl⟩
    simp only [sendingPhase, Phase.unsent, decide_eq_true_eq]
    split <;> simp
  | cons channel channels ih =>
    unfold deliverWithFallback
    by_cases h : settings.disabled channel = true
    · simp only [h, if_true]
      exact ih _
    · simp [h, sendingPhase, Phase.unsent, Phase.active, Phase.alert]

theorem Inv.throw (h : Inv s) (he : s.executions[e]? = some x) (hx : x.phase ≠ .gone)
    (hn : x.phase.succeeded = false) {ph : Phase} (hp : ph.active = false) : Inv (s.move e x ph) :=
  h.move rfl he hx (sound_inactive hp s) h.sent h.delivered h.jobs fun h1 => .inr (h.idle he hx hn h1)

/-- An execution that has not sent the alert goes on. -/
theorem Inv.pass (h : Inv s) (he : s.executions[e]? = some x) (hx : x.phase ≠ .gone)
    (hn : x.phase.succeeded = false) {ph : Phase} (hp : Sound s ph) : Inv (s.move e x ph) :=
  h.move rfl he hx hp h.sent h.delivered h.jobs fun h1 => .inr (h.idle he hx hn h1)

/-- A save writes a row that is not delivered, or one that has been sent. -/
theorem Inv.save (h : Inv s) (he : s.executions[e]? = some x) (hx : x.phase ≠ .gone) {alert : Alert} {ph : Phase}
    (hrow : alert.deliveryStatus = .delivered → s.sent = 1)
    (hp : Sound { s with alert := some alert } ph) (hs : x.phase.succeeded = true → ph.succeeded = true)
    {answer : Answer} (ha : x.phase.succeeded = true → answer = .done) : Inv (s.save e x alert ph answer) := by
  have hd : State.delivered { s with alert := some alert } → s.sent = 1 := fun hd => hrow (Option.some.inj hd)
  have hidle : ∀ next : Phase, (x.phase.succeeded = true → next.succeeded = true) → s.sent = 1 →
      next.succeeded = true ∨ s.closed := fun next hnext h1 => by
    cases hn : x.phase.succeeded with
    | true => exact .inl (hnext hn)
    | false => exact .inr (h.idle he hx hn h1)
  have hfails : answer ≠ .done → x.phase.succeeded = false := fun hne => by
    cases hn : x.phase.succeeded with
    | true => exact absurd (ha hn) hne
    | false => rfl
  cases answer with
  | done => exact h.move (t := { s with alert := some alert }) rfl he hx hp h.sent hd h.jobs (hidle ph hs)
  | failed message => exact h.throw he hx (hfails nofun) rfl
  | unanswered message =>
    refine h.move (t := { s with alert := some alert }) rfl he hx (sound_inactive rfl _) h.sent hd h.jobs ?_
    exact hidle _ fun hn => by rw [hfails nofun] at hn; cases hn

theorem executionStep_inv (h : Inv s) (he : s.executions[e]? = some x) {answer : Answer}
    (ho : x.phase.succeeded = true → answer = .done)
    (hs : executionStep s e x answer x.phase = some s') : Inv s' := by
  have hsound := h.sound x (List.mem_of_getElem? he)
  cases hp : x.phase with
  | findingDeferred =>
    have hx : x.phase ≠ .gone := by simp [hp]
    have hn : x.phase.succeeded = false := by rw [hp]; rfl
    rw [hp] at hs hsound
    have hnext : Sound s .finding := ⟨hsound.unsent, hsound.active, nofun, nofun⟩
    simp only [executionStep] at hs
    split at hs <;> cases hs
    · exact h.throw he hx hn rfl
    · exact h.throw he hx hn rfl
    · exact h.pass he hx hn hnext
  | finding =>
    have hx : x.phase ≠ .gone := by simp [hp]
    have hn : x.phase.succeeded = false := by rw [hp]; rfl
    rw [hp] at hs hsound
    simp only [executionStep] at hs
    split at hs <;> cases hs
    · exact h.throw he hx hn rfl
    · exact h.throw he hx hn rfl
    · rename_i alert _ halert
      refine h.pass he hx hn (sound_unsent rfl (hsound.unsent rfl) (hsound.active rfl) fun row hrow hdel => ?_)
      cases hrow
      exact hsound.active rfl (by rw [State.delivered, halert, Option.map_some, hdel])
  | loading alert =>
    have hx : x.phase ≠ .gone := by simp [hp]
    have hn : x.phase.succeeded = false := by rw [hp]; rfl
    rw [hp] at hs hsound
    simp only [executionStep] at hs
    split at hs <;> cases hs
    · exact h.throw he hx hn rfl
    · exact h.throw he hx hn rfl
    · refine h.pass he hx hn (sound_unsent rfl (hsound.unsent rfl) (hsound.active rfl) fun row hrow => ?_)
      cases hrow
      exact hsound.alert alert rfl
  | starting alert settings =>
    have hx : x.phase ≠ .gone := by simp [hp]
    have hn : x.phase.succeeded = false := by rw [hp]; rfl
    rw [hp] at hs hsound
    have hrow := hsound.alert alert rfl
    obtain ⟨hu, ha⟩ := fallback_unsent alert settings [] none [.whatsapp, .email]
    cases hs
    refine h.save he hx (fun hd => absurd hd hrow) (sound_unsent hu (hsound.unsent rfl) ?_ ?_)
      (fun hs => by rw [hn] at hs; cases hs) ho
    · exact fun hd => hrow (Option.some.inj hd)
    · rw [ha]
      intro row hr
      cases hr
      exact hrow
  | sending alert settings channel channels audit lastError =>
    have hx : x.phase ≠ .gone := by simp [hp]
    rw [hp] at hs hsound
    have h0 : s.sent = 0 := hsound.unsent rfl
    have hrow := hsound.alert alert rfl
    simp only [executionStep, Option.some.injEq] at hs
    subst hs
    have hcount : ∀ ok, State.sent { s with attempts := s.attempts ++ [(channel, ok)] } = if ok then 1 else 0 := by
      intro ok
      have h0' : s.attempts.countP (·.2) = 0 := h0
      cases ok <;> simp [State.sent, h0']
    cases hans : answer.error with
    | none =>
      refine h.move (t := { s with attempts := s.attempts ++ [(channel, true)] }) rfl he hx ?_
        (Nat.le_of_eq (hcount true)) (fun _ => hcount true) h.jobs fun _ => .inl rfl
      refine ⟨nofun, hsound.active, fun row hr => ?_, fun _ _ => hcount true⟩
      cases hr
      exact hrow
    | some message =>
      obtain ⟨hu, ha⟩ := fallback_unsent alert settings (audit ++ [channel.name ++ ": failed - " ++ message])
        (some message) channels
      refine h.move (t := { s with attempts := s.attempts ++ [(channel, false)] }) rfl he hx
        (sound_unsent hu (hcount false) (hsound.active rfl) ?_) ?_ (fun hd => absurd hd (hsound.active rfl)) h.jobs
        fun h1 => ?_
      · rw [afterSend, ha]
        intro row hr
        cases hr
        exact hrow
      · rw [hcount false]
        exact Nat.zero_le 1
      · rw [hcount false] at h1
        cases h1
  | recording alert result =>
    have hx : x.phase ≠ .gone := by simp [hp]
    rw [hp] at hs hsound
    cases hs
    by_cases hres : result.status = .delivered
    · have h1 : s.sent = 1 := hsound.sent rfl (by simp [Phase.unsent, hres])
      simp only [recordDelivery, hres, if_true]
      exact h.save he hx (fun _ => h1) (sound_inactive rfl _) (fun _ => rfl) ho
    · simp only [recordDelivery, hres, if_false]
      refine h.save he hx (fun hd => by cases hd) (sound_inactive rfl _) (fun hs => ?_) ho
      rw [hp, Phase.succeeded, decide_eq_true_eq] at hs
      exact absurd hs hres
  | returning =>
    have hj := h.job x (List.mem_of_getElem? he)
    have hone := h.jobs
    have hx : x.phase ≠ .gone := by simp [hp]
    rw [hp] at hs
    cases hs
    exact h.move (t := { s with jobs := JobQueue.finish s.jobs x.job }) rfl he hx (sound_inactive rfl _) h.sent
      h.delivered (by rw [JobQueue.length_finish, hone]) fun _ => .inr (JobQueue.finish_sole (by omega) hone)
  | throwing error =>
    have hn : x.phase.succeeded = false := by rw [hp]; rfl
    have hx : x.phase ≠ .gone := by simp [hp]
    rw [hp] at hs
    cases hs
    exact h.move (t := { s with jobs := JobQueue.fail s.jobs x.job }) rfl he hx (sound_inactive rfl _) h.sent
      h.delivered (by rw [JobQueue.length_fail, h.jobs]) fun h1 => .inr (JobQueue.fail_closed (h.idle he hx hn h1) x.job)
  | gone =>
    rw [hp] at hs
    cases hs

theorem process_sound (hs : s.sent = 0) (hd : ¬ s.delivered) (name : JobName) : Sound s (process name) := by
  cases name with
  | dispatch => exact sound_unsent rfl hs hd nofun
  | deferredDelivery => exact sound_unsent rfl hs hd nofun

theorem Inv.deliver (h : Inv s) (hgone : ∀ x ∈ s.executions, x.phase = .gone) (hx : Sound s x.phase)
    (hj : x.job < s.jobs.length) (h0 : s.sent = 0) : Inv { s with executions := s.executions ++ [x] } := by
  have hlast : ∀ {q : Nat} {y : Execution}, (s.executions ++ [x])[q]? = some y → y.phase ≠ .gone →
      q = s.executions.length := by
    intro q y hq hy
    rcases Calls.snoc_cases hq with hq | ⟨heq, -⟩
    · exact absurd (hgone y (List.mem_of_getElem? hq)) hy
    · exact heq
  refine ⟨fun q q' y y' hq hq' hy hy' => (hlast hq hy).trans (hlast hq' hy').symm, fun y hy => ?_, h.sent, h.delivered,
    h.jobs, fun y hy => ?_, fun h1 => absurd (h0.symm.trans h1) Nat.zero_ne_one⟩
  · rcases List.mem_append.mp hy with hy | hy
    · exact (h.sound y hy).same rfl rfl
    · rw [List.mem_singleton.mp hy]
      exact hx.same rfl rfl
  · rcases List.mem_append.mp hy with hy | hy
    · exact h.job y hy
    · rw [List.mem_singleton.mp hy]
      exact hj

/-- A job that is still handed out when nobody is at work on it has not been sent. -/
theorem Inv.unsent (h : Inv s) (hgone : ∀ x ∈ s.executions, x.phase = .gone) {job : JobQueue.Job JobData}
    (hj : job ∈ s.jobs) (hq : job.queued = true) : s.sent = 0 := by
  have hle := h.sent
  by_contra hne
  rcases h.closed (by omega) with ⟨x, hx, hxs⟩ | hc
  · rw [hgone x hx] at hxs
    cases hxs
  · rw [hc job hj] at hq
    cases hq

theorem inv_step (h : Inv s) (ho : Undisturbed s a) (hs : step s a = some s') : Inv s' := by
  cases a with
  | updateUser user =>
    cases hs
    exact ⟨h.sole, fun x hx => (h.sound x hx).same rfl rfl, h.sent, h.delivered, h.jobs, h.job, h.closed⟩
  | updateSettings settings =>
    cases hs
    exact ⟨h.sole, fun x hx => (h.sound x hx).same rfl rfl, h.sent, h.delivered, h.jobs, h.job, h.closed⟩
  | deliver j =>
    simp only [step] at hs
    split at hs
    · rename_i job hj
      split at hs
      · rename_i hq
        cases hs
        have h0 : s.sent = 0 := h.unsent ho (List.mem_of_getElem? hj) hq
        have hnd : ¬ s.delivered := fun hd => absurd (h0.symm.trans (h.delivered hd)) Nat.zero_ne_one
        exact h.deliver ho (process_sound h0 hnd job.data.name) (List.getElem?_eq_some_iff.mp hj).1 h0
      · cases hs
    · cases hs
  | execute e answer =>
    obtain ⟨x, he, hs⟩ := Option.bind_eq_some_iff.mp hs
    exact executionStep_inv h he (ho x he) hs
  | crash e =>
    obtain ⟨x, he, hs⟩ := Option.bind_eq_some_iff.mp hs
    split at hs <;> cases hs
    rename_i hx
    exact h.throw he hx (ho x he) rfl

theorem inv_init (data : JobData) : Inv (init data) where
  sole e e' x x' he := by simp [init] at he
  sound x hx := absurd hx List.not_mem_nil
  sent := Nat.zero_le 1
  delivered hd := by simp [State.delivered, init] at hd
  jobs := rfl
  job x hx := absurd hx List.not_mem_nil
  closed h1 := absurd h1 Nat.zero_ne_one

/-! ## Afterwards -/

/-- When the row says delivered nobody is at work on it, and nobody starts. -/
theorem delivered_step (h : Inv s) (hd : s.delivered) (ho : Undisturbed s a) (hs : step s a = some s') :
    s'.alert = s.alert ∧ s'.attempts = s.attempts := by
  cases a with
  | updateUser user =>
    cases hs
    exact ⟨rfl, rfl⟩
  | updateSettings settings =>
    cases hs
    exact ⟨rfl, rfl⟩
  | deliver j =>
    -- the queue is done with the job
    simp only [step] at hs
    split at hs
    · rename_i job hj
      split at hs
      · rename_i hq
        have h0 := h.unsent ho (List.mem_of_getElem? hj) hq
        exact absurd (h0.symm.trans (h.delivered hd)) Nat.zero_ne_one
      · cases hs
    · cases hs
  | execute e answer =>
    obtain ⟨x, he, hs⟩ := Option.bind_eq_some_iff.mp hs
    have hactive : x.phase.active = false := by
      by_contra hn
      exact (h.sound x (List.mem_of_getElem? he)).active (by simpa using hn) hd
    cases hp : x.phase with
    | returning =>
      rw [hp] at hs
      cases hs
      exact ⟨rfl, rfl⟩
    | throwing error =>
      rw [hp] at hs
      cases hs
      exact ⟨rfl, rfl⟩
    | gone =>
      rw [hp] at hs
      cases hs
    | _ =>
      rw [hp] at hactive
      cases hactive
  | crash e =>
    obtain ⟨x, he, hs⟩ := Option.bind_eq_some_iff.mp hs
    split at hs <;> cases hs
    exact ⟨rfl, rfl⟩

/-- If executions do not overlap and one that has sent the alert saves it and
returns, one send succeeds at most, and no step changes a delivered alert or
tries to send it again. -/
theorem delivered_once (h : (machine data).Reach Undisturbed s) :
    s.sent ≤ 1 ∧ (s.delivered → ∀ t, (machine data).Path Undisturbed s t → t.alert = s.alert ∧ t.attempts = s.attempts) := by
  have hinv : Inv s := h.inv (inv_init data) fun _ _ _ hi ho hs => inv_step hi ho hs
  refine ⟨hinv.sent, fun hd t ht => ?_⟩
  have hkeep := ht.keep (I := fun t => Inv t ∧ t.alert = s.alert ∧ t.attempts = s.attempts)
    (fun u a v hu ho hs => by
      obtain ⟨hui, hua, hut⟩ := hu
      have hud : u.delivered := by
        rw [State.delivered, hua]
        exact hd
      obtain ⟨hva, hvt⟩ := delivered_step hui hud ho hs
      exact ⟨inv_step hui ho hs, hva.trans hua, hvt.trans hut⟩) ⟨hinv, rfl, rfl⟩
  exact hkeep.2

end

/-! ## Runs -/

def deferredJob : JobData := { name := .deferredDelivery, alertId := 7, userId := 5 }

def prepared : List Action :=
  [.updateUser (some ⟨some "+2348000000000"⟩), .updateSettings (some ⟨true, true⟩), .deliver 0, .execute 0 .done,
    .execute 0 .done, .execute 0 .done, .execute 0 .done, .execute 0 .done]

/-- The message goes out, the save after it fails, and the retry sends another one. -/
def savedNot : List Action :=
  prepared ++ [.execute 0 (.failed "connection lost"), .execute 0 .done, .deliver 0, .execute 1 .done, .execute 1 .done,
    .execute 1 .done, .execute 1 .done, .execute 1 .done]

theorem resent_after_failed_save :
    ¬ ∀ s, (machine deferredJob).Reach Free s →
      s.sent ≤ 1 ∧ (s.delivered → ∀ t, (machine deferredJob).Path Free s t → t.alert = s.alert ∧
        t.attempts = s.attempts) := by
  intro h
  have h0 : ((machine deferredJob).run (init deferredJob) savedNot).map State.sent = some 2 := by decide +kernel
  obtain ⟨s, hs, hsent⟩ := Option.map_eq_some_iff.mp h0
  have hle := (h s (Machine.path_of_run hs)).1
  rw [hsent] at hle
  exact absurd hle (by decide)

/-- The email fails and the job is retried by WhatsApp, saved and finished. -/
def retried : List Action :=
  [.updateUser (some ⟨some "+2348000000000"⟩), .deliver 0, .execute 0 .done, .execute 0 .done, .execute 0 .done,
    .execute 0 .done, .execute 0 (.failed "smtp"), .execute 0 .done, .execute 0 .done,
    .updateSettings (some ⟨true, true⟩), .deliver 0, .execute 1 .done, .execute 1 .done, .execute 1 .done, .execute 1 .done,
    .execute 1 .done, .execute 1 .done, .execute 1 .done]

theorem delivered_once_retried :
    ∃ s, ((machine deferredJob).only Undisturbed).run (init deferredJob) retried = some s ∧ s.delivered ∧
      s.attempts = [(.email, false), (.whatsapp, true)] ∧ s.sent ≤ 1 ∧
      ∀ t, (machine deferredJob).Path Undisturbed s t → t.alert = s.alert ∧ t.attempts = s.attempts := by
  have h0 : (((machine deferredJob).only Undisturbed).run (init deferredJob) retried).map
      (fun s => (s.alert.map (·.deliveryStatus), s.attempts)) =
      some (some .delivered, [(.email, false), (.whatsapp, true)]) := by decide +kernel
  obtain ⟨s, hs, h0⟩ := Option.map_eq_some_iff.mp h0
  obtain ⟨hd, hat⟩ := Prod.mk.injEq .. ▸ h0
  have honce := delivered_once (Machine.path_of_run_only hs)
  exact ⟨s, hs, hd, hat, honce.1, honce.2 hd⟩

end IntellApi.AlertDispatch
