import IntellApi.AlertDetectionSound
import IntellApi.Calls

/-!
# Saved alerts and their jobs

The row is saved first and its job is enqueued by another call. Every number
below that of the next row is either on its way to the queue or in it, once
(`Balanced`), as long as no call of `alertQueue.add` fails. A call that fails
leaves a row without a job behind, and `isDuplicate` goes by that row.
-/

namespace IntellApi.AlertDetection

open Alerts Lts

variable {inverters : Uuid → Option Inverter} {userSettings : Uuid → Option UserSettings} {s s' : State} {a : Action}

/-! ## Rows and jobs -/

def AlertJob.alertId : AlertJob → Nat
  | .dispatch alertId | .deferredDelivery alertId _ _ => alertId

/-- The alert whose job the evaluation is about to enqueue. -/
def Evaluation.unsent : Evaluation → Option Nat
  | .enqueuing _ _ job _ => some job.alertId
  | _ => none

def State.enqueued (s : State) (id : Nat) : Nat := s.jobs.countP fun job => decide (job.alertId = id)

def State.unsent (s : State) (id : Nat) : Nat := s.evaluations.countP fun e => decide (e.unsent = some id)

/-- A row that no evaluation is still at work on has one job. -/
def NoneLost (s : State) : Prop :=
  ∀ row ∈ s.alerts, (∀ e ∈ s.evaluations, e.unsent ≠ some row.1) → s.enqueued row.1 = 1

def Enqueues (_ : State) : Action → Prop
  | .add _ ok => ok = true
  | _ => True

instance (s : State) (a : Action) : Decidable (Enqueues s a) := by
  unfold Enqueues
  split <;> infer_instance

/-! ## Deferred alerts -/

/-- A delivery is deferred only to an end of the quiet hours that can be read. -/
theorem quietHoursEndDate_isSome {settings : Option UserSettings} {now : Int} {severity : AlertSeverity}
    (h : deferDelivery settings now severity = true) : (quietHoursEndDate settings now).isSome = true := by
  unfold deferDelivery at h
  split at h
  · rename_i start stop hstart hstop
    simp only [Bool.decide_and, Bool.and_eq_true, decide_eq_true_eq] at h
    have hq := h.2.2.2
    obtain ⟨minutes, hm⟩ : ∃ minutes, minutesOf (convertToUTC stop (timezone settings)).toList = some minutes := by
      unfold isWithinQuietHours at hq
      simp only at hq
      split at hq
      · rename_i hz
        exact ⟨0, by rw [hz.2]; decide⟩
      · split at hq
        · rename_i minutes _ hm
          exact ⟨_, hm⟩
        · cases hq
    simp [quietHoursEndDate, hstop, hm]
  · cases h

/-! ## The balance -/

structure Balanced (s : State) : Prop where
  rows : ∀ row ∈ s.alerts, row.1 < s.alerts.length
  jobs : ∀ id, s.enqueued id + s.unsent id = if id < s.alerts.length then 1 else 0

theorem unsent_set {p : Nat} {e : Evaluation} (hp : s.evaluations[p]? = some e) (next : Evaluation) (id : Nat) :
    (s.set p next).unsent id + (if e.unsent = some id then 1 else 0) =
      s.unsent id + if next.unsent = some id then 1 else 0 := by
  have := Calls.countP_set (b := next) (fun e => decide (e.unsent = some id)) hp
  simp only [decide_eq_true_eq] at this
  exact this

theorem Balanced.set (h : Balanced s) {p : Nat} {e e' : Evaluation} (hp : s.evaluations[p]? = some e)
    (he : e.unsent = none) (he' : e'.unsent = none) : Balanced (s.set p e') where
  rows := h.rows
  jobs id := by
    have := unsent_set hp e' id
    simp only [he, he', reduceCtorEq, if_false, Nat.add_zero] at this
    rw [this]
    exact h.jobs id

theorem Balanced.append (h : Balanced s) {e : Evaluation} (he : e.unsent = none) :
    Balanced { s with evaluations := s.evaluations ++ [e] } where
  rows := h.rows
  jobs id := by
    have : State.unsent { s with evaluations := s.evaluations ++ [e] } id = s.unsent id := by
      simp [State.unsent, he]
    rw [this]
    exact h.jobs id

theorem Balanced.save (h : Balanced s) {p : Nat} {e : Evaluation} (hp : s.evaluations[p]? = some e)
    (he : e.unsent = none) (alert : Alert) {job : AlertJob} (hj : job.alertId = s.alerts.length) (userId : Uuid)
    (settings : Option UserSettings) (todo : List Candidate) (clock : Int) :
    Balanced (State.set { s with alerts := (s.alerts.length, alert) :: s.alerts, clock } p
      (.enqueuing userId settings job todo)) where
  rows row hm := by
    rcases List.mem_cons.mp hm with rfl | hm
    · exact Nat.lt_succ_self _
    · exact Nat.lt_succ_of_lt (h.rows row hm)
  jobs id := by
    have hset := unsent_set (s := { s with alerts := (s.alerts.length, alert) :: s.alerts, clock }) hp
      (.enqueuing userId settings job todo) id
    have hold := h.jobs id
    have hu : (Evaluation.enqueuing userId settings job todo).unsent = some s.alerts.length := congrArg some hj
    simp only [he, hu, reduceCtorEq, if_false, Nat.add_zero, Option.some.injEq] at hset
    show s.enqueued id + _ = if id < s.alerts.length + 1 then 1 else 0
    rw [hset]
    show s.enqueued id + (s.unsent id + if s.alerts.length = id then 1 else 0) = _
    split <;> split <;> split at hold <;> omega

theorem Balanced.add (h : Balanced s) {p : Nat} {job : AlertJob} {userId : Uuid} {settings : Option UserSettings}
    {todo : List Candidate} (hp : s.evaluations[p]? = some (.enqueuing userId settings job todo)) :
    Balanced (State.set { s with jobs := job :: s.jobs } p (.checking userId settings todo)) where
  rows := h.rows
  jobs id := by
    have hset := unsent_set (s := { s with jobs := job :: s.jobs }) hp (.checking userId settings todo) id
    have hold := h.jobs id
    have hjob : State.enqueued (State.set { s with jobs := job :: s.jobs } p (.checking userId settings todo)) id =
        s.enqueued id + if job.alertId = id then 1 else 0 := by
      simp [State.enqueued, State.set, List.countP_cons]
    simp only [Evaluation.unsent, reduceCtorEq, if_false, Nat.add_zero, Option.some.injEq] at hset
    have hs : State.unsent { s with jobs := job :: s.jobs } id = s.unsent id := rfl
    rw [hjob]
    show _ = if id < s.alerts.length then 1 else 0
    omega

/-! ## Steps -/

theorem balanced_step (h : Balanced s) (ho : Enqueues s a) (hs : step inverters userSettings s a = some s') :
    Balanced s' := by
  cases change_of_step hs with
  | tick us => exact ⟨h.rows, h.jobs⟩
  | resolved alertId =>
    refine ⟨fun row hm => ?_, fun id => ?_⟩
    · obtain ⟨row', hm', rfl⟩ := List.mem_map.mp hm
      have := h.rows row' hm'
      simp only [List.length_map]
      split <;> exact this
    · simp only [List.length_map]
      exact h.jobs id
  | malformed => exact h
  | null => exact h.append rfl
  | started metric => exact h.append rfl
  | found p metric inverter hp hi => exact h.set hp rfl rfl
  | rejected p metric hp => exact h.set hp rfl rfl
  | loaded p inverter metric hp => exact h.set hp rfl rfl
  | duplicate p userId settings c todo hp => exact h.set hp rfl rfl
  | looked p userId settings c todo hp hd => exact h.set hp rfl rfl
  | saved p userId settings c now todo job hp hj =>
    have hid : job.alertId = s.alerts.length := by
      obtain rfl | ⟨date, rfl⟩ := hj
      · rfl
      · rfl
    exact h.save hp rfl _ hid ..
  | unscheduled p userId settings c now todo hp hdefer hdate =>
    have hsome := quietHoursEndDate_isSome hdefer
    rw [hdate] at hsome
    cases hsome
  | added p userId settings job todo hp => exact h.add hp
  | addFailed p userId settings job todo hp => cases ho
  | ended _ p e hp he =>
    have hu : e.unsent = none := by
      cases e with
      | enqueuing userId settings job todo => exact absurd rfl (he userId settings job todo)
      | findingInverter | loadingSettings | checking | saving | done | unhandledRejection => rfl
    exact h.set hp hu rfl

theorem balanced_init : Balanced init where
  rows _ hm := absurd hm List.not_mem_nil
  jobs _ := rfl

theorem Balanced.noneLost (h : Balanced s) : NoneLost s := by
  intro row hm hn
  have hj := h.jobs row.1
  have hu : s.unsent row.1 = 0 := List.countP_eq_zero.mpr fun e he => by simpa using hn e he
  rw [if_pos (h.rows row hm), hu] at hj
  exact hj

/-- If no call of `alertQueue.add` fails, every saved alert has exactly one job
when the evaluation that saved it goes on. -/
theorem alerts_enqueued (h : (machine inverters userSettings).Reach Enqueues s) : NoneLost s :=
  (h.inv (I := Balanced) balanced_init fun _ _ _ hi ho hs => balanced_step hi ho hs).noneLost

/-! ## Runs -/

/-- The first evaluation saves its alert and fails to enqueue it; the second one
finds the alert a duplicate. -/
def addFails : List Action :=
  [.handleMetricMessage (lowBattery 5), .findInverter 0 true, .loadSettings 0 true, .isDuplicate 0 true,
    .save 0 true, .add 0 false, .handleMetricMessage (lowBattery 5), .findInverter 1 true, .loadSettings 1 true,
    .isDuplicate 1 true, .isDuplicate 1 true]

theorem failed_add_loses_alert : ¬ ∀ s, (machine oneInverter fun _ => none).Reach Free s → NoneLost s := by
  intro h
  have h0 : ((machine oneInverter fun _ => none).run init addFails).map
      (fun s => (s.alerts.map (·.1), s.jobs, s.evaluations)) = some ([0], [], [.done, .done]) := by decide +kernel
  obtain ⟨s, hs, hv⟩ := Option.map_eq_some_iff.mp h0
  simp only [Prod.mk.injEq] at hv
  obtain ⟨ha, hj, he⟩ := hv
  obtain ⟨row, hrow, hid⟩ := List.mem_map.mp (ha ▸ List.mem_singleton_self 0 : 0 ∈ s.alerts.map (·.1))
  have hone := h s (Machine.path_of_run hs) row hrow (by simp [he, Evaluation.unsent])
  simp [State.enqueued, hj] at hone

def warningAdded : List Action :=
  [.handleMetricMessage (lowBattery 16), .findInverter 0 true, .loadSettings 0 true, .isDuplicate 0 true,
    .save 0 true, .add 0 true, .isDuplicate 0 true]

theorem alerts_enqueued_warning :
    ∃ s, ((machine oneInverter fun _ => none).only Enqueues).run init warningAdded = some s ∧
      s.alerts.map (·.1) = [0] ∧ NoneLost s := by
  have h0 : (((machine oneInverter fun _ => none).only Enqueues).run init warningAdded).map
      (fun s => s.alerts.map (·.1)) = some [0] := by decide +kernel
  obtain ⟨s, hs, ha⟩ := Option.map_eq_some_iff.mp h0
  exact ⟨s, hs, ha, alerts_enqueued (Machine.path_of_run_only hs)⟩

end IntellApi.AlertDetection
