import IntellApi.MetricsPollsSound
import Mathlib.Data.List.DropRight

/-!
# One poll after the other

A poll that no other poll of its inverter comes between is a function of the
counter and of what its calls answer. The counter of a sequence of polls is the
length of the current outage.
-/

namespace IntellApi.MetricsPolls

open MetricEvents

/-! ## One poll -/

/-- What the calls of a poll answer; a poll makes some of them only. -/
structure Outcome where
  decrypted : Bool
  fetched : Option NormalisedMetric
  markedOnline : Bool
  markedOffline : Bool
  saved : Bool
  published : Bool

inductive Call
  | fetchMetrics
  | markOnline
  | persistAndPublish (metric : NormalisedMetric)
  | markOffline
  | fireInverterOfflineAlert
  deriving DecidableEq, Repr

structure Polled where
  failureCount : Option Nat
  calls : List Call
  row : Option InvertersMetrics
  message : Option NormalisedMetric
  deriving DecidableEq, Repr

/-- The row that is saved and the message that is published. -/
def persistAndPublish (metric : NormalisedMetric) (o : Outcome) : Option InvertersMetrics × Option NormalisedMetric :=
  match o.saved, MetricEvents.save metric with
  | true, some row => (some row, if o.published then some (viaJson metric) else none)
  | _, _ => (none, none)

namespace PollOne

/-- The catch block of the four polls. -/
def fetchFailed (o : Outcome) (failureCount : Option Nat) (calls : List Call) : Polled :=
  let fetchInverterFailures := failureCount.getD 0
  let offline : List Call := if o.markedOffline then [.markOffline, .fireInverterOfflineAlert] else [.markOffline]
  { failureCount := some (fetchInverterFailures + 1)
    calls := calls ++ if fetchInverterFailures ≥ 2 then offline else []
    row := none
    message := none }

def poll (p : PollOne) (inverterId : Uuid) (o : Outcome) (failureCount : Option Nat) : Polled :=
  if o.decrypted then
    match o.fetched with
    | some metric =>
      let metric := p.reading inverterId metric
      if o.markedOnline then
        let saved := persistAndPublish metric o
        ⟨some 0, [.fetchMetrics, .markOnline, .persistAndPublish metric], saved.1, saved.2⟩
      else fetchFailed o (some 0) [.fetchMetrics, .markOnline]
    | none => fetchFailed o failureCount [.fetchMetrics]
  else ⟨failureCount, [], none, none⟩

/-- The counter after polls that do not overlap; a tracked inverter starts without one. -/
def failureCount (p : PollOne) (inverterId : Uuid) (outcomes : List Outcome) : Option Nat :=
  outcomes.foldl (fun n o => (p.poll inverterId o n).failureCount) none

end PollOne

/-! ## The current outage -/

/-- The length of the longest suffix of failed fetches. -/
def outage (outcomes : List Outcome) : Nat := (outcomes.rtakeWhile (·.fetched.isNone)).length

/-- The credentials decrypt and the status updates succeed. -/
def Outcome.Updates (o : Outcome) : Prop := o.decrypted = true ∧ o.markedOnline = true ∧ o.markedOffline = true

section
variable {p : PollOne} {inverterId : Uuid} {outcomes : List Outcome} {o : Outcome} {n : Option Nat}

theorem outage_snoc : outage (outcomes ++ [o]) = if o.fetched.isSome then 0 else outage outcomes + 1 := by
  unfold outage
  cases ho : o.fetched with
  | some metric =>
    rw [List.rtakeWhile_concat_neg _ _ _ (by simp [ho])]
    rfl
  | none =>
    rw [List.rtakeWhile_concat_pos _ _ _ (by simp [ho]), List.length_append]
    rfl

theorem failureCount_snoc : p.failureCount inverterId (outcomes ++ [o]) =
    (p.poll inverterId o (p.failureCount inverterId outcomes)).failureCount := by
  unfold PollOne.failureCount
  rw [List.foldl_append]
  rfl

theorem poll_fetched {metric : NormalisedMetric} (ho : o.Updates) (hf : o.fetched = some metric) :
    p.poll inverterId o n = ⟨some 0, [.fetchMetrics, .markOnline, .persistAndPublish (p.reading inverterId metric)],
      (persistAndPublish (p.reading inverterId metric) o).1, (persistAndPublish (p.reading inverterId metric) o).2⟩ := by
  unfold PollOne.poll
  rw [if_pos ho.1, hf]
  exact if_pos ho.2.1

theorem poll_failed (ho : o.Updates) (hf : o.fetched = none) :
    p.poll inverterId o n = ⟨some (n.getD 0 + 1),
      .fetchMetrics :: if n.getD 0 ≥ 2 then [.markOffline, .fireInverterOfflineAlert] else [], none, none⟩ := by
  unfold PollOne.poll
  rw [if_pos ho.1, hf]
  simp only [PollOne.fetchFailed, ho.2.2, if_true, List.singleton_append]

theorem failureCount_getD (h : ∀ o ∈ outcomes, o.Updates) :
    (p.failureCount inverterId outcomes).getD 0 = outage outcomes := by
  induction outcomes using List.reverseRecOn with
  | nil => rfl
  | append_singleton outcomes o ih =>
    have ho := h o (List.mem_append_right _ (List.mem_singleton_self o))
    have ih := ih fun o hm => h o (List.mem_append_left _ hm)
    rw [failureCount_snoc, outage_snoc]
    cases hf : o.fetched with
    | some metric =>
      rw [poll_fetched ho hf]
      rfl
    | none =>
      rw [poll_failed ho hf]
      exact congrArg (· + 1) ih

/-- After every poll the counter is the length of the current outage; three failed
fetches in a row and no fewer mark the inverter offline and fire the alert. -/
theorem failureCount_outage (h : ∀ x ∈ outcomes ++ [o], x.Updates) :
    p.failureCount inverterId (outcomes ++ [o]) = some (outage (outcomes ++ [o])) ∧
    (.markOffline ∈ (p.poll inverterId o (p.failureCount inverterId outcomes)).calls ↔ 3 ≤ outage (outcomes ++ [o])) ∧
    (.fireInverterOfflineAlert ∈ (p.poll inverterId o (p.failureCount inverterId outcomes)).calls ↔
      3 ≤ outage (outcomes ++ [o])) ∧
    (.markOnline ∈ (p.poll inverterId o (p.failureCount inverterId outcomes)).calls ↔ o.fetched.isSome) := by
  have ho := h o (List.mem_append_right _ (List.mem_singleton_self o))
  have hc : (p.failureCount inverterId outcomes).getD 0 = outage outcomes :=
    failureCount_getD fun o hm => h o (List.mem_append_left _ hm)
  rw [failureCount_snoc, outage_snoc]
  cases hf : o.fetched with
  | some metric =>
    rw [poll_fetched ho hf]
    simp
  | none =>
    rw [poll_failed ho hf, hc]
    by_cases h2 : 2 ≤ outage outcomes
    · simp [h2]
    · simp [h2]

end

def fetchFails : Outcome := ⟨true, none, true, true, true, true⟩

def fetchSucceeds : Outcome := ⟨true, some reading7, true, true, true, true⟩

/-- Two failed fetches before a reading do not count for the outage after it. -/
theorem failureCount_outage_recovered :
    pollGrowattOne.failureCount 7 ([fetchFails, fetchFails, fetchSucceeds, fetchFails, fetchFails] ++ [fetchFails]) =
      some 3 ∧
    .fireInverterOfflineAlert ∈ (pollGrowattOne.poll 7 fetchFails
      (pollGrowattOne.failureCount 7 [fetchFails, fetchFails, fetchSucceeds, fetchFails, fetchFails])).calls := by
  have h : ∀ x ∈ [fetchFails, fetchFails, fetchSucceeds, fetchFails, fetchFails] ++ [fetchFails], x.Updates := by
    simp [Outcome.Updates, fetchFails, fetchSucceeds]
  have ho : outage ([fetchFails, fetchFails, fetchSucceeds, fetchFails, fetchFails] ++ [fetchFails]) = 3 := by decide
  obtain ⟨hc, -, hf, -⟩ := @failureCount_outage pollGrowattOne 7 _ _ h
  rw [ho] at hc hf
  exact ⟨hc, hf.mpr (Nat.le_refl 3)⟩

end IntellApi.MetricsPolls
