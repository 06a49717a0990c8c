import IntellApi.AlertDetectionSound
import IntellApi.MetricsPollerSound
import IntellApi.Subscribers

/-!
# What a message can do

No callback throws at once. A promise is rejected by a message that is `null`
and by the two calls that are outside of any `try` block, and by nothing else
(`no_rejection`).
-/

namespace IntellApi.Subscribers

open Lts

variable {rowId : Option Json → Uuid} {toNumber : Json → JsNumber} {userSettings : Uuid → Option UserSettings}
  {brandOf : Uuid → InverterBrand} {s s' t : State} {a : Action} {raw : String}

/-! ## Parsed messages -/

theorem property_ok (key : String) {value : Json} (h : value ≠ .null) : ∃ r, property key value = .ok r := by
  cases value with
  | null => exact absurd rfl h
  | object members => exact ⟨Json.lookup key members, rfl⟩
  | bool | number | string | array => exact ⟨none, rfl⟩

theorem normalisedMetric_ok {value : Json} (h : value ≠ .null) :
    ∃ metric, normalisedMetric rowId toNumber value = .ok metric := by
  obtain ⟨inverterId, hi⟩ := property_ok "inverterId" h
  obtain ⟨solarPowerKw, hs⟩ := property_ok "solarPowerKw" h
  obtain ⟨acOutputPowerKw, ha⟩ := property_ok "acOutputPowerKw" h
  obtain ⟨batterySoc, hb⟩ := property_ok "batterySoc" h
  unfold normalisedMetric
  rw [hi, hs, ha, hb]
  exact ⟨_, rfl⟩

theorem metricMessage_eq_null : metricMessage rowId toNumber raw = .null ↔ Json.parse raw = some .null := by
  unfold metricMessage
  cases hp : Json.parse raw with
  | none => exact iff_of_false (fun he => by cases he) (fun he => by cases he)
  | some value =>
    by_cases hn : value = .null
    · subst hn
      exact iff_of_true rfl rfl
    · obtain ⟨metric, hm⟩ := @normalisedMetric_ok rowId toNumber value hn
      simp only [hm]
      exact iff_of_false (fun he => by cases he) fun he => hn (Option.some.inj he)

/-- The callback reads fields of objects only. -/
theorem controlMessage_ok : ∃ parsed, controlMessage rowId raw = .ok parsed := by
  unfold controlMessage
  cases Json.parse raw with
  | none => exact ⟨none, rfl⟩
  | some value =>
    by_cases ho : isObject value = true
    · have hn : value ≠ .null := fun he => by
        subst he
        cases ho
      obtain ⟨event, he⟩ := property_ok "event" hn
      obtain ⟨inverterId, hi⟩ := property_ok "inverterId" hn
      obtain ⟨brand, hb⟩ := property_ok "brand" hn
      simp only [ho, if_true, he, hi, hb]
      exact ⟨_, rfl⟩
    · simp only [ho]
      exact ⟨_, rfl⟩

/-! ## Rejections -/

structure Unharmed (s : State) : Prop where
  threw : s.threw = none
  evaluations : .unhandledRejection ∉ s.detection.evaluations
  handlers : .rejected ∉ s.poller.poller.handlers

/-- No message parses to `null`, and neither `inverterRepo.findOne` nor
`inverterModelAction.get` fails. -/
def Harmless (_ : State) : Action → Prop
  | .message channel raw => ¬ (inverterPattern channel = true ∧ (Json.parse raw).any Json.isNull = true)
  | .detection (.findInverter _ ok) => ok = true
  | .poller (.poller (.getFails _)) => False
  | _ => True

instance (s : State) : (a : Action) → Decidable (Harmless s a)
  | .message channel raw =>
    inferInstanceAs (Decidable (¬ (inverterPattern channel = true ∧ (Json.parse raw).any Json.isNull = true)))
  | .detection (.findInverter _ ok) => inferInstanceAs (Decidable (ok = true))
  | .detection (.tick _) | .detection (.markAsResolved _) | .detection (.handleMetricMessage _)
  | .detection (.loadSettings _ _) | .detection (.isDuplicate _ _) | .detection (.save _ _) | .detection (.add _ _) =>
    instDecidableTrue
  | .poller (.poller (.getFails _)) => instDecidableFalse
  | .poller (.poller (.findSpecificBrand _)) | .poller (.poller .load) | .poller (.poller .subscribe)
  | .poller (.poller .startUpFails) | .poller (.poller (.deliver _)) | .poller (.poller (.get _))
  | .poller (.poller (.resume _)) | .poller (.write _) => instDecidableTrue

theorem any_isNull {o : Option Json} : o.any Json.isNull = true ↔ o = some .null := by
  cases o with
  | none => exact iff_of_false (fun he => by cases he) (fun he => by cases he)
  | some value =>
    rw [Option.any_some, Json.isNull_iff, Option.some.injEq]

section
open AlertDetection
variable {inverters : Uuid → Option Inverter} {d d' : AlertDetection.State} {b : AlertDetection.Action}

theorem evaluations_change (hc : AlertDetection.Change inverters userSettings d b d')
    (h : .unhandledRejection ∉ d.evaluations) (hn : b ≠ .handleMetricMessage .null)
    (hf : ∀ p, b ≠ .findInverter p false) :
    .unhandledRejection ∉ d'.evaluations := by
  cases hc with
  | tick | resolved | malformed => exact h
  | null => exact absurd rfl hn
  | started metric => exact Calls.not_mem_snoc h nofun
  | found p metric inverter hp hi => exact Calls.not_mem_set h nofun
  | rejected p metric hp => exact absurd rfl (hf p)
  | loaded p inverter metric hp => exact Calls.not_mem_set h nofun
  | duplicate p userId settings c todo hp => exact Calls.not_mem_set h nofun
  | looked p userId settings c todo hp hd => exact Calls.not_mem_set h nofun
  | saved p userId settings c now todo job hp hj => exact Calls.not_mem_set h nofun
  | unscheduled p userId settings c now todo hp => exact Calls.not_mem_set h nofun
  | added p userId settings job todo hp => exact Calls.not_mem_set h nofun
  | addFailed p userId settings job todo hp => exact Calls.not_mem_set h nofun
  | ended _ p e hp he => exact Calls.not_mem_set h nofun

end

section
open MetricsPoller
variable {rows : List Inverter} {p p' : Poller} {b : MetricsPoller.Action}

theorem handlers_change (hc : MetricsPoller.Change rows p b p') (h : .rejected ∉ p.handlers)
    (hf : ∀ k, b ≠ .getFails k) : .rejected ∉ p'.handlers := by
  cases hc with
  | findSpecificBrand | load | subscribe | startUpFails | ignored => exact h
  | registered raw id brand hs hv => exact Calls.not_mem_snoc h nofun
  | deregistered raw id brand hs hv =>
    rw [Poller.startUp_deregistered]
    exact h
  | get k id hk => exact Calls.not_mem_set h nofun
  | getFails k id hk => exact absurd rfl (hf k)
  | resume k id inverter hk =>
    rw [Poller.startUp_registered]
    exact Calls.not_mem_set h nofun

end

theorem step_detection {b : AlertDetection.Action}
    (hs : step rowId toNumber userSettings brandOf s (.detection b) = some s') :
    (∀ message, b ≠ .handleMetricMessage message) ∧ ∃ d,
      AlertDetection.step s.findInverter userSettings s.detection b = some d ∧ s' = { s with detection := d } := by
  cases b with
  | handleMetricMessage message => cases hs
  | tick | markAsResolved | findInverter | loadSettings | isDuplicate | save | add =>
    simp only [step] at hs
    obtain ⟨d, hd, rfl⟩ := Option.map_eq_some_iff.mp hs
    exact ⟨fun _ he => (by cases he), d, hd, rfl⟩

theorem step_poller {e : MetricsPoller.Event} (hs : step rowId toNumber userSettings brandOf s (.poller e) = some s') :
    ∃ poller, MetricsPoller.step brandOf s.poller e = some poller ∧ s' = { s with poller := poller } := by
  cases e with
  | write inverters =>
    simp only [step] at hs
    obtain ⟨poller, hp, rfl⟩ := Option.map_eq_some_iff.mp hs
    exact ⟨poller, hp, rfl⟩
  | poller b =>
    cases b with
    | deliver raw => cases hs
    | findSpecificBrand | load | subscribe | startUpFails | get | getFails | resume =>
      simp only [step] at hs
      obtain ⟨poller, hp, rfl⟩ := Option.map_eq_some_iff.mp hs
      exact ⟨poller, hp, rfl⟩

theorem handlers_step {p p' : MetricsPoller.State} {e : MetricsPoller.Event} (h : .rejected ∉ p.poller.handlers)
    (hf : ∀ k, e ≠ .poller (.getFails k)) (hs : MetricsPoller.step brandOf p e = some p') :
    .rejected ∉ p'.poller.handlers := by
  cases e with
  | write inverters =>
    simp only [MetricsPoller.step] at hs
    split at hs <;> cases hs
    exact h
  | poller b =>
    obtain ⟨poller, hp, rfl⟩ := Option.map_eq_some_iff.mp hs
    exact handlers_change (MetricsPoller.change_of_step hp) h fun k he => hf k (congrArg _ he)

theorem Unharmed.handleMetricMessage (h : Unharmed s) (hn : ¬ (Json.parse raw).any Json.isNull = true) :
    Unharmed (s.handleMetricMessage rowId toNumber userSettings raw) := by
  refine ⟨h.threw, ?_, h.handlers⟩
  unfold State.handleMetricMessage
  cases hd : AlertDetection.step s.findInverter userSettings s.detection
      (.handleMetricMessage (metricMessage rowId toNumber raw)) with
  | none =>
    simp only [hd, Option.getD_none]
    exact h.evaluations
  | some d =>
    simp only [hd, Option.getD_some]
    refine evaluations_change (AlertDetection.change_of_step hd) h.evaluations (fun he => ?_) fun _ he => by cases he
    exact hn (any_isNull.mpr (metricMessage_eq_null.mp (AlertDetection.Action.handleMetricMessage.inj he)))

theorem Unharmed.onControlMessage (h : Unharmed s) : Unharmed (s.onControlMessage rowId brandOf raw) := by
  obtain ⟨parsed, hp⟩ := @controlMessage_ok rowId raw
  unfold State.onControlMessage
  rw [hp]
  refine ⟨h.threw, h.evaluations, ?_⟩
  cases hd : MetricsPoller.step brandOf s.poller (.poller (.deliver parsed)) with
  | none =>
    simp only [hd, Option.getD_none]
    exact h.handlers
  | some p =>
    simp only [hd, Option.getD_some]
    exact handlers_step h.handlers (fun _ he => by cases he) hd

theorem unharmed_step (h : Unharmed s) (ho : Harmless s a)
    (hs : step rowId toNumber userSettings brandOf s a = some s') : Unharmed s' := by
  cases a with
  | message channel raw =>
    cases hs
    have hm : Unharmed (if inverterPattern channel then s.handleMetricMessage rowId toNumber userSettings raw else s) := by
      split
      · rename_i hc
        exact h.handleMetricMessage fun hn => ho ⟨hc, hn⟩
      · exact h
    split
    · exact hm.onControlMessage
    · exact hm
  | detection b =>
    obtain ⟨hb, d, hd, rfl⟩ := step_detection hs
    refine ⟨h.threw, ?_, h.handlers⟩
    refine evaluations_change (AlertDetection.change_of_step hd) h.evaluations (hb _) fun p he => ?_
    subst he
    cases ho
  | poller e =>
    obtain ⟨p, hp, rfl⟩ := step_poller hs
    refine ⟨h.threw, h.evaluations, handlers_step h.handlers (fun k he => ?_) hp⟩
    subst he
    exact ho

/-- As long as no message parses to `null` and the two calls that nothing
catches succeed, no callback throws and no promise is rejected. -/
theorem no_rejection (h : (machine rowId toNumber userSettings brandOf).Reach Harmless s) :
    s.threw = none ∧ .unhandledRejection ∉ s.detection.evaluations ∧ .rejected ∉ s.poller.poller.handlers := by
  have h0 : Unharmed (machine rowId toNumber userSettings brandOf).init :=
    ⟨rfl, fun hm => (by cases hm), fun hm => (by cases hm)⟩
  have hs := h.inv h0 fun _ _ _ hi ho hs => unharmed_step hi ho hs
  exact ⟨hs.threw, hs.evaluations, hs.handlers⟩

/-- Any other step rejects a promise. -/
theorem rejection_of_not_harmless (ho : ¬ Harmless s a) (hs : step rowId toNumber userSettings brandOf s a = some s') :
    .unhandledRejection ∈ s'.detection.evaluations ∨ .rejected ∈ s'.poller.poller.handlers := by
  unfold Harmless at ho
  split at ho
  · rename_i channel raw
    obtain ⟨hc, hn⟩ := not_not.mp ho
    refine .inl ?_
    have hm : metricMessage rowId toNumber raw = .null := metricMessage_eq_null.mpr (any_isNull.mp hn)
    have hd : (s.handleMetricMessage rowId toNumber userSettings raw).detection.evaluations =
        s.detection.evaluations ++ [.unhandledRejection] := by
      unfold State.handleMetricMessage
      rw [hm]
      rfl
    cases hs
    rw [if_pos hc]
    have hkeep : ∀ x : State, (x.onControlMessage rowId brandOf raw).detection = x.detection := by
      intro x
      unfold State.onControlMessage
      split <;> rfl
    split
    · rw [hkeep, hd]
      exact List.mem_append_right _ List.mem_cons_self
    · rw [hd]
      exact List.mem_append_right _ List.mem_cons_self
  · rename_i p ok
    refine .inl ?_
    obtain ⟨-, d, hd, rfl⟩ := step_detection hs
    rw [Bool.not_eq_true] at ho
    subst ho
    simp only [AlertDetection.step] at hd
    split at hd
    · rename_i metric hp
      cases hd
      exact List.mem_set (List.getElem?_eq_some_iff.mp hp).1 _
    · cases hd
  · rename_i k
    refine .inr ?_
    obtain ⟨p, hp, rfl⟩ := step_poller hs
    obtain ⟨poller, hq, rfl⟩ := Option.map_eq_some_iff.mp hp
    cases MetricsPoller.change_of_step hq with
    | getFails _ id hk => exact List.mem_set (List.getElem?_eq_some_iff.mp hk).1 _
  · exact absurd trivial ho

def someId (_ : Option Json) : Uuid := 7
def notANumber (_ : Json) : JsNumber := .nan

/-- A message that parses, without fields. -/
theorem null_rejected : ¬ ∀ rowId toNumber userSettings brandOf s,
    (machine rowId toNumber userSettings brandOf).Reach Free s →
    s.threw = none ∧ .unhandledRejection ∉ s.detection.evaluations ∧ .rejected ∉ s.poller.poller.handlers := by
  intro h
  let M := machine someId notANumber (fun _ => none) fun _ => .victron
  have h0 : (M.run M.init [.message "inverter:7" "null"]).map (·.detection.evaluations) =
      some [.unhandledRejection] := by decide +kernel
  obtain ⟨s, hs, h0⟩ := Option.map_eq_some_iff.mp h0
  have hn := (h _ _ _ _ s (Machine.path_of_run hs)).2.1
  rw [h0] at hn
  exact hn List.mem_cons_self

/-- A reading, a text that is no JSON and two control messages. -/
def delivered : List Action :=
  [.message "inverter:7" "\x7b\"inverterId\":\"7\",\"batterySoc\":50\x7d", .message "inverter:7" "\x7b",
    .message "inverter:control" "[7]", .detection (.findInverter 0 true),
    .message "inverter:control" "\x7b\"event\":\"registered\",\"inverterId\":\"7\",\"brand\":\"victron\"\x7d",
    .poller (.poller (.get 0)), .poller (.poller (.resume 0))]

theorem no_rejection_delivered : ∃ s, ((machine someId notANumber (fun _ => none) MetricsPoller.evenVictron).only
      Harmless).run ⟨AlertDetection.init, ⟨[], .init⟩, none⟩ (MetricsPoller.startEmpty.map .poller ++ delivered) = some s ∧
    s.threw = none ∧ .unhandledRejection ∉ s.detection.evaluations ∧ .rejected ∉ s.poller.poller.handlers := by
  have h0 : (((machine someId notANumber (fun _ => none) MetricsPoller.evenVictron).only Harmless).run
      ⟨AlertDetection.init, ⟨[], .init⟩, none⟩ (MetricsPoller.startEmpty.map .poller ++ delivered)).isSome = true := by
    decide +kernel
  obtain ⟨s, hs⟩ := Option.isSome_iff_exists.mp h0
  exact ⟨s, hs, no_rejection (Machine.path_of_run_only hs)⟩

end IntellApi.Subscribers
