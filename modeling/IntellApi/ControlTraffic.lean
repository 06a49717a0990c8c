import IntellApi.SubscribersSound

/-!
# Control messages taken for readings

The pattern of the alert detection job matches the control channel. A control
message has none of the fields of a reading: no load to run the battery down,
and nothing that a comparison holds of. Whatever the inverter and the settings,
its evaluation finds no alert and ends.
-/

namespace IntellApi.Alerts

/-! ## Thresholds without a reading -/

variable {capacity rated threshold : JsNumber}

/-- A battery without load is not running down. -/
theorem isCharging_of_no_load (soc : JsNumber) :
    (calculateDepletion ⟨soc, 0, capacity, 0, rated⟩ threshold).isCharging = true := by
  have hnet : JsNumber.max 0 (JsNumber.max 0 0 - JsNumber.max 0 0) ≤ 0 := by decide +kernel
  unfold calculateDepletion
  simp only [hnet, if_true]
  split
  · rfl
  · split <;> rfl

theorem shouldFireAlert_charging (minutes : Option JsNumber) : shouldFireAlert minutes true = none := by
  cases minutes <;> rfl

theorem shouldFireSolarAlert_undefined : shouldFireSolarAlert .undefined capacity = none := by
  unfold shouldFireSolarAlert
  simp only [JsField.toNumber, reduceCtorEq, false_or, JsNumber.not_nan_le, JsNumber.not_nan_lt, JsNumber.nan_div,
    if_false]
  split <;> rfl

theorem shouldFireHighLoadAlert_undefined : shouldFireHighLoadAlert .undefined capacity = none := by
  unfold shouldFireHighLoadAlert
  simp only [JsField.toNumber, reduceCtorEq, false_or, JsNumber.not_nan_le, JsNumber.not_lt_nan, JsNumber.nan_div,
    if_false]
  split <;> rfl

end IntellApi.Alerts

namespace IntellApi.Subscribers

open Lts AlertDetection
open MetricsPoller (InverterControlMessage)

/-! ## The message -/

def controlMetric (id : Uuid) : NormalisedMetric := ⟨id, .undefined, .undefined, .undefined⟩

theorem metricMessage_stringify {rowId : Option Json → Uuid} {toNumber : Json → JsNumber} (text : Uuid → String)
    (message : InverterControlMessage) :
    ∃ id, metricMessage rowId toNumber (stringify text message) = .metric (controlMetric id) := by
  refine ⟨rowId (some (.string (text message.inverterId))), ?_⟩
  rw [metricMessage, stringify, Json.parse_stringify]
  rfl

theorem evaluateInverter_controlMetric (inverter : Inverter) (settings : Option UserSettings) (id : Uuid) :
    evaluateInverter inverter settings (controlMetric id) = [] := by
  simp only [evaluateInverter, controlMetric, Alerts.JsField.getD, Alerts.isCharging_of_no_load,
    Alerts.shouldFireAlert_charging, Alerts.shouldFireSolarAlert_undefined, Alerts.shouldFireHighLoadAlert_undefined]
  rfl

/-! ## The evaluation -/

/-- Where the evaluation of a control message can be. -/
def Silent : Evaluation → Prop
  | .findingInverter metric | .loadingSettings _ metric => ∃ id, metric = controlMetric id
  | .checking _ _ todo => todo = []
  | .done | .unhandledRejection => True
  | .saving _ _ _ _ _ | .enqueuing _ _ _ _ => False

/-- The steps of evaluation `p`. -/
def OfEvaluation (p : Nat) : Action → Prop
  | .detection (.findInverter q _) | .detection (.loadSettings q _) | .detection (.isDuplicate q _)
  | .detection (.save q _) | .detection (.add q _) => q = p
  | _ => False

section
variable {inverters : Uuid → Option Inverter} {userSettings : Uuid → Option UserSettings}
  {d d' : AlertDetection.State} {b : AlertDetection.Action} {p : Nat} {e e' : Evaluation}

def SilentAt (d : AlertDetection.State) (p : Nat) : Prop := ∃ e, d.evaluations[p]? = some e ∧ Silent e

theorem silent_moves (h : Silent e) (hm : Moves inverters userSettings e e') : Silent e' := by
  cases hm with
  | found | rejected | ended => first | exact h | trivial
  | loaded inverter metric =>
    obtain ⟨id, rfl⟩ := h
    exact evaluateInverter_controlMetric inverter _ id
  | duplicate | looked => cases h
  | saved | added => exact h.elim

theorem SilentAt.change (h : SilentAt d p) (hc : Change inverters userSettings d b d') : SilentAt d' p :=
  At.change (fun _ _ => silent_moves) h hc

end

variable {rowId : Option Json → Uuid} {toNumber : Json → JsNumber} {userSettings : Uuid → Option UserSettings}
  {brandOf : Uuid → InverterBrand} {s s' t u : State} {a : Action}

theorem detection_onControlMessage (x : State) (raw : String) :
    (x.onControlMessage rowId brandOf raw).detection = x.detection := by
  unfold State.onControlMessage
  split <;> rfl

theorem silentAt_message {p : Nat} {channel raw : String} (h : SilentAt s.detection p)
    (hs : step rowId toNumber userSettings brandOf s (.message channel raw) = some s') : SilentAt s'.detection p := by
  have hm : SilentAt (if inverterPattern channel then s.handleMetricMessage rowId toNumber userSettings raw
      else s).detection p := by
    split
    · unfold State.handleMetricMessage
      cases hd : AlertDetection.step s.findInverter userSettings s.detection
          (.handleMetricMessage (metricMessage rowId toNumber raw)) with
      | none =>
        simp only [hd, Option.getD_none]
        exact h
      | some d =>
        simp only [hd, Option.getD_some]
        exact h.change (change_of_step hd)
    · exact h
  cases hs
  split
  · rw [detection_onControlMessage]
    exact hm
  · exact hm

theorem silentAt_step {p : Nat} (h : SilentAt s.detection p)
    (hs : step rowId toNumber userSettings brandOf s a = some s') :
    SilentAt s'.detection p := by
  cases a with
  | message channel raw => exact silentAt_message h hs
  | detection b =>
    obtain ⟨-, d, hd, rfl⟩ := step_detection hs
    exact h.change (change_of_step hd)
  | poller e =>
    obtain ⟨poller, -, rfl⟩ := step_poller hs
    exact h

theorem silentAt_started {channel raw : String} {id : Uuid} (hc : inverterPattern channel = true)
    (hm : metricMessage rowId toNumber raw = .metric (controlMetric id))
    (hs : step rowId toNumber userSettings brandOf s (.message channel raw) = some s') :
    SilentAt s'.detection s.detection.evaluations.length := by
  have hd : SilentAt (s.handleMetricMessage rowId toNumber userSettings raw).detection s.detection.evaluations.length := by
    unfold State.handleMetricMessage
    rw [hm]
    exact ⟨.findingInverter (controlMetric id), List.getElem?_concat_length, id, rfl⟩
  cases hs
  rw [if_pos hc]
  split
  · rw [detection_onControlMessage]
    exact hd
  · exact hd

/-- The evaluation that a control message starts saves no alert and enqueues no
job, at any of its steps and whatever else happens between them. -/
theorem control_raises_no_alert (text : Uuid → String) (message : InverterControlMessage)
    (hs : step rowId toNumber userSettings brandOf s (.message inverterControlChannel (stringify text message)) = some s')
    (h : (machine rowId toNumber userSettings brandOf).Path Free s' t) (ha : OfEvaluation s.detection.evaluations.length a)
    (hu : step rowId toNumber userSettings brandOf t a = some u) :
    u.detection.alerts = t.detection.alerts ∧ u.detection.jobs = t.detection.jobs := by
  obtain ⟨id, hm⟩ := @metricMessage_stringify rowId toNumber text message
  have hc : inverterPattern inverterControlChannel = true := by decide +kernel
  have h0 : SilentAt s'.detection s.detection.evaluations.length := silentAt_started hc hm hs
  have ht : SilentAt t.detection s.detection.evaluations.length :=
    h.keep (I := fun x => SilentAt x.detection s.detection.evaluations.length)
      (fun _ _ _ hi _ hs => silentAt_step hi hs) h0
  obtain ⟨e, he, hsilent⟩ := ht
  cases a with
  | message | poller => cases ha
  | detection b =>
    obtain ⟨-, d, hd, rfl⟩ := step_detection hu
    cases change_of_step hd with
    | tick | resolved | malformed | null | started => cases ha
    | found | rejected | loaded | duplicate | looked | addFailed | ended => exact ⟨rfl, rfl⟩
    | saved q userId settings c now todo job hq hj =>
      cases (ha : q = _)
      cases he.symm.trans hq
      cases hsilent
    | unscheduled q userId settings c now todo hq =>
      cases (ha : q = _)
      cases he.symm.trans hq
      cases hsilent
    | added q userId settings job todo hq =>
      cases (ha : q = _)
      cases he.symm.trans hq
      cases hsilent

def inverter7 : Inverter := ⟨7, 1, .victron, true, false, 5, 5⟩

/-- The row is there, its evaluation goes up to the end. -/
theorem control_raises_no_alert_victron : ∃ s s' t u,
    step someId notANumber (fun _ => none) MetricsPoller.evenVictron s
      (.message inverterControlChannel (stringify toString ⟨.registered, 7, "victron"⟩)) = some s' ∧
    (machine someId notANumber (fun _ => none) MetricsPoller.evenVictron).Path Free s' t ∧
    step someId notANumber (fun _ => none) MetricsPoller.evenVictron t (.detection (.isDuplicate 0 true)) = some u ∧
    t.findInverter 7 = some inverter7 ∧ u.detection.evaluations = [.done] ∧
    u.detection.alerts = t.detection.alerts ∧ u.detection.jobs = t.detection.jobs := by
  let M := machine someId notANumber (fun _ => none) MetricsPoller.evenVictron
  let s : State := ⟨AlertDetection.init, ⟨[inverter7], .init⟩, none⟩
  have h0 : ((M.step s (.message inverterControlChannel (stringify toString ⟨.registered, 7, "victron"⟩))).bind fun s' =>
      (M.run s' [.detection (.findInverter 0 true), .detection (.loadSettings 0 true)]).bind fun t =>
        (M.step t (.detection (.isDuplicate 0 true))).map fun u => (t.findInverter 7, u.detection.evaluations)) =
      some (some inverter7, [.done]) := by decide +kernel
  obtain ⟨s', hs, h0⟩ := Option.bind_eq_some_iff.mp h0
  obtain ⟨t, ht, h0⟩ := Option.bind_eq_some_iff.mp h0
  obtain ⟨u, hu, h0⟩ := Option.map_eq_some_iff.mp h0
  simp only [Prod.mk.injEq] at h0
  have hpath : M.Path Free s' t := Machine.path_of_run ht
  have ha : OfEvaluation s.detection.evaluations.length (.detection (.isDuplicate 0 true)) := rfl
  exact ⟨s, s', t, u, hs, hpath, hu, h0.1, h0.2, control_raises_no_alert toString _ hs hpath ha hu⟩

end IntellApi.Subscribers
