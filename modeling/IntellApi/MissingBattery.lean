import IntellApi.AlertDetectionSound
import IntellApi.DepletionSound
import Mathlib.Data.Set.Finite.Lattice

/-!
# Readings without a state of charge

The job takes a state of charge that is missing for an empty battery. Unless
the load is covered, or the capacity or a negative threshold keeps the alarm
off, an evaluation of such a reading can save a battery alert.
-/

namespace IntellApi.AlertDetection

open Alerts Lts
open JsNumber (num roundRat)

/-! ## The condition -/

/-- Nothing runs an empty battery down: no load is left, or the capacity is too
small to be looked at, or a negative threshold leaves more than an hour. -/
def NoDrain (inverter : Inverter) (settings : Option UserSettings) (metric : NormalisedMetric) : Prop :=
  let net := netLoad (metric.acOutputPowerKw.getD 0) (metric.solarPowerKw.getD 0)
  let capacity := inverter.ratedCapacityKwh
  let threshold : ℚ := depletionThreshold settings
  net ≤ 0 ∨ 0 < capacity ∧ capacity < 2 / 100 ∨
    2 / 100 ≤ capacity ∧ threshold < 0 ∧ num (60 + 5 / 1000) * net ≤ num (-threshold / 100 * capacity * 60)

variable {capacity threshold : ℚ} {rated load solar : JsNumber}

theorem severityOfMinutes_none {minutes : ℚ} : severityOfMinutes minutes = none ↔ 60 < minutes := by
  unfold severityOfMinutes
  by_cases h30 : minutes < 30
  · simp [h30, show minutes ≤ 60 by linarith]
  · by_cases h60 : minutes ≤ 60
    · simp [h30, h60]
    · simp [h30, h60, not_le.mp h60]

theorem hour_lt_round {minutes : ℚ} : 60 < (roundRat (minutes * 100) : ℚ) / 100 ↔ 60 + 5 / 1000 ≤ minutes := by
  have hcast : 60 < (roundRat (minutes * 100) : ℚ) / 100 ↔ 6001 ≤ roundRat (minutes * 100) := by
    rw [lt_div_iff₀ (by norm_num)]
    norm_num
    exact_mod_cast Int.lt_iff_add_one_le
  rw [hcast, JsNumber.roundRat, Int.le_floor]
  constructor
  · intro h
    push_cast at h
    linarith
  · intro h
    push_cast
    linarith

theorem hour_left_iff {usable net : ℚ} (hnet : 0 < net) :
    severityOfMinutes ((roundRat (usable / net * 60 * 100) : ℚ) / 100) = none ↔
      (60 + 5 / 1000) * net ≤ usable * 60 := by
  rw [severityOfMinutes_none, hour_lt_round, div_mul_eq_mul_div, le_div_iff₀ hnet]

theorem no_minutes_critical :
    (shouldFireAlert (some (round2 (0 * 60))) false).map (·.severity) = some .critical := by
  decide +kernel

/-- What an empty battery takes to raise no alert. -/
theorem severity_empty : severity ⟨num 0, load, num capacity, solar, rated⟩ (num threshold) = none ↔
    netLoad load solar ≤ 0 ∨ 0 < capacity ∧ capacity < 2 / 100 ∨
      2 / 100 ≤ capacity ∧ threshold < 0 ∧
        num (60 + 5 / 1000) * netLoad load solar ≤ num (-threshold / 100 * capacity * 60) := by
  have husable : usablePercent 0 threshold = -threshold := by
    unfold usablePercent
    norm_num
  rw [severity_eq, husable]
  by_cases hnet : netLoad load solar ≤ 0
  · simp [hnet]
  · by_cases hc : capacity ≤ 0
    · simp [hnet, hc, not_lt.mpr hc, show ¬ 2 / 100 ≤ capacity by linarith]
    · by_cases hsmall : capacity < 2 / 100
      · simp [hc, hsmall, not_le.mp hc]
      · by_cases ht : 0 ≤ threshold
        · simp [hnet, hc, hsmall, ht]
        · simp only [hnet, hc, hsmall, ht, if_false, false_or, and_false, Left.neg_nonpos_iff, not_lt.mp hsmall,
            not_le.mp ht, true_and]
          cases hl : netLoad load solar with
          | nan =>
            rw [if_neg (JsNumber.not_lt_nan 0), no_minutes_critical, JsNumber.mul_nan]
            simp [JsNumber.not_nan_le]
          | inf neg =>
            cases neg with
            | true => exact absurd (hl ▸ rfl) hnet
            | false =>
              have hinf : num (60 + 5 / 1000) * JsNumber.inf false = .inf false := by decide +kernel
              have hzero : num (-threshold / 100 * capacity) / JsNumber.inf false = 0 := congrArg num Nat.cast_zero.symm
              rw [if_pos (show (0 : JsNumber) < .inf false from rfl), hzero, no_minutes_critical, hinf]
              exact iff_of_false (fun h => by cases h) (fun h => by cases h)
          | num net =>
            have hzero : (0 : JsNumber) = num 0 := congrArg num Nat.cast_zero
            have hpos : 0 < net := by
              rw [hl, hzero, JsNumber.num_le] at hnet
              exact not_le.mp hnet
            have hlt : 0 < num net := by
              rw [hzero]
              simp [hpos]
            have hsixty : (60 : JsNumber) = num 60 := congrArg num Nat.cast_ofNat
            rw [if_pos hlt, JsNumber.num_div _ _ hpos.ne', hsixty, JsNumber.num_mul, round2_num, shouldFireAlert_num,
              JsNumber.num_mul, JsNumber.num_le]
            exact hour_left_iff hpos

/-! ## The candidates -/

variable {inverter : Inverter} {settings : Option UserSettings} {metric : NormalisedMetric}

def ForBattery (c : Candidate) : Prop := c.alertType = .batteryPercentage

/-- The battery alert comes first, and the other two are none. -/
theorem evaluateInverter_null (hsoc : metric.batterySoc = .null) : ∃ others : List Candidate,
    (∀ c ∈ others, ¬ ForBattery c) ∧
      evaluateInverter inverter settings metric =
        ((severity ⟨num 0, metric.acOutputPowerKw.getD 0, num inverter.ratedCapacityKwh, metric.solarPowerKw.getD 0,
          num inverter.panelCapacityKw⟩ (num (depletionThreshold settings))).map (Candidate.mk .batteryPercentage)).toList
          ++ others := by
  let panelCapacityKw := num inverter.panelCapacityKw
  refine ⟨((shouldFireSolarAlert metric.solarPowerKw panelCapacityKw).map fun i => ⟨.solarGen, i.severity⟩).toList ++
    ((shouldFireHighLoadAlert metric.acOutputPowerKw panelCapacityKw).map fun i => ⟨.power, i.severity⟩).toList,
    fun c hc hb => ?_, ?_⟩
  · rcases List.mem_append.mp hc with hc | hc
    · obtain ⟨info, -, rfl⟩ := Option.map_eq_some_iff.mp (Option.mem_toList.mp hc)
      cases hb
    · obtain ⟨info, -, rfl⟩ := Option.map_eq_some_iff.mp (Option.mem_toList.mp hc)
      cases hb
  · unfold evaluateInverter severity
    rw [Option.map_map, List.append_assoc, hsoc]
    rfl

theorem noDrain_iff (hsoc : metric.batterySoc = .null) :
    NoDrain inverter settings metric ↔ ∀ c ∈ evaluateInverter inverter settings metric, ¬ ForBattery c := by
  obtain ⟨others, hothers, he⟩ := @evaluateInverter_null inverter settings metric hsoc
  rw [NoDrain, ← severity_empty, he]
  constructor
  · intro h c hc
    rw [h] at hc
    exact hothers c hc
  · intro h
    by_contra hne
    obtain ⟨fired, hf⟩ := Option.ne_none_iff_exists'.mp hne
    refine h ⟨.batteryPercentage, fired⟩ ?_ rfl
    rw [hf]
    exact List.mem_cons_self

/-! ## What the evaluation saves -/

/-- The steps of evaluation `p`. -/
def OfEvaluation (p : Nat) : Action → Prop
  | .findInverter q _ | .loadSettings q _ | .isDuplicate q _ | .save q _ | .add q _ => q = p
  | _ => False

def batteryAlerts (s : State) : List (Nat × Alert) := s.alerts.filter (·.2.type = .batteryPercentage)

/-- Where an evaluation without a battery alert can be. -/
def Batteryless (userSettings : Uuid → Option UserSettings) : Evaluation → Prop
  | .findingInverter _ => False
  | .loadingSettings inverter metric =>
    ∀ c ∈ evaluateInverter inverter (userSettings inverter.userId) metric, ¬ ForBattery c
  | .checking _ _ todo | .enqueuing _ _ _ todo => ∀ c ∈ todo, ¬ ForBattery c
  | .saving _ _ c _ todo => ¬ ForBattery c ∧ ∀ c ∈ todo, ¬ ForBattery c
  | .done | .unhandledRejection => True

variable {inverters : Uuid → Option Inverter} {userSettings : Uuid → Option UserSettings} {s t u : State} {p : Nat}
  {a : Action} {e e' : Evaluation}

theorem batteryless_moves (h : Batteryless userSettings e) (hm : Moves inverters userSettings e e') :
    Batteryless userSettings e' := by
  cases hm with
  | found | rejected => exact h.elim
  | loaded | added => exact h
  | duplicate userId settings c todo => exact fun x hx => h x (List.mem_cons_of_mem c hx)
  | looked userId settings c now todo =>
    exact ⟨h c List.mem_cons_self, fun x hx => h x (List.mem_cons_of_mem c hx)⟩
  | saved => exact h.2
  | ended => trivial

theorem batteryAlerts_kept (h : At (Batteryless userSettings) t p) (ha : OfEvaluation p a)
    (hc : Change inverters userSettings t a u) : batteryAlerts u = batteryAlerts t := by
  have inserted : ∀ {userId settings c now todo},
      t.evaluations[p]? = some (.saving userId settings c now todo) →
      batteryAlerts (t.insert userId settings c now) = batteryAlerts t := by
    intro userId settings c now todo hp
    obtain ⟨e, he, hb⟩ := h
    cases he.symm.trans hp
    have hne : c.alertType ≠ .batteryPercentage := hb.1
    exact List.filter_cons_of_neg (mt of_decide_eq_true hne)
  cases hc with
  | tick | resolved | malformed | null | started => exact ha.elim
  | found | rejected | loaded | duplicate | looked | added | addFailed | ended => rfl
  | saved q userId settings c now todo job hq =>
    cases ha
    exact inserted hq
  | unscheduled q userId settings c now todo hq =>
    cases ha
    exact inserted hq

/-! ## A run that saves it -/

theorem resolve_all (ids : List Nat) (s : State) : ∃ t, (machine inverters userSettings).Path Free s t ∧
    t.evaluations = s.evaluations ∧ t.alerts.map (·.1) = s.alerts.map (·.1) ∧
    ∀ r ∈ t.alerts, r.1 ∈ ids → r.2.resolutionStatus = some .resolved := by
  induction ids with
  | nil => exact ⟨s, .refl, rfl, rfl, fun r _ hr => by cases hr⟩
  | cons id ids ih =>
    obtain ⟨t, ht, he, hids, hr⟩ := ih
    refine ⟨_, ht.snoc (a := .markAsResolved id) trivial rfl, he, ?_, fun r' hm hid => ?_⟩
    · rw [← hids]
      show (t.alerts.map _).map _ = _
      rw [List.map_map]
      apply List.map_congr_left
      intro r _
      by_cases h : r.1 = id <;> simp [h]
    · obtain ⟨r, hrt, rfl⟩ := List.mem_map.mp hm
      by_cases h : r.1 = id
      · simp [h, resolve]
      · rw [if_neg h] at hid ⊢
        exact hr r hrt ((List.mem_cons.mp hid).resolve_left h)

theorem isDuplicate_settled {rows : List Alert} {now minutes : Int} {input : DuplicateCheckInput}
    (hr : ∀ a ∈ rows, a.resolutionStatus = some .resolved)
    (hn : ∀ a ∈ rows, minutes * 60 * 1000 ≤ now - getTime a.createdAt) :
    (Alerts.isDuplicate rows now input minutes).isDuplicate = false := by
  unfold Alerts.isDuplicate
  cases hl : latestAlert rows input.userId input.type with
  | none => rfl
  | some a =>
    have hm : a ∈ rows := List.mem_of_mem_filter (Sql.newest_mem hl)
    have := hn a hm
    simp only [hr a hm]
    split
    · rfl
    · rw [if_neg (by omega), if_neg (by simp)]

/-- In time every alert is resolved and old enough. -/
theorem settle (ms : Int) (s : State) : ∃ t, (machine inverters userSettings).Path Free s t ∧
    t.evaluations = s.evaluations ∧ (∀ a ∈ t.rows, a.resolutionStatus = some .resolved) ∧
    ∀ a ∈ t.rows, ms ≤ t.now - getTime a.createdAt := by
  obtain ⟨t, ht, he, hids, hr⟩ := @resolve_all inverters userSettings (s.alerts.map (·.1)) s
  obtain ⟨latest, hlatest⟩ :=
    ((Multiset.finite_toSet (t.rows : Multiset Alert)).image fun a => getTime a.createdAt).bddAbove
  refine ⟨_, ht.snoc (a := .tick ((ms + latest + 1) * 1000 - t.clock).toNat) trivial rfl, he, ?_, ?_⟩
  · intro a ha
    obtain ⟨r, hm, rfl⟩ := List.mem_map.mp ha
    refine hr r hm ?_
    rw [← hids]
    exact List.mem_map_of_mem hm
  · intro a ha
    have : getTime a.createdAt ≤ latest := hlatest ⟨a, ha, rfl⟩
    simp only [State.now, getTime] at this ⊢
    omega

theorem saves_battery {userId : Uuid} {settings : Option UserSettings} {c : Candidate} {todo : List Candidate}
    (hp : s.evaluations[p]? = some (.checking userId settings (c :: todo))) (hc : ForBattery c) :
    ∃ t u, (machine inverters userSettings).Path Free s t ∧ step inverters userSettings t (.save p true) = some u ∧
      batteryAlerts u ≠ batteryAlerts t := by
  obtain ⟨t, ht, he, hr, hn⟩ := @settle inverters userSettings (cooldown settings * 60 * 1000) s
  have hp' : t.evaluations[p]? = some (.checking userId settings (c :: todo)) := by rw [he, hp]
  have hlook : step inverters userSettings t (.isDuplicate p true) =
      some (t.set p (.saving userId settings c t.now todo)) := by
    simp [step, hp', isDuplicate_settled hr hn]
  have hsaving : (t.set p (.saving userId settings c t.now todo)).evaluations[p]? =
      some (.saving userId settings c t.now todo) :=
    Calls.getElem?_set_own hp'
  have hsave : ∃ u,
      step inverters userSettings (t.set p (.saving userId settings c t.now todo)) (.save p true) = some u ∧
      u.alerts = (t.alerts.length, newAlert userId settings c t.now t.clock) :: t.alerts := by
    simp only [step, hsaving, if_true]
    split
    · split
      · exact ⟨_, rfl, rfl⟩
      · exact ⟨_, rfl, rfl⟩
    · exact ⟨_, rfl, rfl⟩
  obtain ⟨u, hu, ha⟩ := hsave
  refine ⟨_, u, ht.snoc (a := .isDuplicate p true) trivial hlook, hu, ?_⟩
  have hb : (newAlert userId settings c t.now t.clock).type = .batteryPercentage := hc
  unfold batteryAlerts
  rw [ha, List.filter_cons_of_pos (by simp [hb])]
  exact fun h => List.cons_ne_self _ _ h

/-! ## Results -/

/-- An evaluation of a reading without a state of charge saves no battery alert,
whatever else happens, exactly when nothing drains an empty battery. -/
theorem no_battery_alert_iff {inverter : Inverter} {metric : NormalisedMetric}
    (hp : s.evaluations[p]? = some (.loadingSettings inverter metric)) (hsoc : metric.batterySoc = .null) :
    (∀ t a u, (machine inverters userSettings).Path Free s t → OfEvaluation p a →
      step inverters userSettings t a = some u → batteryAlerts u = batteryAlerts t) ↔
      NoDrain inverter (userSettings inverter.userId) metric := by
  constructor
  · intro h
    by_contra hn
    obtain ⟨others, hothers, he⟩ := @evaluateInverter_null inverter (userSettings inverter.userId) metric hsoc
    have hload : step inverters userSettings s (.loadSettings p true) =
        some (s.set p (.checking inverter.userId (userSettings inverter.userId)
          (evaluateInverter inverter (userSettings inverter.userId) metric))) := by
      simp [step, hp]
    obtain ⟨fired, hf⟩ := Option.ne_none_iff_exists'.mp (fun h => hn (severity_empty.mp h))
    rw [hf] at he
    have hchecking : (s.set p (.checking inverter.userId (userSettings inverter.userId)
        (evaluateInverter inverter (userSettings inverter.userId) metric))).evaluations[p]? =
        some (.checking inverter.userId (userSettings inverter.userId) (⟨.batteryPercentage, fired⟩ :: others)) := by
      rw [he]
      exact Calls.getElem?_set_own hp
    obtain ⟨t, u, ht, hu, hne⟩ := saves_battery hchecking rfl
    exact hne (h t (.save p true) u (.cons (a := .loadSettings p true) trivial hload ht) rfl hu)
  · intro hn t a u ht ha hs
    refine batteryAlerts_kept ?_ ha (change_of_step hs)
    refine ht.keep (I := fun s => At (Batteryless userSettings) s p) (fun s a t h _ hs => ?_) ?_
    · exact h.change (fun _ _ => batteryless_moves) (change_of_step hs)
    · exact ⟨_, hp, (noDrain_iff hsoc).mp hn⟩

/-- 10 kWh, of which the reading says nothing. -/
def batteryInverter : Inverter := ⟨7, 1, .growatt, true, false, 10, 5⟩

def withoutSoc (solarPowerKw acOutputPowerKw : ℚ) : NormalisedMetric :=
  ⟨7, .number (num solarPowerKw), .number (num acOutputPowerKw), .null⟩

theorem no_battery_alert_covered : ∃ t u,
    (machine (fun _ => none) fun _ => none).run ⟨0, [], [], [.loadingSettings batteryInverter (withoutSoc 3 2)]⟩
      [.loadSettings 0 true] = some t ∧
    step (fun _ => none) (fun _ => none) t (.isDuplicate 0 true) = some u ∧ u.evaluations = [.done] ∧
    batteryAlerts u = batteryAlerts t := by
  let M := machine (fun _ => none) fun _ => none
  have h0 : ((M.run ⟨0, [], [], [.loadingSettings batteryInverter (withoutSoc 3 2)]⟩ [.loadSettings 0 true]).bind fun t =>
      (M.step t (.isDuplicate 0 true)).map (·.evaluations)) = some [.done] := by decide +kernel
  obtain ⟨t, ht, h0⟩ := Option.bind_eq_some_iff.mp h0
  obtain ⟨u, hu, he⟩ := Option.map_eq_some_iff.mp h0
  exact ⟨t, u, ht, hu, he, (no_battery_alert_iff rfl rfl).mpr (.inl (by decide +kernel)) t (.isDuplicate 0 true) u
    (Machine.path_of_run ht) rfl hu⟩

theorem missing_soc_critical : ¬ ∀ inverters userSettings s p inverter metric,
    (machine inverters userSettings).Reach Free s → s.evaluations[p]? = some (.loadingSettings inverter metric) →
    metric.batterySoc = .null → ∀ t a u, (machine inverters userSettings).Path Free s t → OfEvaluation p a →
    step inverters userSettings t a = some u → batteryAlerts u = batteryAlerts t := by
  intro h
  let M := machine (fun _ => some batteryInverter) fun _ => none
  have h0 : ((M.run init [.handleMetricMessage (.metric (withoutSoc 0 2)), .findInverter 0 true]).bind fun s =>
      (M.run s [.loadSettings 0 true, .isDuplicate 0 true]).bind fun t => (M.step t (.save 0 true)).map fun u =>
        (s.evaluations, batteryAlerts t, (batteryAlerts u).map (·.2.severity))) =
      some ([.loadingSettings batteryInverter (withoutSoc 0 2)], [], [.critical]) := by decide +kernel
  obtain ⟨s, hs, h0⟩ := Option.bind_eq_some_iff.mp h0
  obtain ⟨t, ht, h0⟩ := Option.bind_eq_some_iff.mp h0
  obtain ⟨u, hu, h0⟩ := Option.map_eq_some_iff.mp h0
  simp only [Prod.mk.injEq] at h0
  obtain ⟨he, hbt, hbu⟩ := h0
  have hkept := h _ _ s 0 batteryInverter (withoutSoc 0 2) (Machine.path_of_run hs) (by rw [he]; rfl) rfl t (.save 0 true) u
    (Machine.path_of_run ht) rfl hu
  rw [hkept, hbt] at hbu
  cases hbu

end IntellApi.AlertDetection
