import IntellApi.FetchOutages
import IntellApi.MetricEventsSound
import IntellApi.PollOutcomes

/-!
# A round of polls

The polls of a round interleave, and a step of one of them is seen by its own
inverter only. What a round leaves for an inverter is therefore what polling it
alone would leave.
-/

namespace IntellApi.MetricsPolls

open Function Alerts MetricEvents MetricsPoller Lts

/-! ## What concerns one inverter -/

structure View where
  failureCount : Option Nat
  metrics : List InvertersMetrics
  published : List NormalisedMetric

def View.add (v : View) (r : Polled) : View :=
  ⟨r.failureCount, r.row.toList ++ v.metrics, v.published ++ r.message.toList⟩

def State.view (s : State) (id : Uuid) : View :=
  ⟨s.poller.failureCounts id, s.metrics.filter (·.inverterId = id), s.published.filter (·.inverterId = id)⟩

section
variable {s : State} {id inverterId : Uuid} {n k : Nat} {poll : Poll} {row : InvertersMetrics}
  {metric : NormalisedMetric}

theorem view_setFailureCount : (s.setFailureCount id n).view id = { s.view id with failureCount := some n } := by
  show View.mk (update s.poller.failureCounts id (some n) id) _ _ = _
  rw [update_self]
  rfl

theorem view_setFailureCount_of_ne (h : id ≠ inverterId) : (s.setFailureCount inverterId n).view id = s.view id := by
  show View.mk (update s.poller.failureCounts inverterId (some n) id) _ _ = _
  rw [update_of_ne h]
  rfl

theorem view_save (h : row.inverterId = id) :
    State.view { s with metrics := row :: s.metrics } id =
      { s.view id with metrics := row :: (s.view id).metrics } := by
  show View.mk _ ((row :: s.metrics).filter (·.inverterId = id)) _ = _
  rw [List.filter_cons_of_pos (by simpa using h)]
  rfl

theorem view_save_of_ne (h : row.inverterId ≠ id) :
    State.view { s with metrics := row :: s.metrics } id = s.view id := by
  show View.mk _ ((row :: s.metrics).filter (·.inverterId = id)) _ = _
  rw [List.filter_cons_of_neg (by simpa using h)]
  rfl

theorem view_publish (h : metric.inverterId = id) :
    State.view { s with published := s.published ++ [viaJson metric] } id =
      { s.view id with published := (s.view id).published ++ [viaJson metric] } := by
  show View.mk _ _ ((s.published ++ [viaJson metric]).filter (·.inverterId = id)) = _
  have hm : (viaJson metric).inverterId = id := h
  rw [List.filter_append, List.filter_cons_of_pos (by simpa using hm), List.filter_nil]
  rfl

theorem view_publish_of_ne (h : metric.inverterId ≠ id) :
    State.view { s with published := s.published ++ [viaJson metric] } id = s.view id := by
  show View.mk _ _ ((s.published ++ [viaJson metric]).filter (·.inverterId = id)) = _
  have hm : (viaJson metric).inverterId ≠ id := h
  rw [List.filter_append, List.filter_cons_of_neg (by simpa using hm), List.filter_nil, List.append_nil]
  rfl

end

/-! ## What is left of a poll -/

/-- The poll has returned; the alert that it fired goes on by itself. -/
def Phase.Returned : Phase → Prop
  | .findingRecentAlert _ | .savingAlert _ | .addingJob _ | .finished => True
  | _ => False

def Phase.metric : Phase → Option NormalisedMetric
  | .markingOnline metric | .saving metric | .publishing metric => some metric
  | _ => none

namespace PollOne

/-- What will be there for an inverter when its poll has returned. -/
def rest (p : PollOne) (inverterId : Uuid) (o : Outcome) (v : View) : Phase → View
  | .fetching => v.add (p.poll inverterId { o with decrypted := true } v.failureCount)
  | .markingOnline metric =>
    if o.markedOnline then
      v.add ⟨v.failureCount, [], (persistAndPublish metric o).1, (persistAndPublish metric o).2⟩
    else v.add (fetchFailed o v.failureCount [])
  | .saving metric => v.add ⟨v.failureCount, [], (persistAndPublish metric o).1, (persistAndPublish metric o).2⟩
  | .publishing metric => v.add ⟨v.failureCount, [], none, if o.published then some (viaJson metric) else none⟩
  | _ => v

section
variable {p : PollOne} {inverterId : Uuid} {o : Outcome} {v : View} {metric : NormalisedMetric} {row : InvertersMetrics}
  {phase : Phase}

theorem rest_returned (h : phase.Returned) : p.rest inverterId o v phase = v := by
  cases phase with
  | findingRecentAlert | savingAlert | addingJob | finished => rfl
  | _ => cases h

theorem add_fetchFailed (calls : List Call) (n : Option Nat) : v.add (fetchFailed o n calls) =
    { v with failureCount := some (n.getD 0 + 1) } :=
  congrArg (View.mk _ _) (List.append_nil _)

theorem rest_fetched (h : o.fetched = some metric) : p.rest inverterId o v .fetching =
    p.rest inverterId o { v with failureCount := some 0 } (.markingOnline (p.reading inverterId metric)) := by
  simp only [rest, poll, h, if_true]
  by_cases hm : o.markedOnline = true
  · rw [if_pos hm, if_pos hm]
    rfl
  · rw [if_neg hm, if_neg hm, add_fetchFailed, add_fetchFailed]

theorem rest_fetchFailed (h : o.fetched = none) : p.rest inverterId o v .fetching =
    { v with failureCount := some (v.failureCount.getD 0 + 1) } := by
  simp only [rest, poll, h, if_true]
  exact add_fetchFailed _ _

theorem rest_markedOnline (h : o.markedOnline = true) :
    p.rest inverterId o v (.markingOnline metric) = p.rest inverterId o v (.saving metric) :=
  if_pos h

theorem rest_markOnlineFailed (h : o.markedOnline = false) : p.rest inverterId o v (.markingOnline metric) =
    { v with failureCount := some (v.failureCount.getD 0 + 1) } :=
  (if_neg (by simp [h])).trans (add_fetchFailed _ _)

theorem rest_saved (h : o.saved = true) (hr : MetricEvents.save metric = some row) :
    p.rest inverterId o v (.saving metric) =
      p.rest inverterId o { v with metrics := row :: v.metrics } (.publishing metric) := by
  simp only [rest, persistAndPublish, h, hr]
  rfl

theorem rest_saveFailed (h : o.saved = true → MetricEvents.save metric = none) :
    p.rest inverterId o v (.saving metric) = v := by
  have hs : persistAndPublish metric o = (none, none) := by
    unfold persistAndPublish
    split
    · rename_i hs hr
      rw [h hs] at hr
      cases hr
    · rfl
  simp only [rest, hs]
  exact congrArg (View.mk _ _) (List.append_nil _)

theorem rest_published (h : o.published = true) : p.rest inverterId o v (.publishing metric) =
    { v with published := v.published ++ [viaJson metric] } := by
  simp only [rest, h, if_true]
  rfl

theorem rest_publishFailed (h : o.published = false) : p.rest inverterId o v (.publishing metric) = v := by
  simp only [rest, h, Bool.false_eq_true, if_false]
  exact congrArg (View.mk _ _) (List.append_nil _)

end

end PollOne

/-! ## Steps of a round -/

def Deregisters : MetricsPoller.Event → Prop
  | .poller (.deliver raw) => (raw.bind isValidControlMessage).map (·.event) = some .deregistered
  | _ => False

/-- The calls answer what `o` says; no other round starts, and no inverter is deregistered meanwhile. -/
def Follows (o : Uuid → Outcome) (s : State) : Action → Prop
  | .fetchMetrics k answer => ∀ poll ∈ s.polls[k]?, answer = (o poll.inverter.id).fetched
  | .markOnline k ok => ∀ poll ∈ s.polls[k]?, ok = (o poll.inverter.id).markedOnline
  | .markOffline k ok => ∀ poll ∈ s.polls[k]?, ok = (o poll.inverter.id).markedOffline
  | .save k ok => ∀ poll ∈ s.polls[k]?, ok = (o poll.inverter.id).saved
  | .publish k ok => ∀ poll ∈ s.polls[k]?, ok = (o poll.inverter.id).published
  | .poll _ _ => False
  | .base e => ¬ Deregisters e
  | .tick _ | .findRecentAlert _ _ | .saveAlert _ _ | .add _ _ => True

/-- The readings say which inverter they are of: two adapters are told, and two polls write it. -/
def OwnReadings (brand : InverterBrand) (o : Uuid → Outcome) : Prop :=
  ∀ id metric, (o id).fetched = some metric → ((pollOne brand).reading id metric).inverterId = id

/-- What `fetchMetrics` makes of a cloud's answer: the adapters that are told the
inverter write it down, the others leave it to the poll. -/
def fetchMetrics : InverterBrand → Uuid → NormalisedMetric → NormalisedMetric
  | .victron, inverterId, answer | .sandbox, inverterId, answer | .deye, inverterId, answer => { answer with inverterId }
  | .growatt, _, answer | .sunsynk, _, answer => answer

theorem ownReadings_of_fetchMetrics {brand : InverterBrand} {o : Uuid → Outcome}
    (h : ∀ id, ∃ answer : Option NormalisedMetric, (o id).fetched = answer.map (fetchMetrics brand id)) :
    OwnReadings brand o := by
  intro id metric hm
  obtain ⟨answer, ha⟩ := h id
  obtain ⟨metric, -, rfl⟩ := Option.map_eq_some_iff.mp (ha.symm.trans hm)
  cases brand with
  | victron | growatt | sunsynk | deye | sandbox => rfl

/-- What a step does to the poll it resumes: the outcome stays what it will be,
and no other inverter sees the step. -/
structure Turn (o : Uuid → Outcome) (poll : Poll) (s s' : State) (phase : Phase) : Prop where
  rest : (pollOne poll.brand).rest poll.inverter.id (o poll.inverter.id) (s'.view poll.inverter.id) phase =
    (pollOne poll.brand).rest poll.inverter.id (o poll.inverter.id) (s.view poll.inverter.id) poll.phase
  frame : ∀ id, id ≠ poll.inverter.id → s'.view id = s.view id
  returned : poll.phase.Returned → phase.Returned
  readings : ∀ metric ∈ phase.metric, metric.inverterId = poll.inverter.id

section
variable {brandOf : Uuid → InverterBrand} {s s' : State} {a : Action} {k : Nat} {poll : Poll} {o : Uuid → Outcome}
  {id : Uuid}

theorem turn_of_view {phase : Phase} (hv : ∀ id, s'.view id = s.view id)
    (hr : (pollOne poll.brand).rest poll.inverter.id (o poll.inverter.id) (s.view poll.inverter.id) phase =
      (pollOne poll.brand).rest poll.inverter.id (o poll.inverter.id) (s.view poll.inverter.id) poll.phase)
    (hret : poll.phase.Returned → phase.Returned) (hm : ∀ metric ∈ phase.metric, metric.inverterId = poll.inverter.id) :
    Turn o poll s s' phase where
  rest := by
    rw [hv]
    exact hr
  frame id _ := hv id
  returned := hret
  readings := hm

/-- The catch block counts, and the poll keeps no reading. -/
theorem turn_of_fetchFailed (hk : s.polls[k]? = some poll) (hp : ¬ poll.phase.Returned)
    (hr : (pollOne poll.brand).rest poll.inverter.id (o poll.inverter.id) (s.view poll.inverter.id) poll.phase =
      { s.view poll.inverter.id with
        failureCount := some ((s.view poll.inverter.id).failureCount.getD 0 + 1) }) :
    ∃ phase, (s.fetchFailed k poll).polls[k]? = some { poll with phase } ∧
      Turn o poll s (s.fetchFailed k poll) phase := by
  have hview : (s.fetchFailed k poll).view poll.inverter.id = { s.view poll.inverter.id with
      failureCount := some ((s.view poll.inverter.id).failureCount.getD 0 + 1) } := view_setFailureCount
  have turn : ∀ phase : Phase, phase = .markingOffline ∨ phase = .finished →
      Turn o poll s (s.fetchFailed k poll) phase := by
    intro phase hphase
    refine ⟨?_, fun id hne => view_setFailureCount_of_ne hne, fun hx => absurd hx hp, fun metric hm => ?_⟩
    · rw [hr, ← hview]
      rcases hphase with rfl | rfl
      · rfl
      · rfl
    · rcases hphase with rfl | rfl
      · cases hm
      · cases hm
  rcases getElem?_fetchFailed hk with ⟨-, hf⟩ | ⟨-, hf⟩
  · exact ⟨_, hf, turn _ (.inl rfl)⟩
  · exact ⟨_, hf, turn _ (.inr rfl)⟩

/-- A step after which at most the alert is left. -/
theorem turn_of_returned {phase : Phase} (hv : ∀ id, s'.view id = s.view id) (hphase : phase.Returned)
    (hr : (pollOne poll.brand).rest poll.inverter.id (o poll.inverter.id) (s.view poll.inverter.id) poll.phase =
      s.view poll.inverter.id) : Turn o poll s s' phase := by
  refine turn_of_view hv ?_ (fun _ => hphase) fun metric hx => ?_
  · rw [PollOne.rest_returned hphase, hr]
  · cases phase with
    | findingRecentAlert | savingAlert | addingJob | finished => cases hx
    | _ => cases hphase

theorem turn_of_own (hc : Change brandOf s a s') (hn : a.poll? = some k) (hf : Follows o s a)
    (hk : s.polls[k]? = some poll) (ho : poll.phase.Returned ∨ OwnReadings poll.brand o)
    (hm : ∀ metric ∈ poll.phase.metric, metric.inverterId = poll.inverter.id) :
    ∃ phase, s'.polls[k]? = some { poll with phase } ∧ Turn o poll s s' phase := by
  cases hc with
  | tick | base | poll => cases hn
  | fetched k' poll' metric hq hp =>
    cases hn
    cases hk.symm.trans hq
    have hanswer := (hf poll hk).symm
    have hown : OwnReadings poll.brand o := by
      rcases ho with hr | ho
      · rw [hp] at hr
        cases hr
      · exact ho
    refine ⟨_, getElem?_setPhase hk _, ?_, fun id hne => view_setFailureCount_of_ne hne, fun hr => ?_,
      fun reading he => ?_⟩
    · rw [hp, PollOne.rest_fetched hanswer]
      exact congrArg (fun v => (pollOne poll.brand).rest _ _ v _) view_setFailureCount
    · rw [hp] at hr
      cases hr
    · cases he
      exact hown poll.inverter.id metric hanswer
  | fetchFailed k' poll' hq hp =>
    cases hn
    cases hk.symm.trans hq
    refine turn_of_fetchFailed hk (by rw [hp]; exact id) ?_
    rw [hp]
    exact PollOne.rest_fetchFailed (hf poll hk).symm
  | markOnlineFailed k' poll' metric hq hp =>
    cases hn
    cases hk.symm.trans hq
    refine turn_of_fetchFailed hk (by rw [hp]; exact id) ?_
    rw [hp]
    exact PollOne.rest_markOnlineFailed (hf poll hk).symm
  | markedOnline k' poll' metric hq hp =>
    cases hn
    cases hk.symm.trans hq
    rw [hp] at hm
    refine ⟨_, getElem?_setPhase hk _, turn_of_view (fun _ => rfl) ?_ (fun hr => ?_) hm⟩
    · rw [hp]
      exact (PollOne.rest_markedOnline (hf poll hk).symm).symm
    · rw [hp] at hr
      cases hr
  | markedOffline k' poll' hq hp =>
    cases hn
    cases hk.symm.trans hq
    refine ⟨_, getElem?_setPhase hk _, turn_of_returned (fun _ => rfl) trivial ?_⟩
    rw [hp]
    rfl
  | markOfflineFailed k' poll' hq hp =>
    cases hn
    cases hk.symm.trans hq
    refine ⟨_, getElem?_setPhase hk _, turn_of_returned (fun _ => rfl) trivial ?_⟩
    rw [hp]
    rfl
  | saved k' poll' metric row hq hp hrow =>
    cases hn
    cases hk.symm.trans hq
    rw [hp] at hm
    have hid : row.inverterId = poll.inverter.id := (saved_of_save hrow).inverterId.trans (hm metric rfl)
    refine ⟨_, getElem?_setPhase hk _, ?_,
      fun id hne => view_save_of_ne (s := s) fun he => hne (he.symm.trans hid), fun hr => ?_, hm⟩
    · rw [hp, PollOne.rest_saved (hf poll hk).symm hrow]
      exact congrArg (fun v => (pollOne poll.brand).rest _ _ v _) (view_save (s := s) hid)
    · rw [hp] at hr
      cases hr
  | saveFailed k' ok poll' metric hq hp hsave =>
    cases hn
    cases hk.symm.trans hq
    refine ⟨_, getElem?_setPhase hk _, turn_of_returned (fun _ => rfl) trivial ?_⟩
    rw [hp]
    exact PollOne.rest_saveFailed fun he => hsave ((hf poll hk).trans he)
  | published k' poll' metric hq hp =>
    cases hn
    cases hk.symm.trans hq
    rw [hp] at hm
    have hid := hm metric rfl
    refine ⟨_, getElem?_setPhase hk _, ?_,
      fun id hne => view_publish_of_ne (s := s) fun he => hne (he.symm.trans hid), fun _ => trivial,
      fun metric hx => ?_⟩
    · rw [hp, PollOne.rest_published (hf poll hk).symm]
      exact view_publish (s := s) hid
    · cases hx
  | publishFailed k' poll' metric hq hp =>
    cases hn
    cases hk.symm.trans hq
    refine ⟨_, getElem?_setPhase hk _, turn_of_returned (fun _ => rfl) trivial ?_⟩
    rw [hp]
    exact PollOne.rest_publishFailed (hf poll hk).symm
  | foundRecentAlert k' ok poll' now phase hq hp he =>
    cases hn
    cases hk.symm.trans hq
    have hphase : phase.Returned := by
      rw [he]
      split
      · trivial
      · trivial
    refine ⟨_, getElem?_setPhase hk _, turn_of_returned (fun _ => rfl) hphase ?_⟩
    rw [hp]
    rfl
  | savedAlert k' poll' now hq hp | saveAlertFailed k' poll' now hq hp | added k' poll' alertId hq hp
  | addFailed k' poll' alertId hq hp =>
    cases hn
    cases hk.symm.trans hq
    refine ⟨_, getElem?_setPhase hk _, turn_of_returned (fun _ => rfl) trivial ?_⟩
    rw [hp]
    rfl

theorem getElem?_back (hf : Follows o s a) (hc : Change brandOf s a s') (hk : s'.polls[k]? = some poll)
    (hn : a.poll? ≠ some k) : s.polls[k]? = some poll := by
  rcases getElem?_before hc hk hn with hk | ⟨-, ⟨brand, decrypted, rfl⟩, -⟩
  · exact hk
  · exact absurd hf id

theorem failureCounts_of_not_deregisters {e : MetricsPoller.Event} {base : MetricsPoller.State} (hd : ¬ Deregisters e)
    (hb : MetricsPoller.step brandOf s.toState e = some base) :
    base.poller.failureCounts = s.poller.failureCounts := by
  cases e with
  | write inverters =>
    simp only [MetricsPoller.step] at hb
    split at hb <;> cases hb
    rfl
  | poller b =>
    obtain ⟨p', hp, rfl⟩ := Option.map_eq_some_iff.mp hb
    cases MetricsPoller.change_of_step hp with
    | findSpecificBrand | load | subscribe | startUpFails | ignored | registered | get | getFails => rfl
    | deregistered raw id brand _ hv =>
      refine absurd ?_ hd
      show (raw.bind isValidControlMessage).map (·.event) = _
      rw [hv]
      rfl
    | resume k id inverter =>
      have hr := congrArg Poller.failureCounts (Poller.startUp_registered s.poller id inverter)
      exact hr

theorem view_of_idle (hf : Follows o s a) (hc : Change brandOf s a s') (hn : a.poll? = none) (id : Uuid) :
    s'.view id = s.view id := by
  cases hc with
  | tick => rfl
  | poll => exact absurd hf fun h => h
  | base e base hb =>
    show View.mk (base.poller.failureCounts id) _ _ = _
    rw [failureCounts_of_not_deregisters hf hb]
    rfl
  | fetched | fetchFailed | markedOnline | markOnlineFailed | markedOffline | markOfflineFailed | saved | saveFailed
  | published | publishFailed | foundRecentAlert | savedAlert | saveAlertFailed | added | addFailed => cases hn

/-! ## Rounds -/

/-- Of the polls under way, number `k` is the only one of its inverter, and will
leave `v` there. -/
structure InRound (o : Uuid → Outcome) (brand : InverterBrand) (inverter : Inverter) (k : Nat) (v : View) (s : State) :
    Prop where
  others : ∀ (q : Nat) (poll : Poll), s.polls[q]? = some poll → q ≠ k →
    poll.phase.Returned ∨ poll.inverter.id ≠ inverter.id
  sameBrand : ∀ (q : Nat) (poll : Poll), s.polls[q]? = some poll → poll.phase.Returned ∨ poll.brand = brand
  readings : ∀ (q : Nat) (poll : Poll), s.polls[q]? = some poll →
    ∀ metric ∈ poll.phase.metric, metric.inverterId = poll.inverter.id
  own : ∃ phase, s.polls[k]? = some ⟨brand, inverter, phase⟩ ∧
    (pollOne brand).rest inverter.id (o inverter.id) (s.view inverter.id) phase = v

/-- A step of another poll is not seen by the inverter. -/
theorem InRound.view_of_other {brand : InverterBrand} {inverter : Inverter} {v : View}
    (h : InRound o brand inverter k v s) (hown : OwnReadings brand o) (hf : Follows o s a) (hc : Change brandOf s a s')
    (hn : a.poll? ≠ some k) : s'.view inverter.id = s.view inverter.id := by
  cases hq : a.poll? with
  | none => exact view_of_idle hf hc hq inverter.id
  | some q =>
    have hqk : q ≠ k := fun he => hn (he ▸ hq)
    obtain ⟨poll, -, hk, -⟩ := own_of_change hc hq
    have ho : poll.phase.Returned ∨ OwnReadings poll.brand o := by
      rcases h.sameBrand q poll hk with hr | he
      · exact .inl hr
      · rw [he]
        exact .inr hown
    obtain ⟨phase, -, ht⟩ := turn_of_own hc hq hf hk ho (h.readings q poll hk)
    by_cases hid : inverter.id = poll.inverter.id
    · rcases h.others q poll hk hqk with hret | hne
      · have hview := ht.rest
        rw [PollOne.rest_returned (ht.returned hret), PollOne.rest_returned hret] at hview
        rw [hid]
        exact hview
      · exact absurd hid.symm hne
    · exact ht.frame inverter.id hid

theorem inRound_step {brand : InverterBrand} {inverter : Inverter} {v : View} (h : InRound o brand inverter k v s)
    (hown : OwnReadings brand o) (hf : Follows o s a) (hc : Change brandOf s a s') :
    InRound o brand inverter k v s' := by
  cases hq : a.poll? with
  | none =>
    have hback : ∀ {r : Nat} {poll : Poll}, s'.polls[r]? = some poll → s.polls[r]? = some poll := fun hr =>
      getElem?_back hf hc hr (by rw [hq]; exact fun he => by cases he)
    obtain ⟨phase, hk, hr⟩ := h.own
    refine ⟨fun r poll hr => h.others r poll (hback hr), fun r poll hr => h.sameBrand r poll (hback hr),
      fun r poll hr => h.readings r poll (hback hr), phase, getElem?_of_change hc hk ?_, ?_⟩
    · rw [hq]
      exact fun he => by cases he
    · rw [view_of_idle hf hc hq]
      exact hr
  | some q =>
    obtain ⟨poll, -, hk, -⟩ := own_of_change hc hq
    have ho : poll.phase.Returned ∨ OwnReadings poll.brand o := by
      rcases h.sameBrand q poll hk with hr | he
      · exact .inl hr
      · rw [he]
        exact .inr hown
    obtain ⟨phase, hs', ht⟩ := turn_of_own hc hq hf hk ho (h.readings q poll hk)
    -- every poll but number `q` is where it was
    have hback : ∀ {r : Nat} {other : Poll}, s'.polls[r]? = some other → r ≠ q → s.polls[r]? = some other :=
      fun hr hne => getElem?_back hf hc hr fun he => hne (Option.some.inj (he.symm.trans hq))
    refine ⟨fun r other hr hne => ?_, fun r other hr => ?_, fun r other hr => ?_, ?_⟩
    · by_cases he : r = q
      · subst he
        cases hr.symm.trans hs'
        exact (h.others r poll hk hne).imp_left ht.returned
      · exact h.others r other (hback hr he) hne
    · by_cases he : r = q
      · subst he
        cases hr.symm.trans hs'
        exact (h.sameBrand r poll hk).imp_left ht.returned
      · exact h.sameBrand r other (hback hr he)
    · by_cases he : r = q
      · subst he
        cases hr.symm.trans hs'
        exact ht.readings
      · exact h.readings r other (hback hr he)
    · obtain ⟨own, hk', hrest⟩ := h.own
      by_cases he : q = k
      · subst he
        cases hk.symm.trans hk'
        exact ⟨phase, hs', ht.rest.trans hrest⟩
      · have hne : a.poll? ≠ some k := fun hx => he (Option.some.inj (hq.symm.trans hx))
        refine ⟨own, getElem?_of_change hc hk' hne, ?_⟩
        rw [← hrest, h.view_of_other hown hf hc hne]

/-! ## Results -/

theorem getElem?_poll {brand : InverterBrand} {inverter : Inverter} {j : Nat} {decrypted : Uuid → Bool}
    (hj : (s.poller.tracked.getArrayForBrand brand)[j]? = some inverter)
    (hs : (machine brandOf).step s (.poll brand decrypted) = some s') :
    s'.polls[s.polls.length + j]? = some ⟨brand, inverter, if decrypted inverter.id then .fetching else .finished⟩ := by
  cases hs
  show (s.polls ++ _)[s.polls.length + j]? = _
  rw [List.getElem?_append_right (Nat.le_add_right _ _), Nat.add_sub_cancel_left, List.getElem?_map, hj]
  rfl

theorem inRound_poll {brand : InverterBrand} {inverters : List Inverter} {inverter : Inverter} {j : Nat}
    (hret : ∀ poll ∈ s.polls, poll.phase.Returned) (ha : s.poller.tracked.getArrayForBrand brand = inverters)
    (hnd : (inverters.map (·.id)).Nodup) (hj : inverters[j]? = some inverter)
    (hs : (machine brandOf).step s (.poll brand fun id => (o id).decrypted) = some s') :
    InRound o brand inverter (s.polls.length + j)
      ((s.view inverter.id).add ((pollOne brand).poll inverter.id (o inverter.id) (s.view inverter.id).failureCount))
      s' := by
  subst ha
  have hpoll := getElem?_poll hj hs
  cases hs
  -- a poll under way is the one of its place in the array
  have hnew : ∀ {q : Nat} {poll : Poll}, (s.polls ++ (s.poller.tracked.getArrayForBrand brand).map fun inverter =>
      Poll.mk brand inverter (if (o inverter.id).decrypted then .fetching else .finished))[q]? = some poll →
      poll.phase.Returned ∨ ∃ r, q = s.polls.length + r ∧
        (s.poller.tracked.getArrayForBrand brand)[r]? = some poll.inverter ∧ poll.brand = brand ∧
          poll.phase = .fetching := by
    intro q poll hq
    by_cases hlt : q < s.polls.length
    · rw [List.getElem?_append_left hlt] at hq
      exact .inl (hret poll (List.mem_of_getElem? hq))
    · rw [List.getElem?_append_right (Nat.le_of_not_lt hlt), List.getElem?_map, Option.map_eq_some_iff] at hq
      obtain ⟨other, hr, rfl⟩ := hq
      by_cases hd : (o other.id).decrypted = true
      · exact .inr ⟨q - s.polls.length, by omega, hr, rfl, if_pos hd⟩
      · refine .inl ?_
        show Phase.Returned (ite _ _ _)
        rw [if_neg hd]
        trivial
  refine ⟨fun q poll hq hne => ?_, fun q poll hq => ?_, fun q poll hq metric hm => ?_,
    if (o inverter.id).decrypted then .fetching else .finished, hpoll, ?_⟩
  · refine (hnew hq).imp_right fun ⟨r, hqr, hr, _⟩ he => hne ?_
    have hrj : ((s.poller.tracked.getArrayForBrand brand).map (·.id))[r]? =
        ((s.poller.tracked.getArrayForBrand brand).map (·.id))[j]? := by
      rw [List.getElem?_map, List.getElem?_map, hr, hj]
      exact congrArg some he
    have hlt : r < ((s.poller.tracked.getArrayForBrand brand).map (·.id)).length := by
      rw [List.length_map]
      exact (List.getElem?_eq_some_iff.mp hr).1
    rw [hqr, (List.getElem?_inj hlt hnd).mp hrj]
  · exact (hnew hq).imp_right fun ⟨_, _, _, hb, _⟩ => hb
  · rcases hnew hq with hret | ⟨r, -, -, -, hp⟩
    · obtain ⟨_, _, phase⟩ := poll
      cases phase with
      | findingRecentAlert | savingAlert | addingJob | finished => cases hm
      | _ => cases hret
    · rw [hp] at hm
      cases hm
  · show (pollOne brand).rest inverter.id (o inverter.id) (s.view inverter.id) _ = _
    by_cases hd : (o inverter.id).decrypted = true
    · have ho : { o inverter.id with decrypted := true } = o inverter.id := by
        rw [← hd]
      rw [if_pos hd]
      show View.add _ (PollOne.poll _ _ { o inverter.id with decrypted := true } _) = _
      rw [ho]
    · rw [if_neg hd]
      unfold PollOne.poll
      rw [if_neg hd]
      exact (congrArg (View.mk _ _) (List.append_nil _)).symm

theorem InRound.view_of_path {brand : InverterBrand} {inverter : Inverter} {v : View} {t : State}
    (h : InRound o brand inverter k v s) (hown : OwnReadings brand o) (ht : (machine brandOf).Path (Follows o) s t)
    (hfin : ∀ poll ∈ t.polls, poll.phase.Returned) : t.view inverter.id = v := by
  have hr := ht.keep (I := InRound o brand inverter k v)
    (fun _ _ _ hr hf hst => inRound_step hr hown hf (change_of_step hst)) h
  obtain ⟨phase, hk, hv⟩ := hr.own
  rw [← hv, PollOne.rest_returned (hfin _ (List.mem_of_getElem? hk))]

/-- Whatever the calls of the other polls answer and however the polls interleave,
the round leaves for an inverter what polling it alone leaves. -/
theorem round_alone {brand : InverterBrand} {t : State} (hret : ∀ poll ∈ s.polls, poll.phase.Returned)
    (hnd : ((s.poller.tracked.getArrayForBrand brand).map (·.id)).Nodup) (hown : OwnReadings brand o)
    (hs : (machine brandOf).step s (.poll brand fun id => (o id).decrypted) = some s')
    (ht : (machine brandOf).Path (Follows o) s' t) (hfin : ∀ poll ∈ t.polls, poll.phase.Returned)
    {inverter : Inverter} (hi : inverter ∈ s.poller.tracked.getArrayForBrand brand) :
    t.view inverter.id =
      (s.view inverter.id).add ((pollOne brand).poll inverter.id (o inverter.id) (s.view inverter.id).failureCount) := by
  obtain ⟨j, hj⟩ := List.mem_iff_getElem?.mp hi
  exact (inRound_poll hret rfl hnd hj hs).view_of_path hown ht hfin

theorem round_eq_alone {brand : InverterBrand} {t u u' w : State} (hown : OwnReadings brand o)
    (hret : ∀ poll ∈ s.polls, poll.phase.Returned)
    (hnd : ((s.poller.tracked.getArrayForBrand brand).map (·.id)).Nodup)
    (hs : (machine brandOf).step s (.poll brand fun id => (o id).decrypted) = some s')
    (ht : (machine brandOf).Path (Follows o) s' t) (hfin : ∀ poll ∈ t.polls, poll.phase.Returned)
    (hret' : ∀ poll ∈ u.polls, poll.phase.Returned)
    (hu : (machine brandOf).step u (.poll brand fun id => (o id).decrypted) = some u')
    (hw : (machine brandOf).Path (Follows o) u' w) (hfin' : ∀ poll ∈ w.polls, poll.phase.Returned)
    {inverter : Inverter} (hi : inverter ∈ s.poller.tracked.getArrayForBrand brand)
    (halone : u.poller.tracked.getArrayForBrand brand = [inverter]) (hv : u.view inverter.id = s.view inverter.id) :
    t.view inverter.id = w.view inverter.id := by
  obtain ⟨j, hj⟩ := List.mem_iff_getElem?.mp hi
  have hround := (inRound_poll hret rfl hnd hj hs).view_of_path hown ht hfin
  have halone := (inRound_poll (j := 0) hret' halone (List.nodup_singleton _) rfl hu).view_of_path hown hw hfin'
  rw [hround, halone, hv]

end

instance : (phase : Phase) → Decidable phase.Returned
  | .findingRecentAlert _ | .savingAlert _ | .addingJob _ | .finished => instDecidableTrue
  | .fetching | .markingOnline _ | .saving _ | .publishing _ | .markingOffline => instDecidableFalse

instance : (e : MetricsPoller.Event) → Decidable (Deregisters e)
  | .poller (.deliver raw) => inferInstanceAs (Decidable ((raw.bind isValidControlMessage).map (·.event) = _))
  | .write _ | .poller (.findSpecificBrand _) | .poller .load | .poller .subscribe | .poller .startUpFails
  | .poller (.get _) | .poller (.getFails _) | .poller (.resume _) => instDecidableFalse

instance (o : Uuid → Outcome) (s : State) : (a : Action) → Decidable (Follows o s a)
  | .fetchMetrics k _ | .markOnline k _ | .markOffline k _ | .save k _ | .publish k _ =>
    inferInstanceAs (Decidable (∀ poll ∈ s.polls[k]?, _))
  | .base e => inferInstanceAs (Decidable (¬ Deregisters e))
  | .poll _ _ => instDecidableFalse
  | .tick _ | .findRecentAlert _ _ | .saveAlert _ _ | .add _ _ => instDecidableTrue

/-- Inverter 7 has a reading that is not published, the fetch of inverter 9 fails. -/
def mixed (id : Uuid) : Outcome := if id = 7 then { fetchSucceeds with published := false } else fetchFails

/-- The fetch of inverter 9 fails between two steps of the other poll. -/
theorem round_alone_mixed : ∃ s s' t, (machine evenVictron).run .init bothTracked = some s ∧
    (machine evenVictron).step s (.poll .sandbox fun id => (mixed id).decrypted) = some s' ∧
    ((machine evenVictron).only (Follows mixed)).run s'
      [.fetchMetrics 0 (some reading7), .fetchMetrics 1 none, .markOnline 0 true, .save 0 true,
        .publish 0 false] = some t ∧
    t.view 7 = (s.view 7).add (pollSandboxOne.poll 7 (mixed 7) (s.view 7).failureCount) ∧
    t.view 9 = (s.view 9).add (pollSandboxOne.poll 9 (mixed 9) (s.view 9).failureCount) := by
  have h0 : ((machine evenVictron).run .init bothTracked).bind (fun s =>
      ((machine evenVictron).step s (.poll .sandbox fun id => (mixed id).decrypted)).bind fun s' =>
        (((machine evenVictron).only (Follows mixed)).run s'
          [.fetchMetrics 0 (some reading7), .fetchMetrics 1 none, .markOnline 0 true, .save 0 true,
            .publish 0 false]).map fun t =>
          (s.polls, s.poller.tracked.getArrayForBrand .sandbox, decide (∀ poll ∈ t.polls, poll.phase.Returned))) =
      some ([], [inverter7, inverter9], true) := by decide +kernel
  obtain ⟨s, hb, h0⟩ := Option.bind_eq_some_iff.mp h0
  obtain ⟨s', hs, h0⟩ := Option.bind_eq_some_iff.mp h0
  obtain ⟨t, ht, h0⟩ := Option.map_eq_some_iff.mp h0
  simp only [Prod.mk.injEq] at h0
  obtain ⟨hp, ha, hfin⟩ := h0
  have hown : OwnReadings .sandbox mixed := by
    intro id metric hm
    unfold mixed at hm
    split at hm
    · rename_i he
      cases hm
      exact he.symm
    · cases hm
  have alone : ∀ inverter ∈ s.poller.tracked.getArrayForBrand .sandbox, t.view inverter.id = (s.view inverter.id).add
      (pollSandboxOne.poll inverter.id (mixed inverter.id) (s.view inverter.id).failureCount) := fun inverter hi =>
    round_alone (by rw [hp]; simp) (by rw [ha]; decide) hown hs (Machine.path_of_run_only ht) (of_decide_eq_true hfin) hi
  exact ⟨s, s', t, hb, hs, ht, alone inverter7 (by rw [ha]; decide), alone inverter9 (by rw [ha]; decide)⟩

end IntellApi.MetricsPolls
