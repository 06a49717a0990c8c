import IntellApi.Calls
import IntellApi.MetricsPollsSound

/-!
# Outages and readings

Notes beside the polls say how many fetches of an inverter have failed in a
row, which readings have been fetched, and which of them went on to
`persistAndPublish`. The counters agree with the notes, and no reading is lost,
as long as no `markOnline` fails.
-/

namespace IntellApi.MetricsPolls

open Function MetricEvents MetricsPoller Lts

/-! ## The notes -/

structure Notes where
  failed : Uuid → Nat
  fetched : List (Nat × NormalisedMetric)
  persisted : List (Nat × NormalisedMetric)

namespace Notes

/-- Failed fetches in a row, since the inverter has been deregistered at most. -/
def countFailed (s : State) (a : Action) (t : State) (failed : Uuid → Nat) : Uuid → Nat :=
  match a with
  | .fetchMetrics k answer =>
    match s.polls[k]? with
    | some poll => update failed poll.inverter.id (if answer.isSome then 0 else failed poll.inverter.id + 1)
    | none => failed
  | .base _ => fun id => if id ∈ s.poller.tracked.ids ∧ id ∉ t.poller.tracked.ids then 0 else failed id
  | _ => failed

def fetchedBy (s : State) : Action → List (Nat × NormalisedMetric)
  | .fetchMetrics k (some metric) =>
    match s.polls[k]? with
    | some poll => [(k, (pollOne poll.brand).reading poll.inverter.id metric)]
    | none => []
  | _ => []

/-- `persistAndPublish` starts when a poll is resumed from `markOnline`. -/
def persistedBy (a : Action) (t : State) : List (Nat × NormalisedMetric) :=
  match a with
  | .markOnline k _ =>
    match t.polls[k]? with
    | some ⟨_, _, .saving metric⟩ => [(k, metric)]
    | _ => []
  | _ => []

def next (s : State) (a : Action) (t : State) (n : Notes) : Notes where
  failed := countFailed s a t n.failed
  fetched := n.fetched ++ fetchedBy s a
  persisted := n.persisted ++ persistedBy a t

end Notes

abbrev Noted : Type := State × Notes

def noted (brandOf : Uuid → InverterBrand) : Machine Noted Action :=
  (machine brandOf).noting ⟨fun _ => 0, [], []⟩ Notes.next

theorem exists_noted_reach {brandOf : Uuid → InverterBrand} {ok : State → Action → Prop} {s : State} :
    (∃ n, (noted brandOf).Reach (fun t a => ok t.1 a) (s, n)) ↔ (machine brandOf).Reach ok s := by
  constructor
  · rintro ⟨n, h⟩
    exact h.erase
  · intro h
    exact h.noted _

/-! ## What a step notes -/

def Action.poll? : Action → Option Nat
  | .fetchMetrics k _ | .markOnline k _ | .markOffline k _ | .save k _ | .publish k _ | .findRecentAlert k _
  | .saveAlert k _ | .add k _ => some k
  | .tick _ | .base _ | .poll _ _ => none

/-- The suspension a step resumes a poll from. -/
def Action.Resumes : Action → Phase → Prop
  | .fetchMetrics _ _, .fetching | .markOnline _ _, .markingOnline _ | .save _ _, .saving _
  | .publish _ _, .publishing _ | .markOffline _ _, .markingOffline | .findRecentAlert _ _, .findingRecentAlert _
  | .saveAlert _ _, .savingAlert _ | .add _ _, .addingJob _ => True
  | _, _ => False

section
variable {brandOf : Uuid → InverterBrand} {s s' : State} {a : Action} {n : Notes} {k : Nat} {poll : Poll}
  {metric : NormalisedMetric} {id : Uuid}

theorem Action.Resumes.markOnline (h : a.Resumes (.markingOnline metric)) (hn : a.poll? = some k) :
    ∃ ok, a = .markOnline k ok := by
  cases a with
  | markOnline k' ok =>
    cases hn
    exact ⟨ok, rfl⟩
  | _ => cases h

/-- A step resumes one poll, or leaves all of them alone and may start others. -/
theorem polls_of_change (hc : Change brandOf s a s') :
    (∃ k poll phase, a.poll? = some k ∧ s.polls[k]? = some poll ∧ s'.polls = s.polls.set k { poll with phase }) ∨
      a.poll? = none ∧ ∃ started, s'.polls = s.polls ++ started ∧
        ∀ poll ∈ started, (∃ brand decrypted, a = .poll brand decrypted) ∧
          (poll.phase = .fetching ∨ poll.phase = .finished) := by
  cases hc with
  | tick | base => exact .inr ⟨rfl, [], (List.append_nil _).symm, fun _ h => nomatch h⟩
  | poll brand decrypted =>
    refine .inr ⟨rfl, _, rfl, fun poll hm => ?_⟩
    obtain ⟨inverter, -, rfl⟩ := List.mem_map.mp hm
    refine ⟨⟨brand, decrypted, rfl⟩, ?_⟩
    show ite _ _ _ = _ ∨ ite _ _ _ = _
    by_cases hd : decrypted inverter.id = true
    · exact .inl (if_pos hd)
    · exact .inr (if_neg hd)
  | fetched k poll metric hk | markedOnline k poll metric hk | markOnlineFailed k poll metric hk
  | saved k poll metric row hk | saveFailed k ok poll metric hk | published k poll metric hk
  | publishFailed k poll metric hk | fetchFailed k poll hk | markedOffline k poll hk | markOfflineFailed k poll hk
  | foundRecentAlert k ok poll now phase hk | savedAlert k poll now hk | saveAlertFailed k poll now hk
  | added k poll alertId hk | addFailed k poll alertId hk =>
    exact .inl ⟨k, poll, _, rfl, hk, rfl⟩

theorem getElem?_setPhase {polls : List Poll} (hk : polls[k]? = some poll) (phase : Phase) :
    (polls.set k { poll with phase })[k]? = some { poll with phase } :=
  Calls.getElem?_set_own hk

theorem getElem?_of_change (hc : Change brandOf s a s') (hk : s.polls[k]? = some poll) (hn : a.poll? ≠ some k) :
    s'.polls[k]? = some poll := by
  rcases polls_of_change hc with ⟨k', poll', phase, ha, -, he⟩ | ⟨-, started, he, -⟩
  · rw [he, List.getElem?_set_ne fun hx : k' = k => hn (hx ▸ ha), hk]
  · rw [he, List.getElem?_append_left (List.getElem?_eq_some_iff.mp hk).1, hk]

theorem own_of_change (hc : Change brandOf s a s') (hn : a.poll? = some k) :
    ∃ poll phase, s.polls[k]? = some poll ∧ s'.polls[k]? = some { poll with phase } := by
  rcases polls_of_change hc with ⟨k', poll, phase, ha, hk, he⟩ | ⟨ha, -⟩
  · cases ha.symm.trans hn
    refine ⟨poll, phase, hk, ?_⟩
    rw [he]
    exact getElem?_setPhase hk phase
  · cases ha.symm.trans hn

theorem resumes_of_own (hc : Change brandOf s a s') (hn : a.poll? = some k) (hk : s.polls[k]? = some poll) :
    a.Resumes poll.phase := by
  have same : ∀ {poll' : Poll} {phase : Phase}, s.polls[k]? = some poll' → poll'.phase = phase → a.Resumes phase →
      a.Resumes poll.phase := by
    intro poll' phase hq hp hr
    cases hk.symm.trans hq
    rw [hp]
    exact hr
  cases hc with
  | tick | base | poll => cases hn
  | fetched k' poll' metric hq hp | markedOnline k' poll' metric hq hp | markOnlineFailed k' poll' metric hq hp
  | saved k' poll' metric row hq hp | saveFailed k' ok poll' metric hq hp | published k' poll' metric hq hp
  | publishFailed k' poll' metric hq hp | fetchFailed k' poll' hq hp | markedOffline k' poll' hq hp
  | markOfflineFailed k' poll' hq hp | foundRecentAlert k' ok poll' now phase hq hp | savedAlert k' poll' now hq hp
  | saveAlertFailed k' poll' now hq hp | added k' poll' alertId hq hp | addFailed k' poll' alertId hq hp =>
    cases hn
    exact same hq hp trivial

theorem exists_phase_of_change (hc : Change brandOf s a s') (hk : s.polls[k]? = some poll) :
    ∃ phase, s'.polls[k]? = some { poll with phase } := by
  by_cases hn : a.poll? = some k
  · obtain ⟨poll', phase, hk', hs'⟩ := own_of_change hc hn
    cases hk.symm.trans hk'
    exact ⟨phase, hs'⟩
  · exact ⟨poll.phase, getElem?_of_change hc hk hn⟩

/-- A poll that is new starts at the adapter or is over. -/
theorem getElem?_before (hc : Change brandOf s a s') (hk : s'.polls[k]? = some poll) (hn : a.poll? ≠ some k) :
    s.polls[k]? = some poll ∨ s.polls.length ≤ k ∧ (∃ brand decrypted, a = .poll brand decrypted) ∧
      (poll.phase = .fetching ∨ poll.phase = .finished) := by
  rcases polls_of_change hc with ⟨k', poll', phase, ha, -, he⟩ | ⟨-, started, he, hm⟩
  · rw [he, List.getElem?_set_ne fun hx : k' = k => hn (hx ▸ ha)] at hk
    exact .inl hk
  · rw [he] at hk
    by_cases hlt : k < s.polls.length
    · exact .inl ((List.getElem?_append_left hlt).symm.trans hk)
    · rw [List.getElem?_append_right (Nat.le_of_not_lt hlt)] at hk
      exact .inr ⟨Nat.le_of_not_lt hlt, hm poll (List.mem_of_getElem? hk)⟩

theorem getElem?_fetched (hc : Change brandOf s (.fetchMetrics k (some metric)) s') (hk : s.polls[k]? = some poll) :
    s'.polls[k]? =
      some { poll with phase := .markingOnline ((pollOne poll.brand).reading poll.inverter.id metric) } := by
  cases hc with
  | fetched _ poll' _ hk' =>
    cases hk.symm.trans hk'
    exact getElem?_setPhase hk _

theorem getElem?_fetchFailed (hk : s.polls[k]? = some poll) :
    2 ≤ (s.poller.failureCounts poll.inverter.id).getD 0 ∧
        (s.fetchFailed k poll).polls[k]? = some { poll with phase := .markingOffline } ∨
      (s.poller.failureCounts poll.inverter.id).getD 0 < 2 ∧
        (s.fetchFailed k poll).polls[k]? = some { poll with phase := .finished } := by
  simp only [State.fetchFailed, State.setPhase, State.setFailureCount]
  by_cases hc : (s.poller.failureCounts poll.inverter.id).getD 0 ≥ 2
  · rw [if_pos hc]
    exact .inl ⟨hc, getElem?_setPhase hk _⟩
  · rw [if_neg hc]
    exact .inr ⟨Nat.lt_of_not_le hc, getElem?_setPhase hk _⟩

theorem mem_fetched_next (hc : Change brandOf s a s') : (k, metric) ∈ (Notes.next s a s' n).fetched ↔
    (k, metric) ∈ n.fetched ∨ ∃ poll answer, a = .fetchMetrics k (some answer) ∧ s.polls[k]? = some poll ∧
      (pollOne poll.brand).reading poll.inverter.id answer = metric := by
  show (k, metric) ∈ n.fetched ++ Notes.fetchedBy s a ↔ _
  rw [List.mem_append]
  refine or_congr_right ?_
  cases hc with
  | fetched k' poll answer hk =>
    simp only [Notes.fetchedBy, hk, List.mem_singleton, Prod.mk.injEq]
    constructor
    · intro h
      obtain ⟨rfl, rfl⟩ := h
      exact ⟨poll, answer, rfl, hk, rfl⟩
    · intro h
      obtain ⟨poll', answer', ha, hk', rfl⟩ := h
      cases ha
      cases hk.symm.trans hk'
      exact ⟨rfl, rfl⟩
  | tick | base | poll | fetchFailed | markedOnline | markOnlineFailed | markedOffline | markOfflineFailed | saved
  | saveFailed | published | publishFailed | foundRecentAlert | savedAlert | saveAlertFailed | added | addFailed =>
    simp [Notes.fetchedBy]

theorem mem_persisted_next (hc : Change brandOf s a s') : (k, metric) ∈ (Notes.next s a s' n).persisted ↔
    (k, metric) ∈ n.persisted ∨ a = .markOnline k true ∧ ∃ poll, s.polls[k]? = some poll ∧
      poll.phase = .markingOnline metric := by
  show (k, metric) ∈ n.persisted ++ Notes.persistedBy a s' ↔ _
  rw [List.mem_append]
  refine or_congr_right ?_
  cases hc with
  | markedOnline k' poll metric' hk hp =>
    simp only [Notes.persistedBy, State.setPhase, State.setOffline, getElem?_setPhase hk, List.mem_singleton,
      Prod.mk.injEq]
    constructor
    · intro h
      obtain ⟨rfl, rfl⟩ := h
      exact ⟨rfl, poll, hk, hp⟩
    · intro h
      obtain ⟨ha, poll', hk', hp'⟩ := h
      cases ha
      cases hk.symm.trans hk'
      exact ⟨rfl, Phase.markingOnline.inj (hp'.symm.trans hp)⟩
  | markOnlineFailed k' poll metric' hk hp =>
    rcases getElem?_fetchFailed hk with ⟨-, hs'⟩ | ⟨-, hs'⟩
    · simp [Notes.persistedBy, hs']
    · simp [Notes.persistedBy, hs']
  | tick | base | poll | fetched | fetchFailed | markedOffline | markOfflineFailed | saved | saveFailed | published
  | publishFailed | foundRecentAlert | savedAlert | saveAlertFailed | added | addFailed => simp [Notes.persistedBy]

end

/-! ## Counters and outages -/

/-- No status update of an inverter fails after a fetch. -/
def MarksOnline (id : Uuid) (s : State) : Action → Prop
  | .markOnline k false => ∀ poll ∈ s.polls[k]?, poll.inverter.id ≠ id
  | _ => True

instance (id : Uuid) (s : State) : (a : Action) → Decidable (MarksOnline id s a)
  | .markOnline k false => inferInstanceAs (Decidable (∀ poll ∈ s.polls[k]?, _))
  | .markOnline _ true | .fetchMetrics _ _ | .tick _ | .base _ | .poll _ _ | .markOffline _ _ | .save _ _
  | .publish _ _ | .findRecentAlert _ _ | .saveAlert _ _ | .add _ _ => instDecidableTrue

section
variable {brandOf : Uuid → InverterBrand} {s s' : State} {a : Action} {n : Notes} {k : Nat} {poll : Poll}
  {metric : NormalisedMetric} {id : Uuid}

theorem failureCounts_left {p : Poller} {id' : Uuid} (h : p.tracked.Sorted brandOf) :
    (p.handleInverterDeregistered id').failureCounts id =
      if id ∈ p.tracked.ids ∧ id ∉ (p.handleInverterDeregistered id').tracked.ids then none
      else p.failureCounts id := by
  rcases deregistered_cases p id' with ⟨hm, he⟩ | ⟨hm, he⟩
  · rw [he]
    by_cases hid : id = id'
    · subst hid
      rw [update_self, if_pos ⟨hm, fun hx => ((Poller.ids_deregistered h).mp hx).2 rfl⟩]
    · rw [update_of_ne hid, if_neg fun hx => hx.2 ((Poller.ids_deregistered h).mpr ⟨hx.1, hid⟩)]
  · rw [he, if_neg fun hx => hx.2 hx.1]

/-- A counter is deleted when its inverter leaves the arrays. -/
theorem failureCounts_base {e : MetricsPoller.Event} {base : MetricsPoller.State} (h : Grounded brandOf s)
    (hb : MetricsPoller.step brandOf s.toState e = some base) (id : Uuid) :
    base.poller.failureCounts id =
      if id ∈ s.poller.tracked.ids ∧ id ∉ base.poller.tracked.ids then none else s.poller.failureCounts id := by
  have same : (∀ id, id ∈ s.poller.tracked.ids → id ∈ base.poller.tracked.ids) →
      base.poller.failureCounts = s.poller.failureCounts → base.poller.failureCounts id =
        if id ∈ s.poller.tracked.ids ∧ id ∉ base.poller.tracked.ids then none else s.poller.failureCounts id := by
    intro hm hf
    rw [if_neg fun hx => hx.2 (hm id hx.1), hf]
  cases e with
  | write inverters =>
    simp only [MetricsPoller.step] at hb
    split at hb <;> cases hb
    exact same (fun _ hm => hm) rfl
  | poller b =>
    obtain ⟨p', hp, rfl⟩ := Option.map_eq_some_iff.mp hb
    cases MetricsPoller.change_of_step hp with
    | findSpecificBrand | subscribe | startUpFails | ignored | registered | get | getFails =>
      exact same (fun _ hm => hm) rfl
    | load found t hl =>
      refine same (fun id hm => ?_) rfl
      rw [h.unloaded found hl] at hm
      cases hm
    | deregistered raw id' brand =>
      exact failureCounts_left h.sound.tracked
    | resume k id' inverter hk =>
      have hf := congrArg Poller.failureCounts (Poller.startUp_registered s.poller id' inverter)
      refine same (fun id hm => ?_) hf
      cases inverter with
      | none => exact hm
      | some i => exact (Poller.ids_registered (h.sound.handlers id' i (List.mem_of_getElem? hk)).1).mpr (.inl hm)

theorem failureCount_fetchFailed (s : State) (k : Nat) (poll : Poll) :
    ((s.fetchFailed k poll).poller.failureCounts poll.inverter.id).getD 0 =
      (s.poller.failureCounts poll.inverter.id).getD 0 + 1 :=
  congrArg (fun n : Option Nat => n.getD 0) (update_self poll.inverter.id _ s.poller.failureCounts)

theorem counted_next (h : Grounded brandOf s) (ho : MarksOnline id s a) (hc : Change brandOf s a s')
    (hi : (s.poller.failureCounts id).getD 0 = n.failed id) :
    (s'.poller.failureCounts id).getD 0 = (Notes.next s a s' n).failed id := by
  cases hc with
  | base e base hb =>
    show (base.poller.failureCounts id).getD 0 = if _ then 0 else n.failed id
    rw [failureCounts_base h hb id]
    split
    · rfl
    · exact hi
  | fetched k poll metric hk =>
    show (update s.poller.failureCounts poll.inverter.id (some 0) id).getD 0 =
      Notes.countFailed s (.fetchMetrics k (some metric)) s n.failed id
    simp only [Notes.countFailed, hk, Option.isSome_some, if_true]
    by_cases he : id = poll.inverter.id
    · rw [he, update_self, update_self]
      rfl
    · rw [update_of_ne he, update_of_ne he, hi]
  | fetchFailed k poll hk =>
    show (update s.poller.failureCounts poll.inverter.id (some _) id).getD 0 =
      Notes.countFailed s (.fetchMetrics k none) s n.failed id
    simp only [Notes.countFailed, hk, Option.isSome_none, Bool.false_eq_true, if_false]
    by_cases he : id = poll.inverter.id
    · subst he
      rw [update_self, update_self, ← hi]
      rfl
    · rw [update_of_ne he, update_of_ne he, hi]
  | markOnlineFailed k poll metric hk =>
    show (update s.poller.failureCounts poll.inverter.id (some _) id).getD 0 = n.failed id
    rw [update_of_ne (Ne.symm (ho poll hk)), hi]
  | tick | poll | markedOnline | markedOffline | markOfflineFailed | saved | saveFailed | published
  | publishFailed | foundRecentAlert | savedAlert | saveAlertFailed | added | addFailed => exact hi

/-- Which step takes a poll to `markOnline` and to `markOffline`. -/
structure Steps (a : Action) (k : Nat) (old new : Phase) : Prop where
  toOnline : ∀ metric, new = .markingOnline metric → old = .fetching ∧ ∃ answer, a = .fetchMetrics k (some answer)
  toOffline : new = .markingOffline → a = .fetchMetrics k none ∨ a = .markOnline k false
  not_fetching : new ≠ .fetching

theorem steps_of_own {phase : Phase} (hc : Change brandOf s a s') (hn : a.poll? = some k)
    (hk : s.polls[k]? = some poll) (hk' : s'.polls[k]? = some { poll with phase }) : Steps a k poll.phase phase := by
  have same : ∀ {poll' : Poll} {phase' : Phase}, s.polls[k]? = some poll' →
      s'.polls = s.polls.set k { poll' with phase := phase' } → poll = poll' ∧ phase = phase' := by
    intro poll' phase' hq he
    rw [he, getElem?_setPhase hq] at hk'
    exact ⟨Option.some.inj (hk.symm.trans hq), congrArg Poll.phase (Option.some.inj hk').symm⟩
  have failed : ∀ {poll' : Poll}, s.polls[k]? = some poll' → s' = s.fetchFailed k poll' →
      phase = .markingOffline ∨ phase = .finished := by
    intro poll' hq he
    obtain ⟨rfl, rfl⟩ := same hq (congrArg State.polls he)
    split
    · exact .inl rfl
    · exact .inr rfl
  have other : ∀ {poll' : Poll} {phase' : Phase}, s.polls[k]? = some poll' →
      s'.polls = s.polls.set k { poll' with phase := phase' } → (∀ metric, phase' ≠ .markingOnline metric) →
      phase' ≠ .markingOffline → phase' ≠ .fetching → Steps a k poll.phase phase := by
    intro poll' phase' hq he hn hf hg
    obtain ⟨rfl, rfl⟩ := same hq he
    exact ⟨fun metric h => absurd h (hn metric), fun h => absurd h hf, hg⟩
  cases hc with
  | tick | base | poll => cases hn
  | fetched k' poll' metric hq hp =>
    cases hn
    obtain ⟨rfl, rfl⟩ := same hq rfl
    exact ⟨fun _ _ => ⟨hp, metric, rfl⟩, by simp, by simp⟩
  | fetchFailed k' poll' hq hp =>
    cases hn
    cases hk.symm.trans hq
    rcases failed hq rfl with rfl | rfl
    · exact ⟨by simp, fun _ => .inl rfl, by simp⟩
    · exact ⟨by simp, by simp, by simp⟩
  | markOnlineFailed k' poll' metric hq hp =>
    cases hn
    rcases failed hq rfl with rfl | rfl
    · exact ⟨by simp, fun _ => .inr rfl, by simp⟩
    · exact ⟨by simp, by simp, by simp⟩
  | foundRecentAlert k' ok poll' now phase' hq hp he =>
    cases hn
    split at he
    · exact other hq rfl (by simp [he]) (by simp [he]) (by simp [he])
    · exact other hq rfl (by simp [he]) (by simp [he]) (by simp [he])
  | markedOnline k' poll' metric hq hp | saved k' poll' metric row hq hp | saveFailed k' ok poll' metric hq hp
  | published k' poll' metric hq hp | publishFailed k' poll' metric hq hp | markedOffline k' poll' hq hp
  | markOfflineFailed k' poll' hq hp | savedAlert k' poll' now hq hp | saveAlertFailed k' poll' now hq hp
  | added k' poll' alertId hq hp | addFailed k' poll' alertId hq hp =>
    cases hn
    exact other hq rfl (by simp) (by simp) (by simp)

structure Filed (id : Uuid) (s : Noted) : Prop where
  known : ∀ k metric, (k, metric) ∈ s.2.fetched → k < s.1.polls.length
  reading : ∀ k poll metric, s.1.polls[k]? = some poll → poll.inverter.id = id → (k, metric) ∈ s.2.fetched →
    (k, metric) ∈ s.2.persisted ∨ poll.phase = .markingOnline metric

theorem filed_step (h : Filed id (s, n)) (ho : MarksOnline id s a) (hc : Change brandOf s a s') :
    Filed id (s', Notes.next s a s' n) where
  known k metric hm := by
    have hlt : k < s.polls.length := by
      rcases (mem_fetched_next hc).mp hm with hm | ⟨poll, answer, -, hk, -⟩
      · exact h.known k metric hm
      · exact (List.getElem?_eq_some_iff.mp hk).1
    obtain ⟨phase, hk⟩ := exists_phase_of_change hc (List.getElem?_eq_getElem hlt)
    exact (List.getElem?_eq_some_iff.mp hk).1
  reading k poll' metric hk' hid hm := by
    by_cases hn : a.poll? = some k
    · obtain ⟨poll, phase, hk, hs'⟩ := own_of_change hc hn
      cases hk'.symm.trans hs'
      rcases (mem_fetched_next hc).mp hm with hm | ⟨poll', answer, rfl, hk', rfl⟩
      · rcases h.reading k poll metric hk hid hm with hm | hp
        · exact .inl ((mem_persisted_next hc).mpr (.inl hm))
        · have hr := resumes_of_own hc hn hk
          rw [hp] at hr
          obtain ⟨ok, rfl⟩ := hr.markOnline hn
          cases ok with
          | true => exact .inl ((mem_persisted_next hc).mpr (.inr ⟨rfl, poll, hk, hp⟩))
          | false => exact absurd hid (ho poll hk)
      · cases hk.symm.trans hk'
        cases hs'.symm.trans (getElem?_fetched hc hk)
        exact .inr rfl
    · have hm : (k, metric) ∈ n.fetched := by
        rcases (mem_fetched_next hc).mp hm with hm | ⟨poll, answer, rfl, -⟩
        · exact hm
        · exact absurd rfl hn
      rcases getElem?_before hc hk' hn with hk | ⟨hle, -⟩
      · exact (h.reading k poll' metric hk hid hm).imp_left fun hm => (mem_persisted_next hc).mpr (.inl hm)
      · exact absurd (h.known k metric hm) (Nat.not_lt_of_le hle)

/-! ## Results -/

structure Told (brandOf : Uuid → InverterBrand) (id : Uuid) (s : Noted) : Prop where
  grounded : Grounded brandOf s.1
  filed : Filed id s
  counted : (s.1.poller.failureCounts id).getD 0 = s.2.failed id

theorem told_step {t t' : Noted} (h : Told brandOf id t) (ho : MarksOnline id t.1 a)
    (hs : (noted brandOf).step t a = some t') : Told brandOf id t' := by
  obtain ⟨hst, hn⟩ := Machine.step_noting hs
  have hc := change_of_step hst
  have hf := filed_step h.filed ho hc
  have hcount := counted_next h.grounded ho hc h.counted
  rw [← hn] at hf hcount
  exact ⟨grounded_step h.grounded hc, hf, hcount⟩

theorem told_reach {t : Noted} (h : (noted brandOf).Reach (fun t a => MarksOnline id t.1 a) t) : Told brandOf id t := by
  have h0 : Told brandOf id (noted brandOf).init :=
    ⟨grounded_init, ⟨fun _ _ hm => (List.not_mem_nil hm).elim, fun _ _ _ _ _ hm => (List.not_mem_nil hm).elim⟩, rfl⟩
  exact h.inv h0 fun _ _ _ hi ho hs => told_step hi ho hs

/-- Only a fetch that failed after two others starts `markOffline`. -/
theorem failed_of_markingOffline {t t' : Noted} (h : Told brandOf id t) (ho : MarksOnline id t.1 a)
    (hs : (noted brandOf).step t a = some t') (hk : t.1.polls[k]? = some poll) (hid : poll.inverter.id = id)
    (hp : poll.phase ≠ .markingOffline) (hk' : t'.1.polls[k]? = some { poll with phase := .markingOffline }) :
    3 ≤ t'.2.failed id := by
  have ht' := told_step h ho hs
  obtain ⟨t, n⟩ := t
  obtain ⟨s', n'⟩ := t'
  have hc := change_of_step (Machine.step_noting hs).1
  by_cases hn : a.poll? = some k
  · rcases (steps_of_own hc hn hk hk').toOffline rfl with rfl | rfl
    · cases hc with
      | fetchFailed _ poll' hq =>
        cases hk.symm.trans hq
        rcases getElem?_fetchFailed hk with ⟨h2, -⟩ | ⟨-, hf⟩
        · rw [← ht'.counted, ← hid]
          exact (Nat.succ_le_succ h2).trans_eq (failureCount_fetchFailed t k poll).symm
        · cases hk'.symm.trans hf
    · exact absurd hid (ho poll hk)
  · have hs := (getElem?_of_change hc hk hn).symm.trans hk'
    exact absurd (congrArg Poll.phase (Option.some.inj hs)) hp

/-- As long as no status update of an inverter fails, none of its readings is
lost, its counter is that of its outage, and it is marked offline after three
failed fetches in a row only. -/
theorem reading_kept {t : Noted} (h : (noted brandOf).Reach (fun t a => MarksOnline id t.1 a) t) :
    (∀ k (poll : Poll) metric, t.1.polls[k]? = some poll → poll.inverter.id = id → (k, metric) ∈ t.2.fetched →
      (k, metric) ∈ t.2.persisted ∨ poll.phase = .markingOnline metric) ∧
    (t.1.poller.failureCounts id).getD 0 = t.2.failed id ∧
    ∀ (k : Nat) (poll : Poll) a (t' : Noted), MarksOnline id t.1 a → (noted brandOf).step t a = some t' →
      t.1.polls[k]? = some poll → poll.inverter.id = id → poll.phase ≠ .markingOffline →
      t'.1.polls[k]? = some { poll with phase := .markingOffline } → 3 ≤ t'.2.failed id := by
  have ht := told_reach h
  exact ⟨ht.filed.reading, ht.counted, fun k poll a t' ho hs hk hid hp hk' =>
    failed_of_markingOffline ht ho hs hk hid hp hk'⟩

/-- A poll that waits at `markOnline` has fetched, and none before that has handed a reading on. -/
structure Pending (s : Noted) : Prop where
  fetched : ∀ (k : Nat) (poll : Poll) metric, s.1.polls[k]? = some poll → poll.phase = .markingOnline metric →
    (k, metric) ∈ s.2.fetched
  known : ∀ k metric, (k, metric) ∈ s.2.persisted → k < s.1.polls.length
  unsaved : ∀ (k : Nat) (poll : Poll) metric, s.1.polls[k]? = some poll →
    poll.phase = .fetching ∨ (∃ reading, poll.phase = .markingOnline reading) → (k, metric) ∉ s.2.persisted

theorem pending_step (h : Pending (s, n)) (hc : Change brandOf s a s') : Pending (s', Notes.next s a s' n) where
  fetched k poll' metric hk' hp' := by
    by_cases hn : a.poll? = some k
    · obtain ⟨poll, phase, hk, hs'⟩ := own_of_change hc hn
      cases hk'.symm.trans hs'
      obtain ⟨-, answer, rfl⟩ := (steps_of_own hc hn hk hs').toOnline metric hp'
      cases hs'.symm.trans (getElem?_fetched hc hk)
      exact (mem_fetched_next hc).mpr (.inr ⟨poll, answer, rfl, hk, Phase.markingOnline.inj hp'⟩)
    · rcases getElem?_before hc hk' hn with hk | ⟨-, -, hp | hp⟩
      · exact (mem_fetched_next hc).mpr (.inl (h.fetched k poll' metric hk hp'))
      · cases hp.symm.trans hp'
      · cases hp.symm.trans hp'
  known k metric hm := by
    have hlt : k < s.polls.length := by
      rcases (mem_persisted_next hc).mp hm with hm | ⟨-, poll, hk, -⟩
      · exact h.known k metric hm
      · exact (List.getElem?_eq_some_iff.mp hk).1
    obtain ⟨phase, hk⟩ := exists_phase_of_change hc (List.getElem?_eq_getElem hlt)
    exact (List.getElem?_eq_some_iff.mp hk).1
  unsaved k poll' metric hk' hp' hm := by
    by_cases hn : a.poll? = some k
    · obtain ⟨poll, phase, hk, hs'⟩ := own_of_change hc hn
      cases hk'.symm.trans hs'
      have hsteps := steps_of_own hc hn hk hs'
      rcases hp' with hp' | ⟨reading, hp'⟩
      · exact hsteps.not_fetching hp'
      · obtain ⟨hp, answer, rfl⟩ := hsteps.toOnline reading hp'
        rcases (mem_persisted_next hc).mp hm with hm | ⟨ha, -⟩
        · exact h.unsaved k poll metric hk (.inl hp) hm
        · cases ha
    · rcases (mem_persisted_next hc).mp hm with hm | ⟨rfl, -⟩
      · rcases getElem?_before hc hk' hn with hk | ⟨hle, -⟩
        · exact h.unsaved k poll' metric hk hp' hm
        · exact Nat.not_lt_of_le hle (h.known k metric hm)
      · exact hn rfl

theorem pending_init : Pending (noted brandOf).init where
  fetched _ _ _ hk := by cases hk
  known _ _ hm := by cases hm
  unsaved _ _ _ hk := by cases hk

theorem pending_reach {ok : Noted → Action → Prop} {t : Noted} (h : (noted brandOf).Reach ok t) : Pending t := by
  refine h.inv pending_init fun t a t' hi _ hs => ?_
  obtain ⟨hst, hn⟩ := Machine.step_noting hs
  have hp := pending_step hi (change_of_step hst)
  rw [← hn] at hp
  exact hp

/-- Any status update that fails after a fetch loses the reading and counts as a failed fetch. -/
theorem lost_of_markOnline_failed {t t' : Noted} (h : (noted brandOf).Reach Free t)
    (hs : (noted brandOf).step t (.markOnline k false) = some t') (hk : t.1.polls[k]? = some poll) :
    ∃ metric, (k, metric) ∈ t'.2.fetched ∧ (k, metric) ∉ t'.2.persisted ∧
      t'.1.polls[k]? ≠ some { poll with phase := .markingOnline metric } ∧
      (t'.1.poller.failureCounts poll.inverter.id).getD 0 = (t.1.poller.failureCounts poll.inverter.id).getD 0 + 1 := by
  obtain ⟨s, n⟩ := t
  obtain ⟨s', n'⟩ := t'
  have hp := pending_reach h
  have hn : n' = Notes.next s (.markOnline k false) s' n := (Machine.step_noting hs).2
  have hc : Change brandOf s (.markOnline k false) s' := change_of_step (Machine.step_noting hs).1
  have hfetched : ∀ metric, (k, metric) ∈ n.fetched → (k, metric) ∈ n'.fetched := by
    intro metric hm
    rw [hn]
    exact (mem_fetched_next hc).mpr (.inl hm)
  have hpersisted : ∀ metric, (k, metric) ∈ n'.persisted → (k, metric) ∈ n.persisted := by
    intro metric hm
    rw [hn] at hm
    rcases (mem_persisted_next hc).mp hm with hm | ⟨ha, -⟩
    · exact hm
    · cases ha
  cases hc with
  | markOnlineFailed _ poll' metric hq hm =>
    cases hk.symm.trans hq
    refine ⟨metric, hfetched metric (hp.fetched k poll metric hk hm), fun hx => ?_, ?_,
      failureCount_fetchFailed s k poll⟩
    · exact hp.unsaved k poll metric hk (.inr ⟨metric, hm⟩) (hpersisted metric hx)
    · rcases getElem?_fetchFailed hk with ⟨-, hf⟩ | ⟨-, hf⟩
      · rw [hf]
        exact fun he => by cases he
      · rw [hf]
        exact fun he => by cases he

end

/-- An outage of two fetches, a reading, and one more failed fetch. -/
theorem reading_kept_polled : ∃ s, ((noted evenVictron).only fun t a => MarksOnline 7 t.1 a).run (noted evenVictron).init
      (polled ++ [.fetchMetrics 0 none, .poll .sandbox fun _ => true, .fetchMetrics 1 none,
        .poll .sandbox fun _ => true, .fetchMetrics 2 (some reading7), .markOnline 2 true,
        .poll .sandbox fun _ => true, .fetchMetrics 3 none]) = some s ∧
    (s.1.poller.failureCounts 7).getD 0 = s.2.failed 7 ∧ s.2.failed 7 = 1 := by
  have h0 : (((noted evenVictron).only fun t a => MarksOnline 7 t.1 a).run (noted evenVictron).init
      (polled ++ [.fetchMetrics 0 none, .poll .sandbox fun _ => true, .fetchMetrics 1 none,
        .poll .sandbox fun _ => true, .fetchMetrics 2 (some reading7), .markOnline 2 true,
        .poll .sandbox fun _ => true, .fetchMetrics 3 none])).map (fun s => s.2.failed 7) = some 1 := by
    decide +kernel
  obtain ⟨s, hs, hf⟩ := Option.map_eq_some_iff.mp h0
  exact ⟨s, hs, (reading_kept (Machine.path_of_run_only hs)).2.1, hf⟩

/-- A reading is fetched and the status update after it fails. -/
theorem reading_lost : ¬ ∀ brandOf s, (noted brandOf).Reach Free s → ∀ (k : Nat) (poll : Poll) metric,
    s.1.polls[k]? = some poll → (k, metric) ∈ s.2.fetched →
      (k, metric) ∈ s.2.persisted ∨ poll.phase = .markingOnline metric := by
  intro h
  have h0 : ((noted evenVictron).run (noted evenVictron).init
      (polled ++ [.fetchMetrics 0 (some reading7), .markOnline 0 false])).map (fun s =>
        (s.1.polls[0]?, s.2.fetched, s.2.persisted)) =
      some (some ⟨.sandbox, inverter7, .finished⟩, [(0, reading7)], []) := by decide +kernel
  obtain ⟨s, hs, h0⟩ := Option.map_eq_some_iff.mp h0
  simp only [Prod.mk.injEq] at h0
  obtain ⟨hk, hf, hp⟩ := h0
  have hm := h evenVictron s (Machine.path_of_run hs) 0 _ reading7 hk (by rw [hf]; exact List.mem_singleton_self _)
  rw [hp] at hm
  rcases hm with hm | hm
  · cases hm
  · cases hm

/-- Three polls overlap and fetch; it is their status updates that mark the inverter offline. -/
theorem unfailed_marked_offline : ∃ s, (noted evenVictron).run (noted evenVictron).init
      (polled ++ [.poll .sandbox fun _ => true, .poll .sandbox fun _ => true, .fetchMetrics 0 (some reading7),
        .fetchMetrics 1 (some reading7), .fetchMetrics 2 (some reading7), .markOnline 0 false, .markOnline 1 false,
        .markOnline 2 false, .markOffline 2 true]) = some s ∧
    s.2.failed 7 = 0 ∧ s.2.persisted = [] ∧ s.1.inverters.map (·.isOffline) = [true] := by
  have h0 : ((noted evenVictron).run (noted evenVictron).init
      (polled ++ [.poll .sandbox fun _ => true, .poll .sandbox fun _ => true, .fetchMetrics 0 (some reading7),
        .fetchMetrics 1 (some reading7), .fetchMetrics 2 (some reading7), .markOnline 0 false, .markOnline 1 false,
        .markOnline 2 false, .markOffline 2 true])).map (fun s =>
        (s.2.failed 7, s.2.persisted, s.1.inverters.map (·.isOffline))) = some (0, [], [true]) := by decide +kernel
  obtain ⟨s, hs, h0⟩ := Option.map_eq_some_iff.mp h0
  simp only [Prod.mk.injEq] at h0
  exact ⟨s, hs, h0⟩

end IntellApi.MetricsPolls
