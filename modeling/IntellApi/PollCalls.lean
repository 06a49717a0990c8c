import IntellApi.PollRounds

/-!
# The calls of a poll

Notes beside the polls say which calls each poll has begun. In a round a poll
begins the calls that the function `poll` lists, in that order.
-/

namespace IntellApi.MetricsPolls

open MetricEvents MetricsPoller Lts

/-! ## Calls begun and calls due -/

/-- The call that a poll is suspended at; the three steps of an alert are one call. -/
def Phase.calls : Phase → List Call
  | .fetching => [.fetchMetrics]
  | .markingOnline _ => [.markOnline]
  | .saving metric => [.persistAndPublish metric]
  | .markingOffline => [.markOffline]
  | .findingRecentAlert _ => [.fireInverterOfflineAlert]
  | .publishing _ | .savingAlert _ | .addingJob _ | .finished => []

/-- A poll that is new or resumed begins the call that it is suspended at. -/
def begun (s : State) (a : Action) (t : State) (calls : Nat → List Call) (k : Nat) : List Call :=
  match t.polls[k]? with
  | some poll => if a.poll? = some k ∨ s.polls.length ≤ k then calls k ++ poll.phase.calls else calls k
  | none => calls k

def calling (brandOf : Uuid → InverterBrand) : Machine (State × (Nat → List Call)) Action :=
  (machine brandOf).noting (fun _ => []) begun

namespace PollOne

/-- The calls that a suspended poll has still to begin. -/
def due (p : PollOne) (inverterId : Uuid) (o : Outcome) (failureCount : Option Nat) : Phase → List Call
  | .fetching => (p.poll inverterId { o with decrypted := true } failureCount).calls.tail
  | .markingOnline metric =>
    if o.markedOnline then [.persistAndPublish metric] else (fetchFailed o failureCount []).calls
  | .markingOffline => if o.markedOffline then [.fireInverterOfflineAlert] else []
  | _ => []

section
variable {p : PollOne} {inverterId : Uuid} {o : Outcome} {n : Option Nat} {metric : NormalisedMetric} {phase : Phase}

theorem due_returned (h : phase.Returned) : p.due inverterId o n phase = [] := by
  cases phase with
  | findingRecentAlert | savingAlert | addingJob | finished => rfl
  | _ => cases h

theorem poll_calls (h : o.decrypted = true) :
    (p.poll inverterId o n).calls = .fetchMetrics :: p.due inverterId o n .fetching := by
  have ho : { o with decrypted := true } = o := by rw [← h]
  unfold due
  rw [ho]
  unfold poll
  rw [if_pos h]
  split
  · split
    · rfl
    · rfl
  · rfl

theorem due_fetched (h : o.fetched = some metric) : p.due inverterId o n .fetching =
    .markOnline :: p.due inverterId o (some 0) (.markingOnline (p.reading inverterId metric)) := by
  simp only [due, poll, h, if_true]
  by_cases hm : o.markedOnline = true
  · rw [if_pos hm, if_pos hm]
    rfl
  · rw [if_neg hm, if_neg hm]
    rfl

theorem fetchFailed_calls (p : PollOne) (inverterId : Uuid) : (fetchFailed o n []).calls =
    if n.getD 0 ≥ 2 then .markOffline :: p.due inverterId o n .markingOffline else [] := by
  simp only [fetchFailed, due, List.nil_append]
  cases o.markedOffline with
  | true => rfl
  | false => rfl

theorem due_fetchFailed (h : o.fetched = none) :
    p.due inverterId o n .fetching = (fetchFailed o n []).calls := by
  simp only [due, poll, h, if_true, fetchFailed]
  rfl

end

end PollOne

/-! ## Steps -/

section
variable {brandOf : Uuid → InverterBrand} {s s' : State} {a : Action} {k : Nat} {poll : Poll} {o : Uuid → Outcome}

/-- The counter of the inverter of a poll. -/
def State.countOf (s : State) (poll : Poll) : Option Nat := s.poller.failureCounts poll.inverter.id

/-- The calls that a poll of a round has still to begin. -/
def dueCalls (o : Uuid → Outcome) (s : State) (poll : Poll) (phase : Phase) : List Call :=
  (pollOne poll.brand).due poll.inverter.id (o poll.inverter.id) (s.countOf poll) phase

theorem due_of_fetchFailed {phase : Phase} (hk : s.polls[k]? = some poll)
    (hk' : (s.fetchFailed k poll).polls[k]? = some { poll with phase }) :
    (PollOne.fetchFailed (o poll.inverter.id) (s.countOf poll) []).calls =
      phase.calls ++ dueCalls o (s.fetchFailed k poll) poll phase := by
  rw [PollOne.fetchFailed_calls (pollOne poll.brand) poll.inverter.id]
  rcases getElem?_fetchFailed hk with ⟨h2, hf⟩ | ⟨hlt, hf⟩
  · cases hk'.symm.trans hf
    exact if_pos h2
  · cases hk'.symm.trans hf
    exact if_neg (Nat.not_le_of_lt hlt)

theorem due_of_own {phase : Phase} (hc : Change brandOf s a s') (hn : a.poll? = some k) (hf : Follows o s a)
    (hk : s.polls[k]? = some poll) (hk' : s'.polls[k]? = some { poll with phase }) :
    dueCalls o s poll poll.phase = phase.calls ++ dueCalls o s' poll phase := by
  have moved : ∀ new : Phase, s'.polls = s.polls.set k { poll with phase := new } → phase = new := by
    intro new he
    rw [he, getElem?_setPhase hk] at hk'
    exact (congrArg Poll.phase (Option.some.inj hk')).symm
  cases hc with
  | tick | base | poll => cases hn
  | fetched k' poll' metric hq hp =>
    cases hn
    cases hk.symm.trans hq
    rw [moved _ rfl, hp, dueCalls, PollOne.due_fetched (hf poll hk).symm]
    have hview : (s.setFailureCount poll.inverter.id 0).view poll.inverter.id =
        { s.view poll.inverter.id with failureCount := some 0 } := view_setFailureCount
    exact congrArg (fun v => Call.markOnline :: (pollOne poll.brand).due _ _ v.failureCount _) hview.symm
  | fetchFailed k' poll' hq hp =>
    cases hn
    cases hk.symm.trans hq
    rw [hp, dueCalls, PollOne.due_fetchFailed (hf poll hk).symm]
    exact due_of_fetchFailed hk hk'
  | markOnlineFailed k' poll' metric hq hp =>
    cases hn
    cases hk.symm.trans hq
    rw [hp, dueCalls, PollOne.due, if_neg (by simp [← hf poll hk])]
    exact due_of_fetchFailed hk hk'
  | markedOnline k' poll' metric hq hp =>
    cases hn
    cases hk.symm.trans hq
    rw [moved _ rfl, hp]
    exact if_pos (hf poll hk).symm
  | markedOffline k' poll' hq hp =>
    cases hn
    cases hk.symm.trans hq
    rw [moved _ rfl, hp]
    exact if_pos (hf poll hk).symm
  | markOfflineFailed k' poll' hq hp =>
    cases hn
    cases hk.symm.trans hq
    rw [moved _ rfl, hp]
    exact if_neg (by simp [← hf poll hk])
  | foundRecentAlert k' ok poll' now new hq hp he =>
    cases hn
    cases hk.symm.trans hq
    rw [moved new rfl, hp, he]
    split
    · rfl
    · rfl
  | saved k' poll' metric row hq hp | saveFailed k' ok poll' metric hq hp | published k' poll' metric hq hp
  | publishFailed k' poll' metric hq hp | savedAlert k' poll' now hq hp | saveAlertFailed k' poll' now hq hp
  | added k' poll' alertId hq hp | addFailed k' poll' alertId hq hp =>
    cases hn
    cases hk.symm.trans hq
    rw [moved _ rfl, hp]
    rfl

/-! ## Rounds -/

/-- Begun and due, the calls of poll `k` are the ones given. -/
def Accounted (o : Uuid → Outcome) (k : Nat) (calls : List Call) (t : State × (Nat → List Call)) : Prop :=
  ∃ poll, t.1.polls[k]? = some poll ∧ t.2 k ++ dueCalls o t.1 poll poll.phase = calls

theorem accounted_step {brand : InverterBrand} {inverter : Inverter} {v : View} {calls : List Call}
    {n : Nat → List Call}
    (hr : InRound o brand inverter k v s) (h : Accounted o k calls (s, n)) (hown : OwnReadings brand o)
    (hf : Follows o s a) (hc : Change brandOf s a s') : Accounted o k calls (s', begun s a s' n) := by
  obtain ⟨poll, hk, hcalls⟩ := h
  by_cases hn : a.poll? = some k
  · obtain ⟨poll', phase, hq, hk'⟩ := own_of_change hc hn
    cases hk.symm.trans hq
    have hbegun : begun s a s' n k = n k ++ phase.calls := by
      unfold begun
      rw [hk']
      exact if_pos (.inl hn)
    refine ⟨_, hk', ?_⟩
    show begun s a s' n k ++ dueCalls o s' poll phase = calls
    rw [hbegun, List.append_assoc, ← due_of_own hc hn hf hk hk']
    exact hcalls
  · have hk' := getElem?_of_change hc hk hn
    have hlt : k < s.polls.length := (List.getElem?_eq_some_iff.mp hk).1
    have hbegun : begun s a s' n k = n k := by
      unfold begun
      rw [hk']
      exact if_neg fun hx => hx.elim hn (Nat.not_le_of_lt hlt)
    have hcount : s'.countOf poll = s.countOf poll := by
      obtain ⟨phase, hq, -⟩ := hr.own
      cases hk.symm.trans hq
      exact congrArg View.failureCount (hr.view_of_other hown hf hc hn)
    refine ⟨poll, hk', ?_⟩
    show begun s a s' n k ++ PollOne.due _ _ _ (s'.countOf poll) _ = calls
    rw [hbegun, hcount]
    exact hcalls

theorem accounted_poll {brand : InverterBrand} {inverter : Inverter} {t : State × (Nat → List Call)} {j : Nat}
    (hj : (s.poller.tracked.getArrayForBrand brand)[j]? = some inverter)
    (hs : (calling brandOf).step (s, fun _ => []) (.poll brand fun id => (o id).decrypted) = some t) :
    Accounted o (s.polls.length + j)
      ((pollOne brand).poll inverter.id (o inverter.id) (s.view inverter.id).failureCount).calls t := by
  obtain ⟨s', n⟩ := t
  have hn : n = begun s (.poll brand fun id => (o id).decrypted) s' fun _ => [] := (Machine.step_noting hs).2
  have hs : (machine brandOf).step s (.poll brand fun id => (o id).decrypted) = some s' := (Machine.step_noting hs).1
  have hk := getElem?_poll hj hs
  have hpoller : s'.poller = s.poller := by
    cases hs
    rfl
  have hbegun : begun s (.poll brand fun id => (o id).decrypted) s' (fun _ => []) (s.polls.length + j) =
      (if (o inverter.id).decrypted then Phase.fetching else .finished).calls := by
    unfold begun
    rw [hk]
    exact if_pos (.inr (Nat.le_add_right _ _))
  refine ⟨_, hk, ?_⟩
  show n _ ++ PollOne.due _ _ _ (s'.poller.failureCounts inverter.id) (ite _ _ _) = _
  rw [hn, hbegun, hpoller]
  by_cases hd : (o inverter.id).decrypted = true
  · rw [PollOne.poll_calls hd, if_pos hd]
    rfl
  · rw [if_neg hd, PollOne.poll, if_neg hd]
    rfl

/-- In a round, too, the poll of an inverter makes the calls that polling it alone makes. -/
theorem round_calls {brand : InverterBrand} {inverter : Inverter} {t' t : State × (Nat → List Call)}
    (hret : ∀ poll ∈ s.polls, poll.phase.Returned)
    (hnd : ((s.poller.tracked.getArrayForBrand brand).map (·.id)).Nodup) (hown : OwnReadings brand o)
    (hs : (calling brandOf).step (s, fun _ => []) (.poll brand fun id => (o id).decrypted) = some t')
    (ht : (calling brandOf).Path (fun t a => Follows o t.1 a) t' t) (hfin : ∀ poll ∈ t.1.polls, poll.phase.Returned)
    (hi : inverter ∈ s.poller.tracked.getArrayForBrand brand) :
    ∃ k poll, s.polls.length ≤ k ∧ t.1.polls[k]? = some poll ∧ poll.inverter = inverter ∧
      t.2 k = ((pollOne brand).poll inverter.id (o inverter.id) (s.view inverter.id).failureCount).calls := by
  obtain ⟨j, hj⟩ := List.mem_iff_getElem?.mp hi
  have h0 := accounted_poll hj hs
  have hround := inRound_poll hret rfl hnd hj (Machine.step_noting hs).1
  have hinv := ht.keep
    (I := fun t => InRound o brand inverter (s.polls.length + j) _ t.1 ∧ Accounted o (s.polls.length + j) _ t)
    (fun t a u hi hf hst => by
      obtain ⟨hst, hn⟩ := Machine.step_noting hst
      have hc := change_of_step hst
      have hcalls := accounted_step hi.1 hi.2 hown hf hc
      rw [← hn] at hcalls
      exact ⟨inRound_step hi.1 hown hf hc, hcalls⟩) ⟨hround, h0⟩
  obtain ⟨poll, hp, hcalls⟩ := hinv.2
  obtain ⟨phase, hq, -⟩ := hinv.1.own
  cases hp.symm.trans hq
  refine ⟨_, _, Nat.le_add_right _ _, hp, rfl, ?_⟩
  rw [← hcalls, dueCalls, PollOne.due_returned (hfin _ (List.mem_of_getElem? hp)), List.append_nil]

end

end IntellApi.MetricsPolls
