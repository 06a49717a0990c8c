import IntellApi.FetchOutages

/-!
# Offline alerts

The look-up before an offline alert asks for the newest one of the inverter's
user, whichever inverter it was about. An outage is reported as long as a recent
alert of the user comes with a recent alert about the inverter itself.
-/

namespace IntellApi.MetricsPolls

open Function Alerts MetricEvents MetricsPoller Lts

/-! ## The look-up -/

/-- An alert about an inverter was created after a point in time. -/
def Reported (s : State) (inverterId : Uuid) (since : Int) : Prop :=
  ∃ a ∈ s.alerts, a.inverterId = inverterId ∧ since < getTime a.alert.createdAt

def UserReported (s : State) (userId : Uuid) (since : Int) : Prop :=
  ∃ a ∈ s.alerts, a.alert.userId = userId ∧ since < getTime a.alert.createdAt

instance (s : State) (inverterId : Uuid) (since : Int) : Decidable (Reported s inverterId since) :=
  inferInstanceAs (Decidable (∃ a ∈ s.alerts, _))

instance (s : State) (userId : Uuid) (since : Int) : Decidable (UserReported s userId since) :=
  inferInstanceAs (Decidable (∃ a ∈ s.alerts, _))

def Phase.cooldownCutoff : Phase → Option Int
  | .findingRecentAlert now => some (now - cooldownMinutes * 60 * 1000)
  | _ => none

/-- Where a look-up finds a recent alert of the user, there is a recent one about the inverter. -/
def SameInverter (s : State) : Action → Prop
  | .findRecentAlert k _ => ∀ poll ∈ s.polls[k]?, ∀ since ∈ poll.phase.cooldownCutoff,
      UserReported s poll.inverter.userId since → Reported s poll.inverter.id since
  | _ => True

/-- The calls an alert depends on succeed. -/
def Succeeds : Action → Prop
  | .markOnline _ ok | .markOffline _ ok | .findRecentAlert _ ok | .saveAlert _ ok | .add _ ok => ok = true
  | _ => True

instance (s : State) : (a : Action) → Decidable (SameInverter s a)
  | .findRecentAlert k _ => inferInstanceAs (Decidable (∀ poll ∈ s.polls[k]?, ∀ since ∈ poll.phase.cooldownCutoff, _))
  | .markOnline _ _ | .fetchMetrics _ _ | .tick _ | .base _ | .poll _ _ | .markOffline _ _ | .save _ _
  | .publish _ _ | .saveAlert _ _ | .add _ _ => instDecidableTrue

instance : (a : Action) → Decidable (Succeeds a)
  | .markOnline _ ok | .markOffline _ ok | .findRecentAlert _ ok | .saveAlert _ ok | .add _ ok =>
    inferInstanceAs (Decidable (ok = true))
  | .fetchMetrics _ _ | .tick _ | .base _ | .poll _ _ | .save _ _ | .publish _ _ => instDecidableTrue

section
variable {brandOf : Uuid → InverterBrand} {s s' : State} {a : Action} {n : Notes} {k : Nat} {poll : Poll}
  {userId id : Uuid} {since since' : Int}

theorem Reported.mono (h : Reported s id since) (hs : ∀ a ∈ s.alerts, a ∈ s'.alerts) (hle : since' ≤ since) :
    Reported s' id since' := by
  obtain ⟨a, hm, hid, ht⟩ := h
  exact ⟨a, hs a hm, hid, Int.lt_of_le_of_lt hle ht⟩

theorem getTime_mono {t t' : Int} (h : t ≤ t') : getTime t ≤ getTime t' := Int.ediv_le_ediv (by decide) h

/-- Time goes on, and no alert is ever deleted. -/
theorem grows_of_change (hc : Change brandOf s a s') : s.clock ≤ s'.clock ∧ ∀ a ∈ s.alerts, a ∈ s'.alerts := by
  cases hc with
  | tick us => exact ⟨Int.le_add_of_nonneg_right (Int.natCast_nonneg us), fun _ hm => hm⟩
  | savedAlert => exact ⟨Int.le_add_of_nonneg_right (by decide), fun _ hm => List.mem_cons_of_mem _ hm⟩
  | base | poll | fetched | fetchFailed | markedOnline | markOnlineFailed | markedOffline | markOfflineFailed | saved
  | saveFailed | published | publishFailed | foundRecentAlert | saveAlertFailed | added | addFailed =>
    exact ⟨Int.le_refl _, fun _ hm => hm⟩

theorem userReported_of_recentAlert
    (h : (s.recentAlert userId).any (fun a => decide (getTime a.createdAt > since)) = true) :
    UserReported s userId since := by
  obtain ⟨newest, hn, ht⟩ := Option.any_eq_true _ _ |>.mp h
  have hm := List.mem_filter.mp (Sql.newest_mem hn)
  obtain ⟨row, hr, rfl⟩ := List.mem_map.mp hm.1
  exact ⟨row, hr, (of_decide_eq_true hm.2).1, of_decide_eq_true ht⟩

def AllOffline (s : State) : Prop := ∀ a ∈ s.alerts, a.alert.type = .inverterFault

theorem allOffline_step (h : AllOffline s) (hc : Change brandOf s a s') : AllOffline s' := by
  cases hc with
  | savedAlert =>
    intro row hm
    rcases List.mem_cons.mp hm with rfl | hm
    · rfl
    · exact h row hm
  | tick | base | poll | fetched | fetchFailed | markedOnline | markOnlineFailed | markedOffline | markOfflineFailed
  | saved | saveFailed | published | publishFailed | foundRecentAlert | saveAlertFailed | added | addFailed => exact h

theorem allOffline_reach {ok : State → Action → Prop} (h : (machine brandOf).Reach ok s) : AllOffline s :=
  h.inv (fun _ hm => absurd hm List.not_mem_nil) fun _ _ _ hi _ hs => allOffline_step hi (change_of_step hs)

theorem recentAlert_of_userReported (ha : AllOffline s) (h : UserReported s userId since) :
    (s.recentAlert userId).any (fun a => decide (getTime a.createdAt > since)) = true := by
  obtain ⟨row, hm, hu, ht⟩ := h
  have hrow : row.alert ∈ (s.alerts.map (·.alert)).filter fun a => a.userId = userId ∧ a.type = .inverterFault :=
    List.mem_filter.mpr ⟨List.mem_map_of_mem hm, decide_eq_true ⟨hu, ha row hm⟩⟩
  obtain ⟨newest, -, hn, hle⟩ := Sql.exists_newest (·.createdAt) hrow
  have hle := getTime_mono (hle _ hrow)
  exact Option.any_eq_true _ _ |>.mpr ⟨newest, hn, decide_eq_true (Int.lt_of_lt_of_le ht hle)⟩

/-! ## The alert of an outage -/

/-- The poll has started to report and has not saved the alert. -/
def Phase.Reporting : Phase → Prop
  | .markingOffline | .findingRecentAlert _ | .savingAlert _ => True
  | _ => False

/-- The alert of an outage that was noticed at `clock` exists or is on its way. -/
structure OnItsWay (k : Nat) (poll : Poll) (clock : Int) (s : State) : Prop where
  later : clock ≤ s.clock
  alert : Reported s poll.inverter.id (getTime clock - cooldownMinutes * 60 * 1000) ∨
    ∃ phase, s.polls[k]? = some { poll with phase } ∧ phase.Reporting ∧
      ∀ now, phase = .findingRecentAlert now → getTime clock ≤ now

theorem onItsWay_step {clock : Int} (h : OnItsWay k poll clock s) (hok : Succeeds a) (ho : SameInverter s a)
    (hc : Change brandOf s a s') : OnItsWay k poll clock s' := by
  have hg := grows_of_change hc
  refine ⟨Int.le_trans h.later hg.1, ?_⟩
  rcases h.alert with hr | ⟨phase, hk, hp, hnow⟩
  · exact .inl (hr.mono hg.2 (Int.le_refl _))
  by_cases hn : a.poll? = some k
  · have hr := resumes_of_own hc hn hk
    cases phase with
    | markingOffline =>
      cases a with
      | markOffline k' ok =>
        cases hn
        cases hc with
        | markedOffline _ poll' hq =>
          cases hk.symm.trans hq
          refine .inr ⟨.findingRecentAlert s.now, getElem?_setPhase hk _, trivial, fun now he => ?_⟩
          cases he
          exact getTime_mono h.later
        | markOfflineFailed => cases hok
      | _ => cases hr
    | findingRecentAlert now =>
      cases a with
      | findRecentAlert k' ok =>
        cases hn
        cases hc with
        | foundRecentAlert _ _ poll' now' new hq hp' he =>
          cases hk.symm.trans hq
          cases hp'
          cases hok
          split at he
          · rename_i hs
            simp only [Bool.not_true, Bool.false_or] at hs
            have hrep := ho _ hk _ rfl (userReported_of_recentAlert hs)
            have hle := hnow now rfl
            exact .inl (hrep.mono (fun _ hm => hm) (by omega))
          · subst he
            exact .inr ⟨.savingAlert now, getElem?_setPhase hk _, trivial, fun _ he => by cases he⟩
      | _ => cases hr
    | savingAlert now =>
      cases a with
      | saveAlert k' ok =>
        cases hn
        cases hc with
        | savedAlert _ poll' now' hq =>
          cases hk.symm.trans hq
          have hle := getTime_mono h.later
          refine .inl ⟨_, List.mem_cons_self, rfl, ?_⟩
          show _ < getTime s.clock
          simp only [cooldownMinutes]
          omega
        | saveAlertFailed => cases hok
      | _ => cases hr
    | _ => cases hp
  · exact .inr ⟨phase, getElem?_of_change hc hk hn, hp, hnow⟩

/-! ## Results -/

def Reports (s : State) (a : Action) : Prop := Succeeds a ∧ SameInverter s a

instance (s : State) (a : Action) : Decidable (Reports s a) := inferInstanceAs (Decidable (_ ∧ _))

theorem marksOnline_of_succeeds (h : Succeeds a) (id : Uuid) : MarksOnline id s a := by
  cases a with
  | markOnline k ok =>
    cases h
    trivial
  | _ => trivial

theorem reporting_of_third {t t' : Noted} (h : Told brandOf poll.inverter.id t)
    (hs : (noted brandOf).step t (.fetchMetrics k none) = some t') (hk : t.1.polls[k]? = some poll)
    (h3 : 3 ≤ t'.2.failed poll.inverter.id) : t'.1.polls[k]? = some { poll with phase := .markingOffline } := by
  have hcount := (told_step (a := .fetchMetrics k none) h trivial hs).counted
  obtain ⟨s, n⟩ := t
  obtain ⟨s', n'⟩ := t'
  have hc : Change brandOf s (.fetchMetrics k none) s' := change_of_step (Machine.step_noting hs).1
  cases hc with
  | fetchFailed _ poll' hq =>
    cases hk.symm.trans hq
    rcases getElem?_fetchFailed hk with ⟨-, hf⟩ | ⟨hlt, -⟩
    · exact hf
    · have hadd : (s.poller.failureCounts poll.inverter.id).getD 0 + 1 = n'.failed poll.inverter.id :=
        (failureCount_fetchFailed s k poll).symm.trans hcount
      rw [← hadd] at h3
      exact absurd (Nat.le_of_succ_le_succ h3) (Nat.not_le_of_lt hlt)

/-- As long as a recent alert of the user comes with one about the inverter, every
third failed fetch in a row leads to an alert about the inverter, unless there is
one of the last hour already. -/
theorem offline_reported {t t' u : Noted} (h : (noted brandOf).Reach (fun t a => Reports t.1 a) t)
    (hs : (noted brandOf).step t (.fetchMetrics k none) = some t') (hk : t.1.polls[k]? = some poll)
    (h3 : 3 ≤ t'.2.failed poll.inverter.id) (hu : (noted brandOf).Path (fun t a => Reports t.1 a) t' u) :
    Reported u.1 poll.inverter.id (t'.1.now - cooldownMinutes * 60 * 1000) ∨
      ∃ phase, u.1.polls[k]? = some { poll with phase } ∧ phase.Reporting := by
  have ht := told_reach (h.mono fun t a ho => marksOnline_of_succeeds ho.1 poll.inverter.id)
  have h0 : OnItsWay k poll t'.1.clock t'.1 :=
    ⟨Int.le_refl _, .inr ⟨_, reporting_of_third ht hs hk h3, trivial, fun _ he => by cases he⟩⟩
  have hu' := hu.keep (I := fun u : Noted => OnItsWay k poll t'.1.clock u.1)
    (fun u a u' hi ho hs => onItsWay_step hi ho.1 ho.2 (change_of_step (Machine.step_noting hs).1)) h0
  exact hu'.alert.imp_right fun ⟨phase, hk, hp, _⟩ => ⟨phase, hk, hp⟩

/-- Any look-up that finds a recent alert of the user and none about the inverter ends without an alert. -/
theorem unreported_of_not_sameInverter (h : (machine brandOf).Reach Free s)
    (hs : (machine brandOf).step s (.findRecentAlert k true) = some s') (ho : ¬ SameInverter s (.findRecentAlert k true)) :
    ∃ poll now, s.polls[k]? = some poll ∧ poll.phase = .findingRecentAlert now ∧
      s'.polls[k]? = some { poll with phase := .finished } ∧
      ¬ Reported s' poll.inverter.id (now - cooldownMinutes * 60 * 1000) := by
  have ha := allOffline_reach h
  have hc : Change brandOf s (.findRecentAlert k true) s' := change_of_step hs
  cases hc with
  | foundRecentAlert _ _ poll now phase hk hp he =>
    have hx : UserReported s poll.inverter.userId (now - cooldownMinutes * 60 * 1000) ∧
        ¬ Reported s poll.inverter.id (now - cooldownMinutes * 60 * 1000) := by
      by_contra hne
      refine ho fun poll' hk' since hs hu => ?_
      cases hk.symm.trans hk'
      rw [hp] at hs
      cases hs
      by_contra hr
      exact hne ⟨hu, hr⟩
    rw [if_pos (by rw [recentAlert_of_userReported ha hx.1]; rfl)] at he
    subst he
    exact ⟨poll, now, hk, hp, getElem?_setPhase hk _, hx.2⟩

end

/-! ## A user with two inverters -/

/-- Both are polled three times, and the fetches of inverter 9 fail five minutes later. -/
def bothFail : List Action :=
  bothTracked ++ [.poll .sandbox fun _ => true, .fetchMetrics 0 none, .poll .sandbox fun _ => true,
    .fetchMetrics 2 none, .poll .sandbox fun _ => true, .fetchMetrics 4 none, .markOffline 4 true, .findRecentAlert 4 true, .saveAlert 4 true,
    .add 4 true, .tick 300000000, .fetchMetrics 1 none, .fetchMetrics 3 none]

/-- Inverter 9 goes offline five minutes after inverter 7. -/
theorem second_inverter_unreported : ¬ ∀ brandOf t t' u (k : Nat) (poll : Poll),
    (noted brandOf).Reach (fun _ a => Succeeds a) t → (noted brandOf).step t (.fetchMetrics k none) = some t' →
    t.1.polls[k]? = some poll → 3 ≤ t'.2.failed poll.inverter.id →
    (noted brandOf).Path (fun _ a => Succeeds a) t' u →
    Reported u.1 poll.inverter.id (t'.1.now - cooldownMinutes * 60 * 1000) ∨
      ∃ phase, u.1.polls[k]? = some { poll with phase } ∧ phase.Reporting := by
  intro h
  have h0 : (((noted evenVictron).only fun _ a => Succeeds a).run (noted evenVictron).init bothFail).bind (fun t =>
      ((noted evenVictron).step t (.fetchMetrics 5 none)).bind fun t' =>
        (((noted evenVictron).only fun _ a => Succeeds a).run t' [.markOffline 5 true, .findRecentAlert 5 true]).map fun u =>
          (t.1.polls[5]?, t'.2.failed 9, u.1.polls[5]?, decide (Reported u.1 9 (t'.1.now - cooldownMinutes * 60 * 1000)))) =
      some (some ⟨.sandbox, inverter9, .fetching⟩, 3, some ⟨.sandbox, inverter9, .finished⟩, false) := by decide +kernel
  obtain ⟨t, ht, h0⟩ := Option.bind_eq_some_iff.mp h0
  obtain ⟨t', hs, h0⟩ := Option.bind_eq_some_iff.mp h0
  obtain ⟨u, hu, h0⟩ := Option.map_eq_some_iff.mp h0
  simp only [Prod.mk.injEq] at h0
  obtain ⟨hk, h3, hf, hr⟩ := h0
  rcases h evenVictron t t' u 5 _ (Machine.path_of_run_only ht) hs hk (Nat.le_of_eq h3.symm)
    (Machine.path_of_run_only hu) with hrep | ⟨phase, hp, hrep⟩
  · exact of_decide_eq_false hr hrep
  · cases hf.symm.trans hp
    cases hrep

/-- Inverter 7 is polled alone, and reported. -/
theorem offline_reported_alone : ∃ t t' u, ((noted evenVictron).only fun t a => Reports t.1 a).run (noted evenVictron).init
      (polled ++ [.fetchMetrics 0 none, .poll .sandbox fun _ => true, .fetchMetrics 1 none,
        .poll .sandbox fun _ => true]) = some t ∧
    (noted evenVictron).step t (.fetchMetrics 2 none) = some t' ∧
    ((noted evenVictron).only fun t a => Reports t.1 a).run t'
      [.markOffline 2 true, .findRecentAlert 2 true, .saveAlert 2 true, .add 2 true] = some u ∧
    u.1.polls[2]? = some ⟨.sandbox, inverter7, .finished⟩ ∧
    Reported u.1 7 (t'.1.now - cooldownMinutes * 60 * 1000) := by
  have h0 : (((noted evenVictron).only fun t a => Reports t.1 a).run (noted evenVictron).init
      (polled ++ [.fetchMetrics 0 none, .poll .sandbox fun _ => true, .fetchMetrics 1 none,
        .poll .sandbox fun _ => true])).bind (fun t =>
      ((noted evenVictron).step t (.fetchMetrics 2 none)).bind fun t' =>
        (((noted evenVictron).only fun t a => Reports t.1 a).run t'
          [.markOffline 2 true, .findRecentAlert 2 true, .saveAlert 2 true, .add 2 true]).map fun u =>
          (t.1.polls[2]?, t'.2.failed 7, u.1.polls[2]?)) =
      some (some ⟨.sandbox, inverter7, .fetching⟩, 3, some ⟨.sandbox, inverter7, .finished⟩) := by decide +kernel
  obtain ⟨t, ht, h0⟩ := Option.bind_eq_some_iff.mp h0
  obtain ⟨t', hs, h0⟩ := Option.bind_eq_some_iff.mp h0
  obtain ⟨u, hu, h0⟩ := Option.map_eq_some_iff.mp h0
  simp only [Prod.mk.injEq] at h0
  obtain ⟨hk, h3, hf⟩ := h0
  refine ⟨t, t', u, ht, hs, hu, hf, ?_⟩
  rcases offline_reported (Machine.path_of_run_only ht) hs hk (Nat.le_of_eq h3.symm) (Machine.path_of_run_only hu)
    with hrep | ⟨phase, hp, hrep⟩
  · exact hrep
  · cases hf.symm.trans hp
    cases hrep

end IntellApi.MetricsPolls
