import IntellApi.MetricsPolls
import IntellApi.MetricsPollerSound

/-!
# The failure counters

A counter is written when a fetch is answered and when `markOnline` fails, and
deleted when its inverter is deregistered. A poll that was started before the
deregistration and is resumed after it writes a counter that nothing deletes.
-/

namespace IntellApi.MetricsPolls

open Function Alerts MetricEvents MetricsPoller Lts

/-! ## What a step does -/

section
variable (brandOf : Uuid → InverterBrand)

inductive Change (s : State) : Action → State → Prop
  | tick (us : Nat) : Change s (.tick us) { s with clock := s.clock + us }
  | base (e : MetricsPoller.Event) (base : MetricsPoller.State) : MetricsPoller.step brandOf s.toState e = some base →
    Change s (.base e) { s with toState := base }
  | poll (brand : InverterBrand) (decrypted : Uuid → Bool) :
    Change s (.poll brand decrypted)
      { s with polls := s.polls ++ (s.poller.tracked.getArrayForBrand brand).map fun inverter =>
          Poll.mk brand inverter (if decrypted inverter.id then .fetching else .finished) }
  | fetched (k : Nat) (poll : Poll) (metric : NormalisedMetric) : s.polls[k]? = some poll → poll.phase = .fetching →
    Change s (.fetchMetrics k (some metric)) ((s.setFailureCount poll.inverter.id 0).setPhase k poll
      (.markingOnline ((pollOne poll.brand).reading poll.inverter.id metric)))
  | fetchFailed (k : Nat) (poll : Poll) : s.polls[k]? = some poll → poll.phase = .fetching →
    Change s (.fetchMetrics k none) (s.fetchFailed k poll)
  | markedOnline (k : Nat) (poll : Poll) (metric : NormalisedMetric) : s.polls[k]? = some poll →
    poll.phase = .markingOnline metric →
    Change s (.markOnline k true) ((s.setOffline poll.inverter.id false).setPhase k poll (.saving metric))
  | markOnlineFailed (k : Nat) (poll : Poll) (metric : NormalisedMetric) : s.polls[k]? = some poll →
    poll.phase = .markingOnline metric → Change s (.markOnline k false) (s.fetchFailed k poll)
  | markedOffline (k : Nat) (poll : Poll) : s.polls[k]? = some poll → poll.phase = .markingOffline →
    Change s (.markOffline k true)
      ((s.setOffline poll.inverter.id true).setPhase k poll (.findingRecentAlert s.now))
  | markOfflineFailed (k : Nat) (poll : Poll) : s.polls[k]? = some poll → poll.phase = .markingOffline →
    Change s (.markOffline k false) (s.setPhase k poll .finished)
  | saved (k : Nat) (poll : Poll) (metric : NormalisedMetric) (row : InvertersMetrics) : s.polls[k]? = some poll →
    poll.phase = .saving metric → MetricEvents.save metric = some row →
    Change s (.save k true) ({ s with metrics := row :: s.metrics }.setPhase k poll (.publishing metric))
  | saveFailed (k : Nat) (ok : Bool) (poll : Poll) (metric : NormalisedMetric) : s.polls[k]? = some poll →
    poll.phase = .saving metric → (ok = true → MetricEvents.save metric = none) →
    Change s (.save k ok) (s.setPhase k poll .finished)
  | published (k : Nat) (poll : Poll) (metric : NormalisedMetric) : s.polls[k]? = some poll →
    poll.phase = .publishing metric →
    Change s (.publish k true) ({ s with published := s.published ++ [viaJson metric] }.setPhase k poll .finished)
  | publishFailed (k : Nat) (poll : Poll) (metric : NormalisedMetric) : s.polls[k]? = some poll →
    poll.phase = .publishing metric → Change s (.publish k false) (s.setPhase k poll .finished)
  | foundRecentAlert (k : Nat) (ok : Bool) (poll : Poll) (now : Int) (phase : Phase) : s.polls[k]? = some poll →
    poll.phase = .findingRecentAlert now →
    phase = (if !ok || (s.recentAlert poll.inverter.userId).any fun a =>
        decide (getTime a.createdAt > now - cooldownMinutes * 60 * 1000) then .finished else .savingAlert now) →
    Change s (.findRecentAlert k ok) (s.setPhase k poll phase)
  | savedAlert (k : Nat) (poll : Poll) (now : Int) : s.polls[k]? = some poll → poll.phase = .savingAlert now →
    Change s (.saveAlert k true) ({ s with
      alerts := offlineAlert poll.inverter now s.clock :: s.alerts
      clock := s.clock + 1 }.setPhase k poll (.addingJob s.alerts.length))
  | saveAlertFailed (k : Nat) (poll : Poll) (now : Int) : s.polls[k]? = some poll → poll.phase = .savingAlert now →
    Change s (.saveAlert k false) (s.setPhase k poll .finished)
  | added (k : Nat) (poll : Poll) (alertId : Nat) : s.polls[k]? = some poll → poll.phase = .addingJob alertId →
    Change s (.add k true) ({ s with jobs := alertId :: s.jobs }.setPhase k poll .finished)
  | addFailed (k : Nat) (poll : Poll) (alertId : Nat) : s.polls[k]? = some poll → poll.phase = .addingJob alertId →
    Change s (.add k false) (s.setPhase k poll .finished)

end

variable {brandOf : Uuid → InverterBrand} {s s' : State} {a : Action}

theorem change_of_step (h : step brandOf s a = some s') : Change brandOf s a s' := by
  cases a with
  | tick us =>
    cases h
    exact .tick us
  | base e =>
    obtain ⟨base, hb, rfl⟩ := Option.map_eq_some_iff.mp h
    exact .base e base hb
  | poll brand decrypted =>
    cases h
    exact .poll brand decrypted
  | fetchMetrics k answer =>
    simp only [step] at h
    split at h
    · rename_i poll hk
      split at h <;> cases h
      · rename_i metric hp
        exact .fetched k poll metric hk hp
      · rename_i hp
        exact .fetchFailed k poll hk hp
    · cases h
  | markOnline k ok =>
    simp only [step] at h
    split at h
    · rename_i poll hk
      split at h
      · rename_i metric hp
        cases ok with
        | true =>
          cases h
          exact .markedOnline k poll metric hk hp
        | false =>
          cases h
          exact .markOnlineFailed k poll metric hk hp
      · cases h
    · cases h
  | markOffline k ok =>
    simp only [step] at h
    split at h
    · rename_i poll hk
      split at h
      · rename_i hp
        cases ok with
        | true =>
          cases h
          exact .markedOffline k poll hk hp
        | false =>
          cases h
          exact .markOfflineFailed k poll hk hp
      · cases h
    · cases h
  | save k ok =>
    simp only [step] at h
    split at h
    · rename_i poll hk
      split at h
      · rename_i metric hp
        cases ok with
        | true =>
          cases hr : MetricEvents.save metric with
          | some row =>
            simp only [hr] at h
            cases h
            exact .saved k poll metric row hk hp hr
          | none =>
            simp only [hr] at h
            cases h
            exact .saveFailed k true poll metric hk hp fun _ => hr
        | false =>
          cases h
          exact .saveFailed k false poll metric hk hp fun hok => by cases hok
      · cases h
    · cases h
  | publish k ok =>
    simp only [step] at h
    split at h
    · rename_i poll hk
      split at h
      · rename_i metric hp
        cases ok with
        | true =>
          cases h
          exact .published k poll metric hk hp
        | false =>
          cases h
          exact .publishFailed k poll metric hk hp
      · cases h
    · cases h
  | findRecentAlert k ok =>
    simp only [step] at h
    split at h
    · rename_i poll hk
      split at h <;> cases h
      rename_i now hp
      exact .foundRecentAlert k ok poll now _ hk hp rfl
    · cases h
  | saveAlert k ok =>
    simp only [step] at h
    split at h
    · rename_i poll hk
      split at h
      · rename_i now hp
        cases ok with
        | true =>
          cases h
          exact .savedAlert k poll now hk hp
        | false =>
          cases h
          exact .saveAlertFailed k poll now hk hp
      · cases h
    · cases h
  | add k ok =>
    simp only [step] at h
    split at h
    · rename_i poll hk
      split at h
      · rename_i alertId hp
        cases ok with
        | true =>
          cases h
          exact .added k poll alertId hk hp
        | false =>
          cases h
          exact .addFailed k poll alertId hk hp
      · cases h
    · cases h

/-! ## Counters and tracked inverters -/

def Keys (p : Poller) : Prop := ∀ id n, p.failureCounts id = some n → id ∈ p.tracked.ids

/-- A poll that is about to count is one of an inverter that is still tracked. -/
def StillTracked (s : State) : Action → Prop
  | .fetchMetrics k _ | .markOnline k false => ∀ poll ∈ s.polls[k]?, poll.inverter.id ∈ s.poller.tracked.ids
  | _ => True

instance (s : State) : (a : Action) → Decidable (StillTracked s a)
  | .fetchMetrics k _ => inferInstanceAs (Decidable (∀ poll ∈ s.polls[k]?, _))
  | .markOnline k false => inferInstanceAs (Decidable (∀ poll ∈ s.polls[k]?, _))
  | .markOnline _ true | .tick _ | .base _ | .poll _ _ | .markOffline _ _ | .save _ _ | .publish _ _
  | .findRecentAlert _ _ | .saveAlert _ _ | .add _ _ => instDecidableTrue

/-- What is so whatever the polls count. -/
structure Grounded (brandOf : Uuid → InverterBrand) (s : State) : Prop where
  rows : Rows brandOf s.inverters
  sound : Sound brandOf s.poller
  unloaded : ∀ found, s.poller.startUp = .loading found → s.poller.tracked = .empty

structure Kept (brandOf : Uuid → InverterBrand) (s : State) : Prop where
  rows : Rows brandOf s.inverters
  sound : Sound brandOf s.poller
  keys : Keys s.poller
  unloaded : ∀ found, s.poller.startUp = .loading found → s.poller.tracked = .empty

section
variable {p p' : Poller} {rows : List Inverter} {id : Uuid}

theorem Keys.count (h : Keys s.poller) (hid : id ∈ s.poller.tracked.ids) (n : Nat) :
    Keys (s.setFailureCount id n).poller := by
  intro id' m hm
  show id' ∈ s.poller.tracked.ids
  by_cases he : id' = id
  · rw [he]
    exact hid
  · refine h id' m ?_
    rw [← hm]
    exact (update_of_ne he _ _).symm

theorem Keys.fetchFailed (h : Keys s.poller) {k : Nat} {poll : Poll} (hid : poll.inverter.id ∈ s.poller.tracked.ids) :
    Keys (s.fetchFailed k poll).poller :=
  h.count hid _

theorem Keys.registered (h : Keys p) (inverter : Option Inverter) (hi : ∀ i ∈ inverter, i.id = id) :
    Keys (p.handleInverterRegistered id inverter) := by
  intro id' n hn
  cases inverter with
  | none => exact h id' n hn
  | some inverter =>
    rw [Poller.startUp_registered] at hn
    exact (Poller.ids_registered (hi inverter rfl)).mpr (.inl (h id' n hn))

/-- The counter goes with the inverter, if it is tracked at all. -/
theorem deregistered_cases (p : Poller) (id : Uuid) :
    id ∈ p.tracked.ids ∧ (p.handleInverterDeregistered id).failureCounts = update p.failureCounts id none ∨
      id ∉ p.tracked.ids ∧ p.handleInverterDeregistered id = p := by
  unfold Poller.handleInverterDeregistered
  split
  · rename_i brand hf
    have hany := List.find?_some hf
    obtain ⟨inverter, hi, he⟩ := List.any_eq_true.mp hany
    exact .inl ⟨Tracked.mem_ids.mpr ⟨brand, inverter, hi, of_decide_eq_true he⟩, rfl⟩
  · rename_i hf
    refine .inr ⟨fun hm => ?_, rfl⟩
    obtain ⟨brand, inverter, hi, he⟩ := Tracked.mem_ids.mp hm
    refine absurd (List.any_eq_true.mpr ⟨inverter, hi, decide_eq_true he⟩) (List.find?_eq_none.mp hf brand ?_)
    cases brand <;> decide

theorem failureCounts_deregistered (p : Poller) (id : Uuid) (hk : Keys p) :
    (p.handleInverterDeregistered id).failureCounts = update p.failureCounts id none := by
  rcases deregistered_cases p id with ⟨-, he⟩ | ⟨hid, he⟩
  · exact he
  · have hn : p.failureCounts id = none := by
      cases hc : p.failureCounts id with
      | none => rfl
      | some n => exact absurd (hk id n hc) hid
    rw [he, ← hn, update_eq_self]

theorem Keys.deregistered (h : Keys p) (hs : p.tracked.Sorted brandOf) : Keys (p.handleInverterDeregistered id) := by
  intro id' n hn
  rw [failureCounts_deregistered p id h] at hn
  by_cases he : id' = id
  · rw [he, update_self] at hn
    cases hn
  · rw [update_of_ne he] at hn
    exact (Poller.ids_deregistered hs).mpr ⟨h id' n hn, he⟩

/-- While it loads, the poller tracks nothing and has no handlers. -/
theorem loading_of_change {a : MetricsPoller.Action} (hs : Sound brandOf p) (hc : MetricsPoller.Change rows p a p')
    {found' : InverterBrand → Option (List Inverter)} (hl : p'.startUp = .loading found') :
    p'.tracked = p.tracked ∧ ∃ found, p.startUp = .loading found := by
  have busy : ∀ {h : Nat} {handler : Handler}, p.handlers[h]? = some handler → p.startUp = .finished := by
    intro h handler hh
    by_contra hne
    rw [(hs.quiet hne).2] at hh
    cases hh
  cases hc with
  | findSpecificBrand found brand hf => exact ⟨rfl, found, hf⟩
  | load | subscribe | startUpFails => cases hl
  | ignored raw hf => exact ⟨rfl, found', hl⟩
  | registered raw id brand hf =>
    rw [hf] at hl
    cases hl
  | deregistered raw id brand hf =>
    rw [Poller.startUp_deregistered] at hl
    exact absurd (hf.symm.trans hl) (fun he => by cases he)
  | get h id hh => exact absurd ((busy hh).symm.trans hl) (fun he => by cases he)
  | getFails h id hh => exact absurd ((busy hh).symm.trans hl) (fun he => by cases he)
  | resume h id inverter hh =>
    rw [Poller.startUp_registered] at hl
    exact absurd ((busy hh).symm.trans hl) (fun he => by cases he)

theorem Keys.change {a : MetricsPoller.Action} (h : Keys p) (hs : Sound brandOf p)
    (hu : ∀ found, p.startUp = .loading found → p.tracked = .empty) (hc : MetricsPoller.Change rows p a p') :
    Keys p' := by
  cases hc with
  | findSpecificBrand | subscribe | startUpFails | ignored | registered | get | getFails => exact h
  | load found t hl =>
    intro id n hn
    have hm := h id n hn
    rw [hu found hl] at hm
    cases hm
  | deregistered => exact Keys.deregistered h hs.tracked
  | resume k id inverter hk =>
    refine Keys.registered h inverter fun i hi => ?_
    subst hi
    exact (hs.handlers id i (List.mem_of_getElem? hk)).1

end

theorem rows_setOffline (h : Rows brandOf s.inverters) (id : Uuid) (isOffline : Bool) :
    Rows brandOf (s.setOffline id isOffline).inverters := by
  have hid : ∀ row : Inverter, (if row.id = id then { row with isOffline } else row).id = row.id := by
    intro row
    split <;> rfl
  have hbrand : ∀ row : Inverter, (if row.id = id then { row with isOffline } else row).brand = row.brand := by
    intro row
    split <;> rfl
  constructor
  · show ((s.inverters.map _).map _).Nodup
    rw [List.map_map]
    exact (congrArg List.Nodup (List.map_congr_left fun row _ => hid row)).mpr h.nodup
  · intro row' hm'
    obtain ⟨row, hm, rfl⟩ := List.mem_map.mp hm'
    rw [hid, hbrand]
    exact h.brand row hm

theorem Grounded.counted (h : Grounded brandOf s) (hr : Rows brandOf s'.inverters)
    (hp : s'.poller = { s.poller with failureCounts := s'.poller.failureCounts }) : Grounded brandOf s' where
  rows := hr
  sound := by
    rw [hp]
    exact { h.sound with }
  unloaded := by
    rw [hp]
    exact h.unloaded

theorem grounded_init : Grounded brandOf .init where
  rows := rows_nil
  sound := sound_init
  unloaded _ _ := rfl

theorem grounded_step (h : Grounded brandOf s) (hc : Change brandOf s a s') : Grounded brandOf s' := by
  cases hc with
  | base e base hb =>
    have hs := sound_step ⟨h.rows, h.sound⟩ hb
    cases e with
    | write inverters =>
      simp only [MetricsPoller.step] at hb
      split at hb <;> cases hb
      exact ⟨hs.1, h.sound, h.unloaded⟩
    | poller b =>
      obtain ⟨p', hp, rfl⟩ := Option.map_eq_some_iff.mp hb
      refine ⟨hs.1, hs.2, fun found' hl => ?_⟩
      obtain ⟨ht, found, hf⟩ := loading_of_change h.sound (MetricsPoller.change_of_step hp) hl
      exact ht.trans (h.unloaded found hf)
  | markedOnline k poll => exact h.counted (rows_setOffline h.rows _ _) rfl
  | markedOffline k poll => exact h.counted (rows_setOffline h.rows _ _) rfl
  | tick | poll | fetched | fetchFailed | markOnlineFailed | markOfflineFailed | saved | saveFailed | published
  | publishFailed | foundRecentAlert | savedAlert | saveAlertFailed | added | addFailed => exact h.counted h.rows rfl

theorem kept_init : Kept brandOf .init where
  rows := rows_nil
  sound := sound_init
  keys _ _ hn := by cases hn
  unloaded _ _ := rfl

theorem keys_step (h : Kept brandOf s) (ho : StillTracked s a) (hc : Change brandOf s a s') : Keys s'.poller := by
  cases hc with
  | base e base hb =>
    cases e with
    | write inverters =>
      simp only [MetricsPoller.step] at hb
      split at hb <;> cases hb
      exact h.keys
    | poller b =>
      obtain ⟨p', hp, rfl⟩ := Option.map_eq_some_iff.mp hb
      exact h.keys.change h.sound h.unloaded (MetricsPoller.change_of_step hp)
  | fetched k poll metric hk => exact h.keys.count (ho poll hk) 0
  | fetchFailed k poll hk => exact h.keys.fetchFailed (ho poll hk)
  | markOnlineFailed k poll metric hk => exact h.keys.fetchFailed (ho poll hk)
  | tick | poll | markedOnline | markedOffline | markOfflineFailed | saved | saveFailed | published | publishFailed
  | foundRecentAlert | savedAlert | saveAlertFailed | added | addFailed => exact h.keys

theorem kept_step (h : Kept brandOf s) (ho : StillTracked s a) (hc : Change brandOf s a s') : Kept brandOf s' := by
  have hg : Grounded brandOf s' := grounded_step ⟨h.rows, h.sound, h.unloaded⟩ hc
  exact { hg with keys := keys_step h ho hc }

/-! ## Results -/

/-- A registration never brings a counter with it. -/
theorem starts_from_zero (h : Keys s.poller) (hc : Change brandOf s a s') {id : Uuid}
    (hn : id ∉ s.poller.tracked.ids) (hm : id ∈ s'.poller.tracked.ids) : s'.poller.failureCounts id = none := by
  have hnone : s.poller.failureCounts id = none := by
    cases hf : s.poller.failureCounts id with
    | none => rfl
    | some n => exact absurd (h id n hf) hn
  cases hc with
  | base e base hb =>
    cases e with
    | write inverters =>
      simp only [MetricsPoller.step] at hb
      split at hb <;> cases hb
      exact absurd hm hn
    | poller b =>
      obtain ⟨p', hp, rfl⟩ := Option.map_eq_some_iff.mp hb
      cases MetricsPoller.change_of_step hp with
      | findSpecificBrand | load | subscribe | startUpFails | ignored | registered | get | getFails => exact hnone
      | deregistered raw id' brand =>
        refine (congrFun (failureCounts_deregistered _ id' ?_) id).trans ?_
        · exact h
        by_cases he : id = id'
        · rw [he, update_self]
        · rw [update_of_ne he]
          exact hnone
      | resume k id' inverter =>
        show (Poller.handleInverterRegistered _ id' inverter).failureCounts id = none
        rw [Poller.startUp_registered]
        exact hnone
  | tick | poll | fetched | fetchFailed | markedOnline | markOnlineFailed | markedOffline | markOfflineFailed | saved
  | saveFailed | published | publishFailed | foundRecentAlert | savedAlert | saveAlertFailed | added | addFailed =>
    exact absurd hm hn

/-- As long as no poll counts for an inverter that has been deregistered since,
the counters are those of tracked inverters, and an inverter starts without one. -/
theorem failureCounts_tracked (h : (machine brandOf).Reach StillTracked s) :
    (∀ id n, s.poller.failureCounts id = some n → id ∈ s.poller.tracked.ids) ∧
      ∀ a s' id, (machine brandOf).step s a = some s' → id ∉ s.poller.tracked.ids →
        id ∈ s'.poller.tracked.ids → s'.poller.failureCounts id = none := by
  have hk : Kept brandOf s := h.inv kept_init fun s a s' hi ho hs => kept_step hi ho (change_of_step hs)
  exact ⟨hk.keys, fun a s' id hs hn hm => starts_from_zero hk.keys (change_of_step hs) hn hm⟩

/-- Any step that counts for an untracked inverter leaves its key behind. -/
theorem key_left_of_not_stillTracked (hc : Change brandOf s a s') (ho : ¬ StillTracked s a) :
    ∃ id n, s'.poller.failureCounts id = some n ∧ id ∉ s'.poller.tracked.ids := by
  have left : ∀ {k : Nat} {poll : Poll} (n : Nat), s.polls[k]? = some poll →
      ¬ (∀ poll ∈ s.polls[k]?, poll.inverter.id ∈ s.poller.tracked.ids) →
      ∃ id m, (s.setFailureCount poll.inverter.id n).poller.failureCounts id = some m ∧ id ∉ s.poller.tracked.ids := by
    intro k poll n hk hn
    refine ⟨poll.inverter.id, n, update_self _ _ _, fun hm => hn fun poll' hp => ?_⟩
    rw [Option.some.inj (hk.symm.trans hp)] at hm
    exact hm
  cases hc with
  | fetched k poll metric hk => exact left 0 hk ho
  | fetchFailed k poll hk => exact left _ hk ho
  | markOnlineFailed k poll metric hk => exact left _ hk ho
  | tick | base | poll | markedOnline | markedOffline | markOfflineFailed | saved
  | saveFailed | published | publishFailed | foundRecentAlert | savedAlert | saveAlertFailed | added | addFailed =>
    exact absurd trivial ho

def reading7 : NormalisedMetric :=
  ⟨7, .sandbox, "2024-01-01T00:00:00.000Z", "online", none, none, none, none, none, none, none, none, none, none⟩

/-- Inverter 7 is tracked and a poll of it is under way. -/
def polled : List Action :=
  (startEmpty ++ [control "registered" 7, .poller (.get 0), .poller (.resume 0)]).map .base ++
    [.poll .sandbox fun _ => true]

def inverter9 : Inverter := ⟨9, 1, .sandbox, true, false, 10, 5⟩

/-- Two inverters of user 1 are tracked. -/
def bothTracked : List Action :=
  [.poller (.findSpecificBrand .victron), .poller (.findSpecificBrand .growatt), .poller (.findSpecificBrand .sunsynk),
    .write [inverter7, inverter9], .poller (.findSpecificBrand .sandbox), .poller .load, .poller .subscribe].map .base

theorem deregistered_while_fetching : ¬ ∀ brandOf s, (machine brandOf).Reach Free s →
    ∀ id n, s.poller.failureCounts id = some n → id ∈ s.poller.tracked.ids := by
  intro h
  have h0 : ((machine evenVictron).run .init (polled ++ [.base (control "deregistered" 7), .fetchMetrics 0 none])).map
      (fun s => (s.poller.failureCounts 7, s.poller.tracked.ids)) = some (some 1, []) := by decide +kernel
  obtain ⟨s, hs, h0⟩ := Option.map_eq_some_iff.mp h0
  simp only [Prod.mk.injEq] at h0
  obtain ⟨hf, hids⟩ := h0
  have hm := h evenVictron s (Machine.path_of_run hs) 7 1 hf
  rw [hids] at hm
  cases hm

theorem failureCounts_tracked_polled : ∃ s, ((machine evenVictron).only StillTracked).run .init
      (polled ++ [.fetchMetrics 0 none, .poll .sandbox fun _ => true, .fetchMetrics 1 none]) = some s ∧
    s.poller.failureCounts 7 = some 2 ∧ 7 ∈ s.poller.tracked.ids := by
  have h0 : (((machine evenVictron).only StillTracked).run .init
      (polled ++ [.fetchMetrics 0 none, .poll .sandbox fun _ => true, .fetchMetrics 1 none])).map
      (fun s => s.poller.failureCounts 7) = some (some 2) := by decide +kernel
  obtain ⟨s, hs, hf⟩ := Option.map_eq_some_iff.mp h0
  exact ⟨s, hs, hf, (failureCounts_tracked (Machine.path_of_run_only hs)).1 7 2 hf⟩

end IntellApi.MetricsPolls
