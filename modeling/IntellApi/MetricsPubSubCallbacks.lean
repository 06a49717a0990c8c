import IntellApi.Calls
import IntellApi.MetricsPubSub

/-!
# One callback along the steps

What a step does to a callback it does not name: nothing, unless it is the step
with which the callback's own `subscribe` goes on (`Frame`). So a callback that
is used for one subscription is absent, then tried, then present.
-/

namespace IntellApi.MetricsPubSub

open Function

variable {κ μ : Type}

def Action.callback? : Action κ μ → Option κ
  | .subscribe _ callback | .unsubscribe _ callback | .psubscribe _ callback | .punsubscribe _ callback => some callback
  | _ => none

def Member (s : State κ μ) (topic : Topic) (callback : κ) : Prop :=
  ∃ callbacks, s.subscriptions topic = some callbacks ∧ callback ∈ callbacks

/-- Call `c` is a `subscribe` of the callback that has not gone on yet. -/
def Pending (s : State κ μ) (c : Nat) (topic : Topic) (callback : κ) : Prop :=
  ∃ answer, s.calls[c]? = some (.subscribing topic callback answer)

def Call.Ended (call : Call κ) : Prop := call = .returned ∨ call = .rejected ∨ call = .typeError

/-! ## Where a callback is -/

structure Absent (s : State κ μ) (callback : κ) : Prop where
  member : ∀ topic, ¬ Member s topic callback
  pending : ∀ c topic, ¬ Pending s c topic callback

structure Trying (s : State κ μ) (c : Nat) (topic : Topic) (callback : κ) : Prop where
  member : ∀ topic, ¬ Member s topic callback
  pending : Pending s c topic callback
  only : ∀ c' topic', Pending s c' topic' callback → c' = c

structure Present (s : State κ μ) (topic : Topic) (callback : κ) : Prop where
  member : Member s topic callback
  only : ∀ topic', Member s topic' callback → topic' = topic
  pending : ∀ c topic, ¬ Pending s c topic callback

/-- How a call of `subscribe` by a new callback goes. -/
def Outcome (s : State κ μ) (c : Nat) (topic : Topic) (callback : κ) : Prop :=
  Trying s c topic callback ∨ s.calls[c]? = some .returned ∧ Present s topic callback ∨
    (s.calls[c]? = some .rejected ∨ s.calls[c]? = some .typeError) ∧ Absent s callback

/-- A step that leaves the callback where it is. -/
structure Frame (callback : κ) (s s' : State κ μ) : Prop where
  member : ∀ topic, Member s' topic callback ↔ Member s topic callback
  pending : ∀ c topic, Pending s' c topic callback ↔ Pending s c topic callback
  ended : ∀ (c : Nat) (call : Call κ), s.calls[c]? = some call → call.Ended → s'.calls[c]? = some call

section
variable {s s' t : State κ μ} {callback callback' : κ} {topic : Topic} {c : Nat}

theorem Frame.trans (h : Frame callback s s') (h' : Frame callback s' t) : Frame callback s t where
  member topic := (h'.member topic).trans (h.member topic)
  pending c topic := (h'.pending c topic).trans (h.pending c topic)
  ended c call hc he := h'.ended c call (h.ended c call hc he) he

theorem Absent.frame (h : Absent s callback) (hf : Frame callback s s') : Absent s' callback where
  member topic hm := h.member topic ((hf.member topic).mp hm)
  pending c topic hp := h.pending c topic ((hf.pending c topic).mp hp)

theorem Present.frame (h : Present s topic callback) (hf : Frame callback s s') : Present s' topic callback where
  member := (hf.member topic).mpr h.member
  only topic' hm := h.only topic' ((hf.member topic').mp hm)
  pending c topic' hp := h.pending c topic' ((hf.pending c topic').mp hp)

theorem Trying.frame (h : Trying s c topic callback) (hf : Frame callback s s') : Trying s' c topic callback where
  member topic' hm := h.member topic' ((hf.member topic').mp hm)
  pending := (hf.pending c topic).mpr h.pending
  only c' topic' hp := h.only c' topic' ((hf.pending c' topic').mp hp)

theorem Outcome.frame (h : Outcome s c topic callback) (hf : Frame callback s s') : Outcome s' c topic callback := by
  rcases h with h | ⟨hc, h⟩ | ⟨hc, h⟩
  · exact .inl (h.frame hf)
  · exact .inr (.inl ⟨hf.ended c _ hc (.inl rfl), h.frame hf⟩)
  · refine .inr (.inr ⟨?_, h.frame hf⟩)
    rcases hc with hc | hc
    · exact .inl (hf.ended c _ hc (.inr (.inl rfl)))
    · exact .inr (hf.ended c _ hc (.inr (.inr rfl)))

theorem Outcome.returned (h : Outcome s c topic callback) (hc : s.calls[c]? = some .returned) : Present s topic callback := by
  rcases h with h | ⟨-, h⟩ | ⟨h, -⟩
  · obtain ⟨answer, hp⟩ := h.pending
    rw [hc] at hp
    cases hp
  · exact h
  · rw [hc] at h
    rcases h with h | h <;> cases h

theorem Outcome.failed (h : Outcome s c topic callback) (hc : s.calls[c]? = some .rejected ∨ s.calls[c]? = some .typeError) :
    Absent s callback := by
  rcases h with h | ⟨h, -⟩ | ⟨-, h⟩
  · obtain ⟨answer, hp⟩ := h.pending
    rw [hp] at hc
    rcases hc with hc | hc <;> cases hc
  · rw [h] at hc
    rcases hc with hc | hc <;> cases hc
  · exact h

theorem frame_snoc (call : Call κ) (hc : ∀ topic answer, call ≠ .subscribing topic callback answer)
    (hs : s'.subscriptions = s.subscriptions) (hcalls : s'.calls = s.calls ++ [call]) : Frame callback s s' where
  member topic := by unfold Member; rw [hs]
  pending c topic := by
    unfold Pending
    rw [hcalls]
    constructor
    · intro hx
      obtain ⟨answer, hg⟩ := hx
      rcases Calls.snoc_cases hg with hg | ⟨-, he⟩
      · exact ⟨answer, hg⟩
      · exact absurd he.symm (hc topic answer)
    · intro hx
      obtain ⟨answer, hg⟩ := hx
      exact ⟨answer, Calls.snoc_of_some hg⟩
  ended c call' hg _ := by
    rw [hcalls]
    exact Calls.snoc_of_some hg

theorem frame_setCallbacks {callbacks : Option (List κ)}
    (h : (∃ new, callbacks = some new ∧ callback ∈ new) ↔ Member s topic callback) :
    Frame callback s { s with subscriptions := update s.subscriptions topic callbacks } := by
  refine ⟨fun topic' => ?_, fun _ _ => .rfl, fun _ _ hc _ => hc⟩
  by_cases ht : topic' = topic
  · subst ht
    unfold Member
    simp only [update_self]
    exact h
  · unfold Member
    simp only [update_of_ne ht]

theorem answered_pending {call : Call κ} {ok : Bool} :
    (∃ answer, call.answered ok = .subscribing topic callback answer) ↔ ∃ answer, call = .subscribing topic callback answer := by
  cases call with
  | subscribing topic' callback' answer' => cases answer' <;> simp [Call.answered]
  | unsubscribing answer' => cases answer' <;> simp [Call.answered]
  | returned | rejected | typeError => simp [Call.answered]

theorem answered_ended {call : Call κ} {ok : Bool} (h : call.Ended) : call.answered ok = call := by
  rcases h with rfl | rfl | rfl <;> rfl

theorem frame_reply {command : Command} {commands : List Command} {redis : List Topic} {ok : Bool} :
    Frame callback s { s with commands, redis, calls := s.calls.modify command.call (·.answered ok) } where
  member _ := .rfl
  pending c topic := by
    unfold Pending
    simp only [List.getElem?_modify]
    split
    · cases s.calls[c]? with
      | none => simp
      | some call => simpa using answered_pending
    · simp
  ended c call hg he := by
    simp only [List.getElem?_modify, hg]
    split
    · exact congrArg some (answered_ended he)
    · rfl

theorem frame_set {call : Call κ} {d : Nat} (hc : ∀ topic answer, call ≠ .subscribing topic callback answer)
    (hd : ∀ topic, ¬ Pending s d topic callback) (he : ∀ call, s.calls[d]? = some call → ¬ call.Ended) :
    Frame callback s { s with calls := s.calls.set d call } where
  member _ := .rfl
  pending c topic := by
    unfold Pending
    by_cases hcd : d = c
    · subst hcd
      refine ⟨?_, fun hp => absurd hp (hd topic)⟩
      intro hx
      obtain ⟨answer, hg⟩ := hx
      obtain ⟨hlt, hg⟩ := List.getElem?_eq_some_iff.mp hg
      rw [List.getElem_set_self] at hg
      exact absurd hg (hc topic answer)
    · simp only [List.getElem?_set_ne hcd]
  ended c call' hg hend := by
    by_cases hcd : d = c
    · subst hcd
      exact absurd hend (he call' hg)
    · exact (List.getElem?_set_ne hcd).trans hg

end

section
variable [DecidableEq κ] {s s' : State κ μ} {callback callback' : κ} {topic : Topic} {c : Nat}

theorem frame_add {callbacks : List κ} (hs : s.subscriptions topic = some callbacks) (hne : callback' ≠ callback) :
    Frame callback s (s.add topic callback' callbacks) := by
  have h : Frame callback s (s.setCallbacks topic (some (if callback' ∈ callbacks then callbacks else callbacks ++ [callback']))) := by
    refine frame_setCallbacks ⟨?_, ?_⟩
    · intro hx
      obtain ⟨_, ⟨⟩, hm⟩ := hx
      refine ⟨callbacks, hs, ?_⟩
      split at hm
      · exact hm
      · exact (List.mem_append.mp hm).resolve_right fun he => hne (List.mem_singleton.mp he).symm
    · intro hx
      obtain ⟨_, hc, hm⟩ := hx
      rw [hs, Option.some.injEq] at hc
      subst hc
      refine ⟨_, rfl, ?_⟩
      split
      · exact hm
      · exact List.mem_append_left _ hm
  exact ⟨h.member, h.pending, h.ended⟩

theorem frame_subscribeTo (hne : callback' ≠ callback) : Frame callback s (s.subscribeTo topic callback') := by
  unfold State.subscribeTo
  split
  · rename_i hs
    have h : Frame callback s (s.setCallbacks topic (some [])) := by
      refine frame_setCallbacks ⟨?_, ?_⟩
      · intro hx
        obtain ⟨_, ⟨⟩, hm⟩ := hx
        cases hm
      · intro hx
        obtain ⟨_, hc, -⟩ := hx
        rw [hs] at hc
        cases hc
    refine h.trans (frame_snoc (.subscribing topic callback' none) ?_ rfl rfl)
    intro _ _ he
    cases he
    exact hne rfl
  · rename_i hs
    exact (frame_add hs hne).trans (frame_snoc .returned nofun rfl rfl)

theorem frame_unsubscribeFrom (hne : callback' ≠ callback) : Frame callback s (s.unsubscribeFrom topic callback') := by
  unfold State.unsubscribeFrom
  split
  · exact frame_snoc .returned nofun rfl rfl
  · rename_i callbacks hs
    have hkeep : callback ∈ callbacks.filter (· ≠ callback') ↔ callback ∈ callbacks := by
      rw [List.mem_filter]
      exact ⟨And.left, fun hm => ⟨hm, decide_eq_true (Ne.symm hne)⟩⟩
    have hmember : Member s topic callback ↔ callback ∈ callbacks := by
      constructor
      · intro hx
        obtain ⟨_, hc, hm⟩ := hx
        rw [hs, Option.some.injEq] at hc
        subst hc
        exact hm
      · intro hm
        exact ⟨callbacks, hs, hm⟩
    have h : Frame callback s (s.setSince topic callback' none) := ⟨fun _ => .rfl, fun _ _ => .rfl, fun _ _ hc _ => hc⟩
    simp only
    split
    · rename_i hrest
      refine h.trans ((frame_setCallbacks ⟨?_, ?_⟩).trans (frame_snoc (.unsubscribing none) nofun rfl rfl))
      · intro hx
        obtain ⟨_, ⟨⟩, -⟩ := hx
      · intro hm
        have hm := hkeep.mpr (hmember.mp hm)
        rw [hrest] at hm
        cases hm
    · refine h.trans ((frame_setCallbacks ⟨?_, ?_⟩).trans (frame_snoc .returned nofun rfl rfl))
      · intro hx
        obtain ⟨_, ⟨⟩, hm⟩ := hx
        exact hmember.mpr (hkeep.mp hm)
      · intro hm
        exact ⟨_, rfl, hkeep.mpr (hmember.mp hm)⟩

theorem frame_resume (h : s.resume c = some s') (hp : ∀ topic, ¬ Pending s c topic callback) : Frame callback s s' := by
  have hset : ∀ {old call : Call κ}, s.calls[c]? = some old → ¬ old.Ended →
      (∀ topic answer, call ≠ .subscribing topic callback answer) → Frame callback s { s with calls := s.calls.set c call } := by
    intro old call hold hne hcall
    refine frame_set hcall hp fun call' hc => ?_
    rw [hold, Option.some.injEq] at hc
    subst hc
    exact hne
  unfold State.resume at h
  split at h
  · rename_i topic callback' hc
    have hne : callback' ≠ callback := by
      intro he
      subst he
      exact hp topic ⟨_, hc⟩
    split at h
    · rename_i callbacks hs
      cases h
      have hf : Frame callback s { s with calls := s.calls.set c .returned } := hset hc (by simp [Call.Ended]) nofun
      exact hf.trans (frame_add (s := { s with calls := s.calls.set c .returned }) hs hne)
    · cases h
      exact hset hc (by simp [Call.Ended]) nofun
  · rename_i hc
    cases h
    exact hset hc (by simp [Call.Ended]) nofun
  · rename_i hc
    cases h
    exact hset hc (by simp [Call.Ended]) nofun
  · rename_i hc
    cases h
    exact hset hc (by simp [Call.Ended]) nofun
  · cases h

variable {glob : String → String → Bool} {a : Action κ μ}

theorem frame_step (h : step glob s a = some s') (ha : a.callback? ≠ some callback)
    (hp : ∀ c topic, a = .resume c → ¬ Pending s c topic callback) : Frame callback s s' := by
  cases a with
  | subscribe | psubscribe =>
    cases h
    exact frame_subscribeTo fun he => ha (congrArg some he)
  | unsubscribe | punsubscribe =>
    cases h
    exact frame_unsubscribeFrom fun he => ha (congrArg some he)
  | publish => cases h; exact ⟨fun _ => .rfl, fun _ _ => .rfl, fun _ _ hc _ => hc⟩
  | reply ok =>
    simp only [step] at h
    split at h
    · cases h
    · cases h
      exact frame_reply
  | resume c => exact frame_resume h fun topic => hp c topic rfl
  | deliver =>
    simp only [step] at h
    split at h
    · cases h
    · cases h
      unfold State.onMessage
      split <;> exact ⟨fun _ => .rfl, fun _ _ => .rfl, fun _ _ hc _ => hc⟩

theorem step_messages (h : step glob s a = some s') :
    s'.wire = s.wire ∧ s'.published = s.published ∨
    (∃ channel message, a = .publish channel message ∧ s' = s.publish glob channel message) ∨
    a = .deliver ∧ (∃ x, s.wire = x :: s'.wire) ∧ s'.published = s.published := by
  cases a with
  | subscribe | psubscribe =>
    cases h
    left
    simp only [State.subscribe, State.psubscribe, State.subscribeTo]
    split <;> exact ⟨rfl, rfl⟩
  | unsubscribe | punsubscribe =>
    cases h
    left
    simp only [State.unsubscribe, State.punsubscribe, State.unsubscribeFrom]
    split
    · exact ⟨rfl, rfl⟩
    · split <;> exact ⟨rfl, rfl⟩
  | publish channel message => cases h; exact .inr (.inl ⟨channel, message, rfl, rfl⟩)
  | reply ok =>
    simp only [step] at h
    split at h
    · cases h
    · cases h
      exact .inl ⟨rfl, rfl⟩
  | resume c =>
    left
    simp only [step, State.resume] at h
    split at h
    · split at h <;> cases h <;> exact ⟨rfl, rfl⟩
    · cases h; exact ⟨rfl, rfl⟩
    · cases h; exact ⟨rfl, rfl⟩
    · cases h; exact ⟨rfl, rfl⟩
    · cases h
  | deliver =>
    right; right
    simp only [step] at h
    split at h
    · cases h
    · rename_i topic m wire hw
      cases h
      unfold State.onMessage
      refine ⟨rfl, ⟨(topic, m), ?_⟩, ?_⟩
      · split <;> exact hw
      · split <;> rfl

/-! ## A callback that subscribes once -/

theorem Absent.step (h : Absent s callback) (hs : step glob s a = some s') (ha : a.callback? ≠ some callback) :
    Absent s' callback := h.frame (frame_step hs ha fun c topic _ => h.pending c topic)

theorem Present.step (h : Present s topic callback) (hs : step glob s a = some s') (ha : a.callback? ≠ some callback) :
    Present s' topic callback := h.frame (frame_step hs ha fun c topic _ => h.pending c topic)

/-- A new callback is added to a set, or waits for it. -/
theorem Absent.subscribeTo (h : Absent s callback) : Outcome (s.subscribeTo topic callback) s.calls.length topic callback := by
  unfold State.subscribeTo
  split
  · rename_i hs
    have hpending : ∀ {c' topic'}, Pending ((s.setCallbacks topic (some [])).command .subscribe topic
        (.subscribing topic callback none)) c' topic' callback → c' = s.calls.length := by
      intro c' topic' hx
      obtain ⟨answer, hg⟩ := hx
      rcases Calls.snoc_cases hg with hg | ⟨hc', -⟩
      · exact absurd ⟨answer, hg⟩ (h.pending c' topic')
      · exact hc'
    refine .inl ⟨?_, ⟨none, List.getElem?_concat_length⟩, fun c' topic' hp => hpending hp⟩
    intro topic' hx
    obtain ⟨callbacks, hc, hm⟩ := hx
    change update s.subscriptions topic (some []) topic' = some callbacks at hc
    by_cases ht : topic' = topic
    · subst ht
      rw [update_self, Option.some.injEq] at hc
      subst hc
      cases hm
    · rw [update_of_ne ht] at hc
      exact h.member topic' ⟨callbacks, hc, hm⟩
  · rename_i callbacks hs
    refine .inr (.inl ⟨List.getElem?_concat_length, ⟨_, update_self .., ?_⟩, ?_, ?_⟩)
    · split
      · assumption
      · exact List.mem_append_right _ (List.mem_singleton_self callback)
    · intro topic' hx
      obtain ⟨callbacks', hc, hm⟩ := hx
      by_contra ht
      change update s.subscriptions topic _ topic' = some callbacks' at hc
      rw [update_of_ne ht] at hc
      exact h.member topic' ⟨callbacks', hc, hm⟩
    · intro c' topic' hx
      obtain ⟨answer, hg⟩ := hx
      rcases Calls.snoc_cases hg with hg | ⟨-, he⟩
      · exact h.pending c' topic' ⟨answer, hg⟩
      · cases he

theorem Trying.resume (h : Trying s c topic callback) (hr : s.resume c = some s') : Outcome s' c topic callback := by
  obtain ⟨answer, hc⟩ := h.pending
  have hlt := (List.getElem?_eq_some_iff.mp hc).1
  have hnone : ∀ {call : Call κ}, (∀ topic answer, call ≠ .subscribing topic callback answer) →
      ∀ c' topic', ¬ Pending { s with calls := s.calls.set c call } c' topic' callback := by
    intro call hcall c' topic' hx
    obtain ⟨answer', hg⟩ := hx
    rcases Calls.set_cases hg with ⟨-, he⟩ | ⟨hne, hg⟩
    · exact hcall topic' answer' he.symm
    · exact hne (h.only c' topic' ⟨answer', hg⟩)
  unfold State.resume at hr
  rw [hc] at hr
  match answer with
  | none => cases hr
  | some false =>
    cases hr
    exact .inr (.inr ⟨.inl (List.getElem?_set_self hlt), h.member, hnone nofun⟩)
  | some true =>
    simp only at hr
    split at hr
    · cases hr
      refine .inr (.inl ⟨List.getElem?_set_self hlt, ⟨_, update_self .., ?_⟩, ?_, hnone nofun⟩)
      · split
        · assumption
        · exact List.mem_append_right _ (List.mem_singleton_self callback)
      · intro topic' hx
        obtain ⟨callbacks', hc', hm⟩ := hx
        by_contra ht
        change update s.subscriptions topic _ topic' = some callbacks' at hc'
        rw [update_of_ne ht] at hc'
        exact h.member topic' ⟨callbacks', hc', hm⟩
    · cases hr
      exact .inr (.inr ⟨.inr (List.getElem?_set_self hlt), h.member, hnone nofun⟩)

theorem Outcome.step (h : Outcome s c topic callback) (hs : step glob s a = some s') (ha : a.callback? ≠ some callback) :
    Outcome s' c topic callback := by
  rcases h with ht | h
  · by_cases hr : a = .resume c
    · subst hr
      exact ht.resume hs
    · refine .inl (ht.frame (frame_step hs ha ?_))
      intro c' topic' he hp
      subst he
      exact hr (congrArg _ (ht.only c' topic' hp))
  · have hp : ∀ c topic, ¬ Pending s c topic callback := by
      rcases h with ⟨-, h⟩ | ⟨-, h⟩
      · exact h.pending
      · exact h.pending
    exact Outcome.frame (.inr h) (frame_step hs ha fun c topic _ => hp c topic)

theorem Present.unsubscribeFrom (h : Present s topic callback) : Absent (s.unsubscribeFrom topic callback) callback := by
  obtain ⟨callbacks, hs, hm⟩ := h.member
  have hpending : ∀ {call : Call κ}, (∀ topic answer, call ≠ .subscribing topic callback answer) →
      ∀ c topic, ¬ Pending { s with calls := s.calls ++ [call] } c topic callback := by
    intro call hcall c topic' hx
    obtain ⟨answer, hg⟩ := hx
    rcases Calls.snoc_cases hg with hg | ⟨-, he⟩
    · exact h.pending c topic' ⟨answer, hg⟩
    · exact hcall topic' answer he.symm
  have hmember : ∀ {new : Option (List κ)}, (∀ rest, new = some rest → callback ∉ rest) →
      ∀ topic', ¬ Member { s with subscriptions := update s.subscriptions topic new } topic' callback := by
    intro new hnew topic' hx
    obtain ⟨callbacks', hc, hm'⟩ := hx
    by_cases ht : topic' = topic
    · subst ht
      change update s.subscriptions topic' new topic' = _ at hc
      rw [update_self] at hc
      exact hnew callbacks' hc hm'
    · change update s.subscriptions topic new topic' = _ at hc
      rw [update_of_ne ht] at hc
      exact ht (h.only topic' ⟨callbacks', hc, hm'⟩)
  unfold State.unsubscribeFrom
  rw [hs]
  simp only
  split
  · exact ⟨hmember nofun, hpending nofun⟩
  · refine ⟨hmember ?_, hpending nofun⟩
    intro _ he hrest
    cases he
    exact of_decide_eq_true (List.mem_filter.mp hrest).2 rfl

end

end IntellApi.MetricsPubSub
