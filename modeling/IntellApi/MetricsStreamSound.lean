import IntellApi.MetricsPubSubCallbacks
import IntellApi.MetricsPubSubSound
import IntellApi.MetricsStream

/-!
# What a stream leaves behind, and what it misses

A stream's callback is absent before its `subscribe`, tried while it waits and
present from then on, and the listener of `close` takes it away (`Placed`). If
the client closes before there is a listener, nothing takes it away. What is
published before Redis is subscribed, or arrives before the callback is in the
set, does not reach the stream.
-/

namespace IntellApi.MetricsStream

open Lts MetricEvents MetricsPubSub

variable {lowerCase : Uuid → Uuid} {glob : String → String → Bool} {s s' : State} {a : Action} {p : Nat}
  {stream stream' : Stream}

/-! ## What a step does -/

def State.pubSubAction (s : State) : Action → Option (MetricsPubSub.Action Callback NormalisedMetric)
  | .publish k true => s.readings[k]?.map fun reading => .publish (channel reading.metric.inverterId) reading.metric
  | .latest p none | .inverter p _ => s.streams[p]?.map fun stream => .subscribe (channel stream.inverterId) (.onMessage p)
  | .close p => s.streams[p]?.bind fun stream =>
    if stream.stage = .returned then some (.unsubscribe (channel stream.inverterId) (.onMessage p)) else none
  | .deliver => some .deliver
  | .pubSub a => some a
  | _ => none

@[simp] theorem write_inverterId (stream : Stream) (chunk : Chunk) : (stream.write chunk).inverterId = stream.inverterId := by
  unfold Stream.write
  split <;> rfl

@[simp] theorem write_stage (stream : Stream) (chunk : Chunk) : (stream.write chunk).stage = stream.stage := by
  unfold Stream.write
  split <;> rfl

@[simp] theorem write_rowsSeen (stream : Stream) (chunk : Chunk) : (stream.write chunk).rowsSeen = stream.rowsSeen := by
  unfold Stream.write
  split <;> rfl

@[simp] theorem write_heartbeat (stream : Stream) (chunk : Chunk) : (stream.write chunk).heartbeat = stream.heartbeat := by
  unfold Stream.write
  split <;> rfl

@[simp] theorem write_onRedisError (stream : Stream) (chunk : Chunk) :
    (stream.write chunk).onRedisError = stream.onRedisError := by
  unfold Stream.write
  split <;> rfl

@[simp] theorem write_closed (stream : Stream) (chunk : Chunk) : (stream.write chunk).closed = stream.closed := by
  unfold Stream.write
  split <;> rfl

@[simp] theorem write_ended (stream : Stream) (chunk : Chunk) : (stream.write chunk).ended = stream.ended := by
  unfold Stream.write
  split <;> rfl

theorem write_prefix (stream : Stream) (chunk : Chunk) : stream.written <+: (stream.write chunk).written := by
  unfold Stream.write
  split
  · exact List.prefix_append _ _
  · exact List.prefix_rfl

/-- The stream goes nowhere, but something may be written to it, and its
listener on the subscriptions may be gone. -/
structure Same (stream stream' : Stream) : Prop where
  inverterId : stream'.inverterId = stream.inverterId
  stage : stream'.stage = stream.stage
  rowsSeen : stream'.rowsSeen = stream.rowsSeen
  closed : stream'.closed = stream.closed
  ended : stream.ended = true → stream'.ended = true
  heartbeat : stream'.heartbeat = stream.heartbeat
  onRedisError : stream'.onRedisError = true → stream.onRedisError = true
  written : stream.written <+: stream'.written

theorem Same.refl : Same stream stream := ⟨rfl, rfl, rfl, rfl, id, rfl, id, List.prefix_rfl⟩

theorem same_write (stream : Stream) (chunk : Chunk) : Same stream (stream.write chunk) :=
  ⟨by simp, by simp, by simp, by simp, by simp, by simp, by simp, write_prefix stream chunk⟩

theorem same_told (callbacks : List Callback) (m : Nat) (metric : NormalisedMetric) (p : Nat) (stream : Stream) :
    Same stream (told callbacks m metric p stream) := by
  unfold told
  split
  · exact same_write _ _
  · exact .refl

theorem same_redisError (stream : Stream) : Same stream stream.redisError := by
  unfold Stream.redisError
  split
  · exact ⟨by simp, by simp, by simp, by simp, fun _ => rfl, by simp, nofun, write_prefix _ _⟩
  · exact .refl

/-- Where a step takes stream `p`. -/
inductive Move (a : Action) (s s' : State) (p : Nat) (stream : Stream) : Stream → Prop
  | idle {next : Stream} (hb : ∀ b ∈ s.pubSubAction a, b.callback? ≠ some (.onMessage p)) (hs : Same stream next) :
    Move a s s' p stream next
  | found {latest : Option InvertersMetrics} (hp : s'.pubSub = s.pubSub) (hs : stream.stage = .findingLatest) :
    Move a s s' p stream { stream with rowsSeen := some s.rows.length, stage := .findingInverter latest }
  | subscribe {next : Stream} (hp : s'.pubSub = s.pubSub.subscribe (channel stream.inverterId) (.onMessage p))
    (hs : stream.stage = .findingLatest ∧ next = { stream with rowsSeen := some s.rows.length } ∨
      (∃ latest, stream.stage = .findingInverter latest) ∧ Same stream next) :
    Move a s s' p stream { next with stage := .subscribing s.pubSub.calls.length }
  | listen {c : Nat} (hp : s'.pubSub = s.pubSub) (hs : stream.stage = .subscribing c)
    (hc : s.pubSub.calls[c]? = some .returned) :
    Move a s s' p stream { stream with stage := .returned, heartbeat := true, onRedisError := true }
  | throw {c : Nat} (hp : s'.pubSub = s.pubSub) (hs : stream.stage = .subscribing c)
    (hc : s.pubSub.calls[c]? = some .rejected ∨ s.pubSub.calls[c]? = some .typeError) :
    Move a s s' p stream { stream with stage := .threw }
  | close (ha : a = .close p) (hp : s'.pubSub = s.pubSub) (hs : stream.stage ≠ .returned) :
    Move a s s' p stream { stream with closed := true }
  | cleanup (hp : s'.pubSub = s.pubSub.unsubscribe (channel stream.inverterId) (.onMessage p))
    (hs : stream.stage = .returned) (hc : stream.closed = false) :
    Move a s s' p stream { stream with closed := true, heartbeat := false, onRedisError := false }

/-- Who the step concerns among the streams: one of them, a new one, or all. -/
inductive Touched (a : Action) (s s' : State) : Prop
  | start (inverterId : Uuid) (hs : s'.streams = s.streams ++ [.new inverterId]) (hb : s.pubSubAction a = none)
  | one (q : Nat) (old new : Stream) (hq : s.streams[q]? = some old) (hs : s'.streams = s.streams.set q new)
    (hb : ∀ b ∈ s.pubSubAction a, ∀ p, b.callback? = some (.onMessage p) → q = p) (hm : Move a s s' q old new)
  | all (f : Nat → Stream → Stream) (hs : ∀ p, s'.streams[p]? = s.streams[p]?.map (f p))
    (hf : ∀ p stream, Same stream (f p stream))
    (hb : ∀ b ∈ s.pubSubAction a, ∀ p, b.callback? ≠ some (.onMessage p))

/-- The subscriptions take the step's own step. -/
def Served (glob : String → String → Bool) (a : Action) (s s' : State) : Prop :=
  s.pubSubAction a = none ∧ s'.pubSub = s.pubSub ∨
    ∃ b, s.pubSubAction a = some b ∧ MetricsPubSub.step glob s.pubSub b = some s'.pubSub

def Reading.after (reading : Reading) (ok : Bool) (m : Nat) : Reading :=
  { reading with publication := if ok then .message m else .failed }

inductive Stored (a : Action) (s s' : State) : Prop
  | kept (hr : s'.rows = s.rows) (hs : s'.readings = s.readings)
  | saved (metric : NormalisedMetric) (row : InvertersMetrics) (hr : s'.rows = s.rows ++ [row])
    (hs : s'.readings = s.readings ++ [⟨metric, s.rows.length, .waiting⟩])
  | published (k : Nat) (ok : Bool) (reading : Reading) (ha : a = .publish k ok) (hk : s.readings[k]? = some reading)
    (hr : s'.rows = s.rows) (hst : s'.streams = s.streams)
    (hs : s'.readings = s.readings.modify k (·.after ok s.pubSub.published.length))

structure Effect (glob : String → String → Bool) (a : Action) (s s' : State) : Prop where
  served : Served glob a s s'
  touched : Touched a s s'
  stored : Stored a s s'

theorem touched_none (hs : s'.streams = s.streams) (hb : ∀ b ∈ s.pubSubAction a, ∀ p, b.callback? ≠ some (.onMessage p)) :
    Touched a s s' :=
  .all (fun _ stream => stream) (fun p => by rw [hs, Option.map_id']) (fun _ _ => .refl) hb

theorem calls_nobody {P : MetricsPubSub.Action Callback NormalisedMetric → Prop} (h : s.pubSubAction a = none) :
    ∀ b ∈ s.pubSubAction a, P b := by
  intro b hb
  rw [h] at hb
  cases hb

/-- A step of one stream that does not call into the subscriptions. -/
theorem effect_one {q : Nat} {old new : Stream} (hq : s.streams[q]? = some old) (hb : s.pubSubAction a = none)
    (hm : Move a s (s.setStream q new) q old new) : Effect glob a s (s.setStream q new) :=
  ⟨.inl ⟨hb, rfl⟩, .one q old new hq rfl (calls_nobody hb) hm, .kept rfl rfl⟩

theorem effect_subscribe {q : Nat} {old next : Stream} (hq : s.streams[q]? = some old)
    (hb : s.pubSubAction a = some (.subscribe (channel old.inverterId) (.onMessage q)))
    (hid : next.inverterId = old.inverterId)
    (hs : old.stage = .findingLatest ∧ next = { old with rowsSeen := some s.rows.length } ∨
      (∃ latest, old.stage = .findingInverter latest) ∧ Same old next) : Effect glob a s (s.subscribe q next) := by
  have hp : (s.subscribe q next).pubSub = s.pubSub.subscribe (channel old.inverterId) (.onMessage q) := by
    rw [← hid]
    rfl
  refine ⟨.inr ⟨_, hb, congrArg some hp.symm⟩, .one q _ _ hq rfl (fun b hmem p hc => ?_) (.subscribe hp hs), .kept rfl rfl⟩
  rw [hb] at hmem
  cases hmem
  cases hc
  rfl

theorem callback_other {b : MetricsPubSub.Action Callback NormalisedMetric} (h : isOther b = true) :
    b.callback? ≠ some (.onMessage p) := by
  intro hc
  cases b with
  | subscribe _ callback | unsubscribe _ callback | psubscribe _ callback | punsubscribe _ callback =>
    cases hc
    cases h
  | _ => cases hc

theorem step_effect (h : step lowerCase glob s a = some s') : Effect glob a s s' := by
  cases a with
  | persist metric ok =>
    simp only [step] at h
    split at h
    · cases h
    split at h
    · rename_i row _
      cases h
      refine ⟨.inl ⟨rfl, by cases ok <;> rfl⟩, touched_none (by cases ok <;> rfl) (calls_nobody rfl), ?_⟩
      cases ok with
      | false => exact .kept rfl rfl
      | true => exact .saved metric row rfl rfl
    · cases h
      exact ⟨.inl ⟨rfl, rfl⟩, touched_none rfl (calls_nobody rfl), .kept rfl rfl⟩
  | publish k ok =>
    simp only [step] at h
    split at h
    · rename_i metric row hk
      cases h
      cases ok with
      | false =>
        exact ⟨.inl ⟨rfl, rfl⟩, touched_none rfl (calls_nobody rfl), .published k false _ rfl hk rfl rfl rfl⟩
      | true =>
        have hb : s.pubSubAction (.publish k true) = some (.publish (channel metric.inverterId) metric) := by
          simp only [State.pubSubAction, hk, Option.map_some]
        refine ⟨.inr ⟨_, hb, rfl⟩, touched_none rfl fun b hmem p => ?_, .published k true _ rfl hk rfl rfl rfl⟩
        rw [hb] at hmem
        cases hmem
        exact (Option.some_ne_none _).symm
    · cases h
  | streamMetrics inverterId =>
    cases h
    exact ⟨.inl ⟨rfl, rfl⟩, .start inverterId rfl rfl, .kept rfl rfl⟩
  | latest q answer =>
    simp only [step] at h
    split at h
    · rename_i old hq
      split at h
      · cases h
      · rename_i hstage
        have hstage := not_not.mp hstage
        split at h
        · split at h
          · cases h
            exact effect_one hq rfl (.found rfl hstage)
          · cases h
        · cases h
          exact effect_subscribe hq (congrArg (Option.map _) hq) rfl (.inl ⟨hstage, rfl⟩)
    · cases h
  | inverter q inverterBrand =>
    simp only [step] at h
    split at h
    · rename_i old hq
      split at h
      · rename_i hstage
        cases h
        exact effect_subscribe hq (congrArg (Option.map _) hq) (write_inverterId _ _) (.inr ⟨⟨_, hstage⟩, same_write _ _⟩)
      · rename_i hstage _
        cases h
        exact effect_subscribe hq (congrArg (Option.map _) hq) rfl (.inr ⟨⟨_, hstage⟩, .refl⟩)
      · cases h
    · cases h
  | subscribed q =>
    simp only [step] at h
    split at h
    · rename_i old hq
      split at h
      · rename_i c hstage
        split at h
        · rename_i hc
          cases h
          exact effect_one hq rfl (.listen rfl hstage hc)
        · rename_i hc
          cases h
          exact effect_one hq rfl (.throw rfl hstage (.inl hc))
        · rename_i hc
          cases h
          exact effect_one hq rfl (.throw rfl hstage (.inr hc))
        · cases h
      · cases h
    · cases h
  | deliver =>
    simp only [step] at h
    split at h
    · cases h
    · rename_i hw
      split at h
      · cases h
        refine ⟨.inr ⟨_, rfl, by simp only [MetricsPubSub.step, hw]⟩,
          .all _ (fun p => List.getElem?_mapIdx) (fun p stream => same_told _ _ _ p stream) ?_, .kept rfl rfl⟩
        intro b he p
        cases he
        exact (Option.some_ne_none _).symm
      · cases h
  | heartbeat q =>
    simp only [step] at h
    split at h
    · rename_i old hq
      split at h
      · cases h
        exact effect_one hq rfl (.idle (calls_nobody rfl) (same_write _ _))
      · cases h
    · cases h
  | redisError =>
    simp only [step] at h
    split at h
    · cases h
      exact ⟨.inl ⟨rfl, rfl⟩, .all (fun _ => Stream.redisError) (fun p => List.getElem?_map) (fun _ => same_redisError)
        (calls_nobody rfl), .kept rfl rfl⟩
    · cases h
  | close q =>
    simp only [step] at h
    split at h
    · rename_i old hq
      split at h
      · cases h
      · rename_i hclosed
        have hclosed := Bool.eq_false_iff.mpr hclosed
        cases h
        unfold State.close
        split
        · rename_i hstage
          have hb : s.pubSubAction (.close q) = some (.unsubscribe (channel old.inverterId) (.onMessage q)) := by
            simp only [State.pubSubAction, hq, Option.bind_some, hstage, if_true]
          refine ⟨.inr ⟨_, hb, rfl⟩, .one q _ _ hq rfl (fun b hmem p hc => ?_) (.cleanup rfl hstage hclosed), .kept rfl rfl⟩
          rw [hb] at hmem
          cases hmem
          cases hc
          rfl
        · rename_i hstage
          have hb : s.pubSubAction (.close q) = none := by
            simp only [State.pubSubAction, hq, Option.bind_some, if_neg hstage]
          exact effect_one hq hb (.close rfl rfl hstage)
    · cases h
  | pubSub b =>
    simp only [step] at h
    split at h
    · rename_i hother
      obtain ⟨pubSub, hb, rfl⟩ := Option.map_eq_some_iff.mp h
      refine ⟨.inr ⟨b, rfl, hb⟩, touched_none rfl ?_, .kept rfl rfl⟩
      intro _ he p
      cases he
      exact callback_other hother
    · cases h

theorem step_move (h : step lowerCase glob s a = some s') (hp : s.streams[p]? = some stream) :
    ∃ stream', s'.streams[p]? = some stream' ∧ Move a s s' p stream stream' := by
  rcases (step_effect h).touched with ⟨inverterId, hs, hb⟩ | ⟨q, old, new, hq, hs, hb, hm⟩ | ⟨f, hs, hf, hb⟩
  · rw [hs]
    exact ⟨stream, Calls.snoc_of_some hp, .idle (calls_nobody hb) .refl⟩
  · rw [hs]
    by_cases he : q = p
    · subst he
      rw [hq, Option.some.injEq] at hp
      subst hp
      exact ⟨new, Calls.getElem?_set_own hq, hm⟩
    · exact ⟨stream, (List.getElem?_set_ne he).trans hp, .idle (fun b hbm hc => he (hb b hbm p hc)) .refl⟩
  · refine ⟨f p stream, ?_, .idle (fun b hbm => hb b hbm p) (hf p stream)⟩
    rw [hs, hp, Option.map_some]

theorem step_new (h : step lowerCase glob s a = some s') (hp : s.streams[p]? = none) :
    (∀ b ∈ s.pubSubAction a, b.callback? ≠ some (.onMessage p)) ∧
      (s'.streams[p]? = none ∨ ∃ inverterId, s'.streams[p]? = some (.new inverterId)) := by
  have hle := List.getElem?_eq_none_iff.mp hp
  rcases (step_effect h).touched with ⟨inverterId, hs, hb⟩ | ⟨q, old, new, hq, hs, hb, -⟩ | ⟨f, hs, -, hb⟩
  · refine ⟨calls_nobody hb, ?_⟩
    rw [hs, List.getElem?_append_right hle, List.getElem?_singleton]
    split
    · exact .inr ⟨inverterId, rfl⟩
    · exact .inl rfl
  · refine ⟨fun b hbm hc => ?_, .inl ?_⟩
    · have he := hb b hbm p hc
      subst he
      rw [hp] at hq
      cases hq
    · rw [hs]
      exact List.getElem?_eq_none (by rw [List.length_set]; exact hle)
  · refine ⟨fun b hbm => hb b hbm p, .inl ?_⟩
    rw [hs, hp, Option.map_none]

/-! ## Where a stream's callback is -/

def topic (stream : Stream) : Topic := .channel (channel stream.inverterId)

def PlacedAt (pubSub : PubSub) (p : Nat) (topic : Topic) (closed : Bool) : Stage → Prop
  | .findingLatest | .findingInverter _ | .threw => Absent pubSub (.onMessage p)
  | .subscribing c => Outcome pubSub c topic (.onMessage p)
  | .returned => Present pubSub topic (.onMessage p) ∨ closed = true ∧ Absent pubSub (.onMessage p)

def Placed (pubSub : PubSub) (p : Nat) (stream : Stream) : Prop :=
  PlacedAt pubSub p (topic stream) stream.closed stream.stage

def Quiet (stream : Stream) : Prop := stream.heartbeat = false ∧ stream.onRedisError = false

structure Inv (s : State) : Prop where
  new : ∀ p : Nat, s.streams[p]? = none → Absent s.pubSub (.onMessage p)
  placed : ∀ (p : Nat) (stream : Stream), s.streams[p]? = some stream → Placed s.pubSub p stream
  quiet : ∀ (p : Nat) (stream : Stream), s.streams[p]? = some stream → stream.stage ≠ .returned → Quiet stream

theorem absent_other {callback : Callback} (h : Absent s.pubSub callback) (hs : step lowerCase glob s a = some s')
    (hb : ∀ b ∈ s.pubSubAction a, b.callback? ≠ some callback) : Absent s'.pubSub callback := by
  rcases (step_effect hs).served with ⟨-, he⟩ | ⟨b, hba, hstep⟩
  · rw [he]; exact h
  · exact h.step hstep (hb b hba)

theorem Placed.idle (h : Placed s.pubSub p stream) (hs : step lowerCase glob s a = some s')
    (hb : ∀ b ∈ s.pubSubAction a, b.callback? ≠ some (.onMessage p)) (hsame : Same stream stream') :
    Placed s'.pubSub p stream' := by
  unfold Placed topic at h ⊢
  rw [hsame.stage, hsame.inverterId, hsame.closed]
  rcases (step_effect hs).served with ⟨-, he⟩ | ⟨b, hba, hstep⟩
  · rw [he]; exact h
  · have hb := hb b hba
    cases hstage : stream.stage with
    | findingLatest | findingInverter latest | threw =>
      rw [hstage] at h
      exact h.step hstep hb
    | subscribing c =>
      rw [hstage] at h
      exact h.step hstep hb
    | returned =>
      rw [hstage] at h
      exact h.imp (·.step hstep hb) fun ⟨hc, h⟩ => ⟨hc, h.step hstep hb⟩

theorem Placed.move (h : Placed s.pubSub p stream) (hs : step lowerCase glob s a = some s')
    (hm : Move a s s' p stream stream') :
    Placed s'.pubSub p stream' := by
  cases hm with
  | idle hb hsame => exact h.idle hs hb hsame
  | found hp hstage =>
    unfold Placed at h ⊢
    rw [hstage] at h
    rw [hp]
    exact h
  | @subscribe next hp hstage =>
    unfold Placed at h
    have habsent : Absent s.pubSub (.onMessage p) := by
      rcases hstage with ⟨hstage, -⟩ | ⟨⟨latest, hstage⟩, -⟩ <;> rw [hstage] at h <;> exact h
    have hid : topic { next with stage := .subscribing s.pubSub.calls.length } = topic stream := by
      rcases hstage with ⟨-, rfl⟩ | ⟨-, hsame⟩
      · rfl
      · unfold topic
        rw [← hsame.inverterId]
    unfold Placed
    rw [hp, hid]
    exact habsent.subscribeTo
  | listen hp hstage hc =>
    unfold Placed at h
    rw [hstage] at h
    rw [hp]
    exact .inl (Outcome.returned h hc)
  | throw hp hstage hc =>
    unfold Placed at h
    rw [hstage] at h
    rw [hp]
    exact Outcome.failed h hc
  | close ha hp hstage =>
    unfold Placed at h ⊢
    rw [hp]
    cases hst : stream.stage with
    | returned => exact absurd hst hstage
    | _ =>
      rw [hst] at h
      exact h
  | cleanup hp hstage hc =>
    unfold Placed at h
    rw [hstage, hc] at h
    rw [hp]
    unfold Placed
    rw [hstage]
    exact .inr ⟨rfl, (h.resolve_right nofun).unsubscribeFrom⟩

theorem Quiet.move (h : stream.stage ≠ .returned → Quiet stream) (hm : Move a s s' p stream stream')
    (hs : stream'.stage ≠ .returned) : Quiet stream' := by
  cases hm with
  | idle hb hsame =>
    rw [hsame.stage] at hs
    obtain ⟨hh, hr⟩ := h hs
    exact ⟨hsame.heartbeat.trans hh, Bool.eq_false_iff.mpr fun ht => Bool.eq_false_iff.mp hr (hsame.onRedisError ht)⟩
  | found hp hstage => exact h fun he => nomatch hstage.symm.trans he
  | subscribe hp hstage =>
    rcases hstage with ⟨hstage, rfl⟩ | ⟨⟨latest, hstage⟩, hsame⟩
    · exact h fun he => nomatch hstage.symm.trans he
    · obtain ⟨hh, hr⟩ := h fun he => nomatch hstage.symm.trans he
      exact ⟨hsame.heartbeat.trans hh, Bool.eq_false_iff.mpr fun ht => Bool.eq_false_iff.mp hr (hsame.onRedisError ht)⟩
  | listen hp hstage hc => exact absurd rfl hs
  | throw hp hstage hc => exact h fun he => nomatch hstage.symm.trans he
  | close ha hp hstage => exact h hstage
  | cleanup hp hstage hc => exact ⟨rfl, rfl⟩

theorem inv_init : Inv init where
  new _ _ := ⟨fun _ ⟨_, hc, _⟩ => (nomatch hc), fun _ _ ⟨_, hc⟩ => (nomatch hc)⟩
  placed _ _ hp := nomatch hp
  quiet _ _ hp := nomatch hp

theorem inv_step (h : Inv s) (hs : step lowerCase glob s a = some s') : Inv s' := by
  have hnew : ∀ {p}, s.streams[p]? = none → Absent s'.pubSub (.onMessage p) := fun hp =>
    absent_other (h.new _ hp) hs (step_new hs hp).1
  refine ⟨fun p hp => ?_, fun p stream hp => ?_, fun p stream hp hstage => ?_⟩
  · cases hold : s.streams[p]? with
    | none => exact hnew hold
    | some stream =>
      obtain ⟨stream', hp', -⟩ := step_move hs hold
      rw [hp] at hp'
      cases hp'
  · cases hold : s.streams[p]? with
    | none =>
      rcases (step_new hs hold).2 with hn | ⟨inverterId, hn⟩ <;> rw [hn] at hp <;> cases hp
      exact hnew hold
    | some old =>
      obtain ⟨stream', hp', hm⟩ := step_move hs hold
      rw [hp, Option.some.injEq] at hp'
      subst hp'
      exact (h.placed p old hold).move hs hm
  · cases hold : s.streams[p]? with
    | none =>
      rcases (step_new hs hold).2 with hn | ⟨inverterId, hn⟩ <;> rw [hn] at hp <;> cases hp
      exact ⟨rfl, rfl⟩
    | some old =>
      obtain ⟨stream', hp', hm⟩ := step_move hs hold
      rw [hp, Option.some.injEq] at hp'
      subst hp'
      exact Quiet.move (h.quiet p old hold) hm hstage

/-! ## A closed stream -/

/-- What is left of a stream that is closed and whose call has ended. -/
def NothingLeft (s : State) : Prop :=
  ∀ (p : Nat) (stream : Stream), s.streams[p]? = some stream → stream.closed = true →
    stream.stage = .returned ∨ stream.stage = .threw → (∀ topic, ¬ Member s.pubSub topic (.onMessage p)) ∧ Quiet stream

/-- The client closes only after `streamMetrics` has come to an end. -/
def ClosesLate (s : State) : Action → Prop
  | .close p => ∀ stream ∈ s.streams[p]?, stream.stage = .returned ∨ stream.stage = .threw
  | _ => True

instance (s : State) (a : Action) : Decidable (ClosesLate s a) := by
  unfold ClosesLate
  split <;> infer_instance

def Tidy (s : State) : Prop :=
  ∀ (p : Nat) (stream : Stream), s.streams[p]? = some stream → stream.closed = true →
    stream.stage = .threw ∨ stream.stage = .returned ∧ Absent s.pubSub (.onMessage p) ∧ Quiet stream

theorem tidy_init : Tidy init := by
  intro p stream hp
  cases hp

theorem tidy_step (h : Tidy s) (hi : Inv s) (ho : ClosesLate s a) (hs : step lowerCase glob s a = some s') : Tidy s' := by
  intro p stream' hp' hc
  cases hp : s.streams[p]? with
  | none =>
    rcases (step_new hs hp).2 with hn | ⟨inverterId, hn⟩ <;> rw [hn] at hp' <;> cases hp'
    cases hc
  | some stream =>
    obtain ⟨next, hnext, hm⟩ := step_move hs hp
    rw [hp', Option.some.injEq] at hnext
    subst hnext
    have hend : ∀ {stage}, stream.closed = true → stream.stage = stage → stage = .threw ∨ stage = .returned := by
      intro _ hc he
      subst he
      exact (h p stream hp hc).imp id And.left
    cases hm with
    | idle hb hsame =>
      rw [hsame.closed] at hc
      rw [hsame.stage]
      refine (h p stream hp hc).imp id fun ⟨hst, ha, hh, hr⟩ => ⟨hst, absent_other ha hs hb, hsame.heartbeat.trans hh, ?_⟩
      exact Bool.eq_false_iff.mpr fun ht => Bool.eq_false_iff.mp hr (hsame.onRedisError ht)
    | found hb hst => rcases hend hc hst with he | he <;> cases he
    | subscribe hb hst =>
      rcases hst with ⟨hst, rfl⟩ | ⟨⟨latest, hst⟩, hsame⟩
      · rcases hend hc hst with he | he <;> cases he
      · rcases hend (hsame.closed ▸ hc) hst with he | he <;> cases he
    | listen hb hst => rcases hend hc hst with he | he <;> cases he
    | throw hb hst => rcases hend hc hst with he | he <;> cases he
    | close ha hb hst =>
      subst ha
      exact .inl ((ho stream hp).resolve_left hst)
    | cleanup hb hst hopen =>
      have hpl := hi.placed p stream hp
      unfold Placed at hpl
      rw [hst, hopen] at hpl
      rw [hb]
      exact .inr ⟨hst, (hpl.resolve_right nofun).unsubscribeFrom, rfl, rfl⟩

/-- A stream that is closed after `streamMetrics` has come to an end leaves nothing behind. -/
theorem nothing_left (h : (machine lowerCase glob).Reach ClosesLate s) : NothingLeft s := by
  have ht : Inv s ∧ Tidy s := Machine.Path.inv (I := fun s => Inv s ∧ Tidy s) ⟨inv_init, tidy_init⟩
    (fun _ _ _ hi ho hs => ⟨inv_step hi.1 hs, tidy_step hi.2 hi.1 ho hs⟩) h
  intro p stream hp hc _
  rcases ht.2 p stream hp hc with hst | ⟨-, ha, hq⟩
  · have hpl := ht.1.placed p stream hp
    unfold Placed at hpl
    rw [hst] at hpl
    exact ⟨hpl.member, ht.1.quiet p stream hp fun he => nomatch hst.symm.trans he⟩
  · exact ⟨ha.member, hq⟩

/-- The client is gone before the latest row is found. -/
def leavesEarly : List Action :=
  [.streamMetrics 7, .close 0, .latest 0 (some none), .inverter 0 (some .growatt), .pubSub (.reply true),
    .pubSub (.resume 0), .subscribed 0]

def noGlob : String → String → Bool := fun _ _ => false

/-- Ids below 100 are in lower case, and 107 is 7 in upper case. -/
def lower (id : Uuid) : Uuid := id % 100

theorem early_close_leaks : ¬ ∀ s : State, (machine lower noGlob).Reach Free s → NothingLeft s := by
  intro h
  have h0 : ((machine lower noGlob).run init leavesEarly).map (fun s =>
      (s.pubSub.subscriptions (.channel "inverter:7"), s.streams)) =
      some (some [.onMessage 0], [⟨7, .returned, some 0, true, true, true, false, []⟩]) := by decide
  obtain ⟨s, hs, h0⟩ := Option.map_eq_some_iff.mp h0
  simp only [Prod.mk.injEq] at h0
  obtain ⟨hsub, hst⟩ := h0
  have hp : s.streams[0]? = some ⟨7, .returned, some 0, true, true, true, false, []⟩ := by rw [hst]; rfl
  exact (h s (Machine.path_of_run hs) 0 _ hp rfl (.inl rfl)).1 _ ⟨_, hsub, List.mem_cons_self⟩

/-- One client leaves after its stream is there, another one stays. -/
def leavesLater : List Action :=
  [.streamMetrics 7, .latest 0 (some none), .inverter 0 none, .pubSub (.reply true), .pubSub (.resume 0), .subscribed 0,
    .streamMetrics 7, .latest 1 none, .subscribed 1, .heartbeat 0, .close 0]

theorem nothing_left_later : ∃ s : State, ((machine lower noGlob).only ClosesLate).run init leavesLater = some s ∧
    ¬ Member s.pubSub (.channel "inverter:7") (.onMessage 0) ∧ Member s.pubSub (.channel "inverter:7") (.onMessage 1) := by
  have h0 : (((machine lower noGlob).only ClosesLate).run init leavesLater).map (fun s =>
      (s.pubSub.subscriptions (.channel "inverter:7"), s.streams[0]?.map fun stream => (stream.closed, stream.stage))) =
      some (some [.onMessage 1], some (true, .returned)) := by decide
  obtain ⟨s, hs, h0⟩ := Option.map_eq_some_iff.mp h0
  simp only [Prod.mk.injEq] at h0
  obtain ⟨hsub, hst⟩ := h0
  obtain ⟨stream, hp, hst⟩ := Option.map_eq_some_iff.mp hst
  simp only [Prod.mk.injEq] at hst
  exact ⟨s, hs, (nothing_left (Machine.path_of_run_only hs) 0 stream hp hst.1 (.inl hst.2)).1 _,
    ⟨_, hsub, List.mem_cons_self⟩⟩

end IntellApi.MetricsStream
