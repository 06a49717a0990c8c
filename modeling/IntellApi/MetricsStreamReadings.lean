import IntellApi.MetricEventsSound
import IntellApi.MetricsPubSubSound
import IntellApi.MetricsStreamSound

/-!
# What reaches a stream

A reading is due to a stream if its row was saved after the stream's snapshot
was looked for. It is told to the stream if Redis was subscribed when it was
published and the callback was in the set when it arrived. Both hold once
`subscribe` has returned, and may or may not hold before. If the stream spells
the id in another way than the row, they do not help.
-/

namespace IntellApi.MetricsStream

open Lts MetricEvents MetricsPubSub

variable {lowerCase : Uuid → Uuid} {glob : String → String → Bool} {s s' : State} {a : Action} {p : Nat}
  {stream stream' : Stream} {reading reading' : Reading}

/-! ## Readings that are due -/

/-- The reading is not in the stream's snapshot, and the client is still there. -/
def Due (lowerCase : Uuid → Uuid) (stream : Stream) (reading : Reading) : Prop :=
  stream.Connected ∧ lowerCase stream.inverterId = reading.metric.inverterId ∧ stream.rowsSeen.any (· ≤ reading.row) = true

instance (lowerCase : Uuid → Uuid) (stream : Stream) (reading : Reading) : Decidable (Due lowerCase stream reading) := by
  unfold Due
  infer_instance

/-- What was published and is due to a stream is written to it, or on its way. -/
def Told (lowerCase : Uuid → Uuid) (s : State) : Prop :=
  ∀ (p : Nat) (stream : Stream), s.streams[p]? = some stream → ∀ reading ∈ s.readings, ∀ m,
    reading.publication = .message m → Due lowerCase stream reading →
    .live m (liveEvent reading.metric) ∈ stream.written ∨ (topic stream, m) ∈ s.pubSub.wire

/-- The stream's call of `subscribe` has returned. -/
def Subscribed (s : State) (stream : Stream) : Prop :=
  match stream.stage with
  | .returned => True
  | .subscribing c => s.pubSub.calls[c]? = some .returned
  | _ => False

instance (s : State) (stream : Stream) : Decidable (Subscribed s stream) := by
  unfold Subscribed
  split <;> infer_instance

/-- What is due to a stream is published when Redis is subscribed to its
channel, and arrives when the stream's call of `subscribe` has returned. -/
def Covered (lowerCase : Uuid → Uuid) (s : State) : Action → Prop
  | .publish k true => ∀ reading ∈ s.readings[k]?, ∀ stream ∈ s.streams, Due lowerCase stream reading →
    stream.inverterId = reading.metric.inverterId ∧ (Subscribed s stream ∨ topic stream ∈ s.pubSub.redis)
  | .deliver => ∀ x ∈ s.pubSub.wire.head?, ∀ reading ∈ s.readings, reading.publication = .message x.2 →
    ∀ stream ∈ s.streams, Due lowerCase stream reading → Subscribed s stream
  | _ => True

instance (lowerCase : Uuid → Uuid) (s : State) (a : Action) : Decidable (Covered lowerCase s a) := by
  unfold Covered
  split <;> infer_instance

/-- The step is covered, and calls into no subscription that is being made or was refused. -/
def Seamless (lowerCase : Uuid → Uuid) (s : State) (a : Action) : Prop :=
  Covered lowerCase s a ∧ ∀ b ∈ s.pubSubAction a, Alone s.pubSub b

instance (lowerCase : Uuid → Uuid) (s : State) (a : Action) : Decidable (Seamless lowerCase s a) := by
  unfold Seamless
  infer_instance

/-! ## Readings along the steps -/

theorem step_deliver (h : step lowerCase glob s a = some s') (hb : s.pubSubAction a = some .deliver) : a = .deliver := by
  cases a with
  | deliver => rfl
  | pubSub b =>
    cases hb
    cases h
  | publish k ok =>
    cases ok with
    | false => cases hb
    | true =>
      obtain ⟨_, -, hb⟩ := Option.map_eq_some_iff.mp hb
      cases hb
  | latest q answer =>
    cases answer with
    | none =>
      obtain ⟨_, -, hb⟩ := Option.map_eq_some_iff.mp hb
      cases hb
    | some latest => cases hb
  | inverter q inverterBrand =>
    obtain ⟨_, -, hb⟩ := Option.map_eq_some_iff.mp hb
    cases hb
  | close q =>
    obtain ⟨_, -, hb⟩ := Option.bind_eq_some_iff.mp hb
    split at hb <;> cases hb
  | _ => cases hb

/-- A message that is on its way stays there until it arrives. -/
theorem step_wire (h : step lowerCase glob s a = some s') {x : Topic × Nat} (hx : x ∈ s.pubSub.wire) :
    x ∈ s'.pubSub.wire ∨ a = .deliver ∧ s.pubSub.wire.head? = some x := by
  rcases (step_effect h).served with ⟨-, he⟩ | ⟨b, hb, hstep⟩
  · rw [he]
    exact .inl hx
  · rcases step_messages hstep with ⟨hw, -⟩ | ⟨_, _, -, he⟩ | ⟨rfl, ⟨y, hw⟩, -⟩
    · rw [hw]
      exact .inl hx
    · rw [he]
      exact .inl (List.mem_append_left _ hx)
    · rw [hw] at hx ⊢
      rcases List.mem_cons.mp hx with rfl | hx
      · exact .inr ⟨step_deliver h hb, rfl⟩
      · exact .inl hx

theorem step_published (h : step lowerCase glob s a = some s') : s.pubSub.published <+: s'.pubSub.published := by
  rcases (step_effect h).served with ⟨-, he⟩ | ⟨b, -, hstep⟩
  · exact ⟨[], by rw [List.append_nil, he]⟩
  · rcases step_messages hstep with ⟨-, hp⟩ | ⟨_, _, -, he⟩ | ⟨-, -, hp⟩
    · exact ⟨[], by rw [List.append_nil, hp]⟩
    · rw [he]
      exact List.prefix_append _ _
    · exact ⟨[], by rw [List.append_nil, hp]⟩

theorem mem_modify_after {readings : List Reading} {k m : Nat} {ok : Bool}
    (h : reading' ∈ readings.modify k (·.after ok m)) :
    reading' ∈ readings ∨ ∃ reading, readings[k]? = some reading ∧ reading' = reading.after ok m := by
  obtain ⟨i, hi⟩ := List.mem_iff_getElem?.mp h
  rw [List.getElem?_modify] at hi
  obtain ⟨reading, hr, he⟩ := Option.map_eq_some_iff.mp hi
  split at he
  · rename_i hik
    subst hik
    exact .inr ⟨reading, hr, he.symm⟩
  · subst he
    exact .inl (List.mem_of_getElem? hr)

/-! ## The invariant -/

structure Caught (lowerCase : Uuid → Uuid) (glob : String → String → Bool) (s : State) : Prop where
  pubSub : MetricsPubSub.Inv glob s.pubSub
  placed : Inv s
  row : ∀ reading ∈ s.readings, reading.row < s.rows.length
  message : ∀ reading ∈ s.readings, ∀ m, reading.publication = .message m →
    s.pubSub.published[m]? = some (channel reading.metric.inverterId, reading.metric)
  told : Told lowerCase s

/-- A stream whose `subscribe` has returned gets what arrives, while the client is there. -/
theorem Inv.present (h : Inv s) (hp : s.streams[p]? = some stream) (hs : Subscribed s stream) (hc : stream.closed = false) :
    Present s.pubSub (topic stream) (.onMessage p) := by
  have hpl := h.placed p stream hp
  unfold Placed at hpl
  unfold Subscribed at hs
  cases hst : stream.stage with
  | returned =>
    rw [hst, hc] at hpl
    exact hpl.resolve_right nofun
  | subscribing c =>
    rw [hst] at hpl hs
    exact Outcome.returned hpl hs
  | _ =>
    rw [hst] at hs
    exact hs.elim

/-- A reading of the past that is due to a stream now was due to it before. -/
theorem Due.of_move (h : Due lowerCase stream' reading) (hm : Move a s s' p stream stream')
    (hr : reading.row < s.rows.length) :
    Due lowerCase stream reading ∧ stream.written <+: stream'.written ∧ topic stream' = topic stream := by
  have hnot : ∀ {next : Stream}, next.rowsSeen = some s.rows.length → ¬ next.rowsSeen.any (· ≤ reading.row) = true := by
    intro next hn hany
    rw [hn] at hany
    exact absurd (of_decide_eq_true hany) (Nat.not_le_of_lt hr)
  have same : ∀ next : Stream, Same stream next → Due lowerCase next reading →
      Due lowerCase stream reading ∧ stream.written <+: next.written ∧ topic next = topic stream := by
    intro next hsame hx
    obtain ⟨⟨hc, he⟩, hid, hrows⟩ := hx
    rw [hsame.closed] at hc
    rw [hsame.inverterId] at hid
    rw [hsame.rowsSeen] at hrows
    refine ⟨⟨⟨hc, Bool.eq_false_iff.mpr fun ht => Bool.eq_false_iff.mp he (hsame.ended ht)⟩, hid, hrows⟩, hsame.written, ?_⟩
    unfold topic
    rw [hsame.inverterId]
  cases hm with
  | idle hb hsame => exact same _ hsame h
  | found hp hst => exact absurd h.2.2 (hnot rfl)
  | @subscribe next hp hst =>
    rcases hst with ⟨-, rfl⟩ | ⟨-, hsame⟩
    · exact absurd h.2.2 (hnot rfl)
    · exact same next hsame h
  | listen hp hst hc => exact ⟨h, List.prefix_rfl, rfl⟩
  | throw hp hst hc => exact ⟨h, List.prefix_rfl, rfl⟩
  | close ha hp hst => cases h.1.1
  | cleanup hp hst hc => cases h.1.1

theorem publish_pubSub {k : Nat} (hk : s.readings[k]? = some reading)
    (hs : step lowerCase glob s (.publish k true) = some s') :
    s'.pubSub = s.pubSub.publish glob (channel reading.metric.inverterId) reading.metric := by
  rcases (step_effect hs).served with ⟨hn, -⟩ | ⟨b, hb, hstep⟩
  · simp only [State.pubSubAction, hk, Option.map_some] at hn
    cases hn
  · simp only [State.pubSubAction, hk, Option.map_some] at hb
    cases hb
    exact (Option.some.inj hstep).symm

theorem Caught.publish (h : Caught lowerCase glob s) {k : Nat} (ho : Covered lowerCase s (.publish k true))
    (hk : s.readings[k]? = some reading) (hs : step lowerCase glob s (.publish k true) = some s')
    (hp : s.streams[p]? = some stream) (hd : Due lowerCase stream reading) :
    (topic stream, s.pubSub.published.length) ∈ s'.pubSub.wire := by
  obtain ⟨hid, hwhere⟩ := ho reading hk stream (List.mem_of_getElem? hp) hd
  have hredis : topic stream ∈ s.pubSub.redis := by
    rcases hwhere with hsub | hr
    · obtain ⟨callbacks, hc, hm⟩ := (h.placed.present hp hsub hd.1.1).member
      exact (h.pubSub.live _ callbacks hc (List.ne_nil_of_mem hm)).1
    · exact hr
  have haccepts : (topic stream).accepts glob (channel reading.metric.inverterId) = true :=
    decide_eq_true (congrArg channel hid)
  rw [publish_pubSub hk hs]
  exact List.mem_append_right _ (List.mem_map.mpr ⟨_, List.mem_filter.mpr ⟨hredis, haccepts⟩, rfl⟩)

theorem Caught.deliver (h : Caught lowerCase glob s) (ho : Covered lowerCase s .deliver) {m : Nat}
    (hw : s.pubSub.wire.head? = some (topic stream, m)) (hr : reading ∈ s.readings) (hm : reading.publication = .message m)
    (hs : step lowerCase glob s .deliver = some s') (hp : s.streams[p]? = some stream) (hp' : s'.streams[p]? = some stream')
    (hd : Due lowerCase stream reading) : .live m (liveEvent reading.metric) ∈ stream'.written := by
  have hsub := ho _ hw reading hr hm stream (List.mem_of_getElem? hp) hd
  obtain ⟨callbacks, hc, hmem⟩ := (h.placed.present hp hsub hd.1.1).member
  obtain ⟨wire, hwire⟩ := List.head?_eq_some_iff.mp hw
  have htold : stream' = MetricsStream.told callbacks m reading.metric p stream := by
    simp only [step, hwire, h.message reading hr m hm, hc, Option.getD_some, Option.some.injEq] at hs
    subst hs
    rw [List.getElem?_mapIdx, hp, Option.map_some, Option.some.injEq] at hp'
    exact hp'.symm
  rw [htold, MetricsStream.told, if_pos hmem, Stream.write, if_pos hd.1]
  exact List.mem_append_right _ (List.mem_singleton_self _)

/-- A message that is new is the one that `publish` has just sent. -/
theorem message_of_step {m : Nat} (hs : step lowerCase glob s a = some s') (hr' : reading' ∈ s'.readings)
    (hm : reading'.publication = .message m) :
    reading' ∈ s.readings ∨ ∃ k reading, a = .publish k true ∧ s.readings[k]? = some reading ∧
      s'.streams = s.streams ∧ m = s.pubSub.published.length ∧ reading' = reading.after true m := by
  rcases (step_effect hs).stored with ⟨-, hrs⟩ | ⟨metric, row, -, hrs⟩ | ⟨k, ok, reading, rfl, hk, -, hst, hrs⟩
  · exact .inl (hrs ▸ hr')
  · rw [hrs] at hr'
    rcases List.mem_append.mp hr' with hr | hr
    · exact .inl hr
    · rw [List.mem_singleton.mp hr] at hm
      cases hm
  · rw [hrs] at hr'
    rcases mem_modify_after hr' with hr | ⟨reading₀, hk₀, rfl⟩
    · exact .inl hr
    · rw [hk, Option.some.injEq] at hk₀
      subst hk₀
      cases ok with
      | false => cases hm
      | true =>
        cases hm
        exact .inr ⟨k, reading, rfl, hk, hst, rfl, rfl⟩

theorem told_step (h : Caught lowerCase glob s) (ho : Covered lowerCase s a) (hs : step lowerCase glob s a = some s') :
    Told lowerCase s' := by
  intro p stream' hp' reading' hr' m hm hd'
  cases hp : s.streams[p]? with
  | none =>
    rcases (step_new hs hp).2 with hn | ⟨inverterId, hn⟩ <;> rw [hn] at hp' <;> cases hp'
    cases hd'.2.2
  | some stream =>
    obtain ⟨next, hnext, hmove⟩ := step_move hs hp
    rw [hp', Option.some.injEq] at hnext
    subst hnext
    rcases message_of_step hs hr' hm with hr | ⟨k, reading, rfl, hk, hst, rfl, rfl⟩
    · obtain ⟨hd, hpre, htopic⟩ := hd'.of_move hmove (h.row reading' hr)
      rw [htopic]
      rcases h.told p stream hp reading' hr m hm hd with hwritten | hwire
      · exact .inl (hpre.mem hwritten)
      · rcases step_wire hs hwire with hkeep | ⟨rfl, hhead⟩
        · exact .inr hkeep
        · exact .inl (h.deliver ho hhead hr hm hs hp hp' hd)
    · rw [hst, hp, Option.some.injEq] at hp'
      subst hp'
      exact .inr (h.publish ho hk hs hp hd')

theorem caught_init : Caught lowerCase glob init where
  pubSub := MetricsPubSub.inv_init
  placed := inv_init
  row _ hr := nomatch hr
  message _ hr := nomatch hr
  told _ _ hp := nomatch hp

theorem caught_step (h : Caught lowerCase glob s) (ho : Seamless lowerCase s a)
    (hs : step lowerCase glob s a = some s') : Caught lowerCase glob s' := by
  refine ⟨?_, inv_step h.placed hs, ?_, ?_, told_step h ho.1 hs⟩
  · rcases (step_effect hs).served with ⟨-, he⟩ | ⟨b, hb, hstep⟩
    · rw [he]
      exact h.pubSub
    · exact MetricsPubSub.inv_step h.pubSub (ho.2 b hb) hstep
  · intro reading' hr'
    rcases (step_effect hs).stored with ⟨hrows, hrs⟩ | ⟨metric, row, hrows, hrs⟩ | ⟨k, ok, reading, -, -, hrows, -, hrs⟩
    · rw [hrs] at hr'
      rw [hrows]
      exact h.row reading' hr'
    · rw [hrs] at hr'
      rw [hrows, List.length_append, List.length_singleton]
      rcases List.mem_append.mp hr' with hr | hr
      · exact Nat.lt_succ_of_lt (h.row reading' hr)
      · rw [List.mem_singleton.mp hr]
        exact Nat.lt_succ_self _
    · rw [hrs] at hr'
      rw [hrows]
      rcases mem_modify_after hr' with hr | ⟨reading, hk, rfl⟩
      · exact h.row reading' hr
      · exact h.row reading (List.mem_of_getElem? hk)
  · intro reading' hr' m hm
    rcases message_of_step hs hr' hm with hr | ⟨k, reading, rfl, hk, -, rfl, rfl⟩
    · have hm := h.message reading' hr m hm
      obtain ⟨later, hp⟩ := step_published hs
      rw [← hp, List.getElem?_append_left (List.getElem?_eq_some_iff.mp hm).1]
      exact hm
    · rw [publish_pubSub hk hs]
      exact List.getElem?_concat_length

/-- If every reading that is due to a stream is published, on the channel that
the stream spells, after Redis has the channel and arrives after the stream's
`subscribe` has returned, none is missed. -/
theorem none_missed (h : (machine lowerCase glob).Reach (Seamless lowerCase) s) : Told lowerCase s :=
  (h.inv caught_init fun _ _ _ hi ho hs => caught_step hi ho hs : Caught lowerCase glob s).told

/-! ## Two runs -/

def halfCharged : NormalisedMetric := midnight (some (JsNumber.num 50))

/-- The reading is saved and published while the stream still looks for its inverter. -/
def publishedEarly : List Action :=
  [.streamMetrics 7, .latest 0 (some none), .persist halfCharged true, .publish 0 true, .inverter 0 (some .growatt),
    .pubSub (.reply true), .pubSub (.resume 0), .subscribed 0]

theorem early_reading_missed : ¬ ∀ s : State, (machine lower noGlob).Reach Free s → Told lower s := by
  intro h
  have h0 : ((machine lower noGlob).run init publishedEarly).map (fun s => (s.streams, s.readings, s.pubSub.wire)) =
      some ([⟨7, .returned, some 0, true, true, false, false, []⟩], [⟨halfCharged, 0, .message 0⟩], []) := by
    decide +kernel
  obtain ⟨s, hs, h0⟩ := Option.map_eq_some_iff.mp h0
  simp only [Prod.mk.injEq] at h0
  obtain ⟨hst, hr, hw⟩ := h0
  have ht := h s (Machine.path_of_run hs) 0 ⟨7, .returned, some 0, true, true, false, false, []⟩ (by rw [hst]; rfl)
    ⟨halfCharged, 0, .message 0⟩ (by rw [hr]; exact List.mem_cons_self) 0 rfl (by decide)
  rw [hw] at ht
  rcases ht with ht | ht <;> cases ht

/-- The same reading, published when Redis has the channel, arrives when the stream is there. -/
def publishedInTime : List Action :=
  [.streamMetrics 7, .latest 0 (some none), .persist halfCharged true, .inverter 0 (some .growatt), .pubSub (.reply true),
    .publish 0 true, .pubSub (.resume 0), .subscribed 0, .deliver]

theorem none_missed_inTime : ∃ s : State, ((machine lower noGlob).only (Seamless lower)).run init publishedInTime = some s ∧
    ∃ stream, s.streams[0]? = some stream ∧ .live 0 (liveEvent halfCharged) ∈ stream.written := by
  have h0 : (((machine lower noGlob).only (Seamless lower)).run init publishedInTime).map (fun s =>
      (s.readings, s.pubSub.wire, s.streams[0]?.any fun stream => decide (Due lower stream ⟨halfCharged, 0, .message 0⟩))) =
      some ([⟨halfCharged, 0, .message 0⟩], [], true) := by decide +kernel
  obtain ⟨s, hs, h0⟩ := Option.map_eq_some_iff.mp h0
  simp only [Prod.mk.injEq] at h0
  obtain ⟨hr, hw, hd⟩ := h0
  obtain ⟨stream, hp, hd⟩ := (Option.any_eq_true _ _).mp hd
  have ht := none_missed (Machine.path_of_run_only hs) 0 stream hp ⟨halfCharged, 0, .message 0⟩
    (by rw [hr]; exact List.mem_cons_self) 0 rfl (of_decide_eq_true hd)
  rw [hw] at ht
  exact ⟨s, hs, stream, hp, ht.resolve_right nofun⟩

end IntellApi.MetricsStream
