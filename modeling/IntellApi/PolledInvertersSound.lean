import IntellApi.InvertersSound
import IntellApi.MetricsPollerSound
import IntellApi.PolledInverters

/-!
# The poller follows the table

Every inactive inverter of a loaded brand has its deregistration still to come
(`Announced`) or as the last message on the channel, every active one is loaded
or has its registration still to come (`Expected`). The start-up query breaks
this for inverters that were deactivated before, a lost message breaks it for
its inverter, and so does a deregistration that spells the id in upper case or a
registration that comes after the deregistration.
-/

namespace IntellApi.PolledInverters

open Function MetricsPoller Inverters Lts

/-! ## What holds of a state -/

def queried (p : Poller) (brand : InverterBrand) : Bool :=
  match p.startUp with
  | .loading found => (found brand).isSome
  | .failed => false
  | .subscribing | .finished => true

def loadedBrands : List InverterBrand := [.victron, .growatt, .sunsynk, .sandbox]

def loadedIds (p : Poller) : List Uuid :=
  match p.startUp with
  | .loading found => loadedBrands.flatMap fun brand => ((found brand).getD []).map (·.id)
  | _ => p.tracked.ids

def hasStarted (p : Poller) : Bool :=
  match p.startUp with
  | .finished => true
  | _ => false

def Awaits (id : Uuid) : Handler → Prop
  | .lookingUp id' => id' = id
  | .found id' inverter => id' = id ∧ inverter.isSome = true
  | .finished | .rejected => False

def Announced (s : State) (id : Uuid) : Prop := Sent .deregistered id s.service.coming

instance (s : State) (id : Uuid) : Decidable (Announced s id) := by
  unfold Announced
  infer_instance

def Expected (s : State) (id : Uuid) : Prop :=
  Sent .registered id (s.service.coming ++ s.wire) ∨ ∃ handler ∈ s.poller.handlers, Awaits id handler

/-- Every write has been announced, everything published has been delivered and
every handler has ended. -/
structure Settled (s : State) : Prop where
  started : hasStarted s.poller = true
  coming : s.service.coming = []
  wire : s.wire = []
  handlers : ∀ handler ∈ s.poller.handlers, handler = .finished ∨ handler = .rejected

def TracksActive (s : State) : Prop :=
  ∀ id, id ∈ s.poller.tracked.ids ↔
    ∃ row ∈ s.service.inverters, row.id = id ∧ row.isActive = true ∧ row.brand ≠ .deye

/-! ## The condition -/

/-- The poller may miss what comes before the brand's query, and the
registration of an inverter it has loaded. -/
def Missable (s : State) (msg : InverterControlMessage) : Prop :=
  ∀ row ∈ s.service.inverters, row.id = msg.inverterId → queried s.poller row.brand = true →
    msg.event = .registered ∧ row.id ∈ loadedIds s.poller

instance (s : State) (msg : InverterControlMessage) : Decidable (Missable s msg) := by
  unfold Missable
  infer_instance

def InactiveAnnounced (s : State) (p : InverterRow → Bool) : Prop :=
  ∀ row ∈ s.service.inverters, p row = true → row.isActive = false → Announced s row.id

instance (s : State) (p : InverterRow → Bool) : Decidable (InactiveAnnounced s p) := by
  unfold InactiveAnnounced
  infer_instance

/-- The write of a deactivation whose id is not spelled as the row's comes
before the query: the poller does not know its message. -/
def InOwnSpelling (lowerCase : Uuid → Uuid) (s : State) (inverterId : Uuid) : Prop :=
  ∀ row ∈ s.service.inverters, row.id = lowerCase inverterId → row.isActive = true → queried s.poller row.brand = true →
    inverterId = row.id

instance (lowerCase : Uuid → Uuid) (s : State) (inverterId : Uuid) : Decidable (InOwnSpelling lowerCase s inverterId) := by
  unfold InOwnSpelling
  infer_instance

def deactivates : Request → Option Uuid
  | .deactivating inverterId _ => some inverterId
  | _ => none

def Covered (lowerCase : Uuid → Uuid) (s : State) : Action → Prop
  | .request (.statement r _) => ∀ inverterId ∈ s.service.requests[r]?.bind deactivates, InOwnSpelling lowerCase s inverterId
  | .request (.fail r _) => ∀ msg ∈ s.service.requests[r]?.bind Request.announces, Missable s msg
  | .poller (.findSpecificBrand brand) => InactiveAnnounced s (·.brand = brand)
  | .publish k =>
    ∀ msg ∈ s.service.outgoing[k]?,
      if s.subscribed then msg.event = .registered → InactiveAnnounced s (·.id = msg.inverterId) else Missable s msg
  | .publishFails k => ∀ msg ∈ s.service.outgoing[k]?, Missable s msg
  | .deliver => hasStarted s.poller = true ∨ ∀ msg ∈ s.wire.head?, Missable s msg
  | .poller (.resume h) => s.poller.InOrder (.resume h)
  | .poller (.getFails h) =>
    ∀ row ∈ s.service.inverters, s.poller.handlers[h]? = some (.lookingUp row.id) → row.isActive = false
  | _ => True

instance (lowerCase : Uuid → Uuid) (s : State) (a : Action) : Decidable (Covered lowerCase s a) := by
  unfold Covered
  split
  · infer_instance
  · infer_instance
  · infer_instance
  · split <;> infer_instance
  all_goals infer_instance

/-! ## Messages and rows -/

section
variable {event : InverterControlEvent} {id : Uuid} {msgs : List InverterControlMessage} {msg : InverterControlMessage}

theorem lastEvent_cons (h : lastEvent (msg :: msgs) id = some event) (hne : msg.inverterId = id → msg.event ≠ event) :
    lastEvent msgs id = some event := by
  unfold lastEvent at h ⊢
  by_cases hid : msg.inverterId = id
  · rw [List.filter_cons_of_pos (by simpa using hid)] at h
    cases hf : msgs.filter (·.inverterId = id) with
    | nil =>
      rw [hf, List.getLast?_singleton, Option.map_some, Option.some.injEq] at h
      exact absurd h (hne hid)
    | cons m ms =>
      rw [hf, List.getLast?_cons_cons] at h
      exact h
  · rw [List.filter_cons_of_neg (by simpa using hid)] at h
    exact h

theorem awaits_set {handlers : List Handler} {h : Nat} {old new : Handler} (hk : handlers[h]? = some old)
    (ha : ∃ handler ∈ handlers, Awaits id handler) :
    (∃ handler ∈ handlers.set h new, Awaits id handler) ∨ Awaits id old := by
  obtain ⟨handler, hm, ha⟩ := ha
  rcases Calls.mem_set_of_mem (b := new) hk hm with rfl | hm
  · exact .inr ha
  · exact .inl ⟨handler, hm, ha⟩

end

def brandIn (rows : List Inverter) (id : Uuid) : InverterBrand := ((rows.find? (·.id = id)).map (·.brand)).getD .deye

section
variable {rows : List Inverter} {id : Uuid} {inverter : Inverter}

theorem find_of_mem (hn : (rows.map (·.id)).Nodup) (hm : inverter ∈ rows) :
    rows.find? (·.id = inverter.id) = some inverter := by
  induction rows with
  | nil => cases hm
  | cons row rows ih =>
    rw [List.map_cons, List.nodup_cons] at hn
    rcases List.mem_cons.mp hm with rfl | hm
    · exact List.find?_cons_of_pos (decide_eq_true rfl)
    · rw [List.find?_cons_of_neg, ih hn.2 hm]
      rw [decide_eq_true_eq]
      exact fun he => hn.1 (he ▸ List.mem_map_of_mem hm)

theorem rows_brandIn (hn : (rows.map (·.id)).Nodup) : Rows (brandIn rows) rows where
  nodup := hn
  brand inverter hm := by
    rw [brandIn, find_of_mem hn hm]
    rfl

theorem brandIn_row (h : brandIn rows id ≠ .deye) : ∃ row ∈ rows, row.id = id ∧ row.brand = brandIn rows id := by
  unfold brandIn at h ⊢
  cases hf : rows.find? (·.id = id) with
  | none =>
    rw [hf] at h
    exact absurd rfl h
  | some row =>
    have hid := List.find?_some hf
    exact ⟨row, List.mem_of_find?_eq_some hf, of_decide_eq_true hid, rfl⟩

end

/-! ## The invariant -/

/-- What the callback has been given and what is on its way to it. -/
def chan (s : State) : List InverterControlMessage := s.poller.handled ++ s.wire

structure Inv (lowerCase : Uuid → Uuid) (s : State) : Prop where
  service : Wf lowerCase s.service
  /-- The brands of ids that are not in the table yet do not matter. -/
  sound : ∀ brandOf, Rows brandOf s.table → Sound brandOf s.poller
  obeys : Obeys s.poller
  early : s.subscribed = false → s.wire = [] ∧ hasStarted s.poller = false
  gone : ∀ id, Sent .deregistered id (s.service.coming ++ chan s) →
    ∃ row ∈ s.service.inverters, row.id = lowerCase id ∧ row.isActive = false
  inactive : ∀ row ∈ s.service.inverters, row.isActive = false → row.brand ≠ .deye →
    queried s.poller row.brand = true → Announced s row.id ∨ lastEvent (chan s) row.id = some .deregistered
  active : ∀ row ∈ s.service.inverters, row.isActive = true → row.brand ≠ .deye →
    queried s.poller row.brand = true → row.id ∈ loadedIds s.poller ∨ Expected s row.id

section
variable {lowerCase : Uuid → Uuid} {s s' : State}

theorem table_nodup (h : Wf lowerCase s.service) : (s.table.map (·.id)).Nodup := by
  rw [State.table, List.map_map]
  exact h.nodup

theorem Inv.rows (h : Inv lowerCase s) : Rows (brandIn s.table) s.table := rows_brandIn (table_nodup h.service)

theorem Inv.row_eq (h : Inv lowerCase s) {row row' : InverterRow} (hm : row ∈ s.service.inverters)
    (hm' : row' ∈ s.service.inverters) (he : row.id = row'.id) : row = row' :=
  List.inj_on_of_nodup_map h.service.nodup hm hm' he

theorem Inv.lower (h : Inv lowerCase s) {row : InverterRow} (hm : row ∈ s.service.inverters) : lowerCase row.id = row.id :=
  h.service.lower row.id (List.mem_map_of_mem hm)

theorem Inv.not_gone (h : Inv lowerCase s) {row : InverterRow} (hm : row ∈ s.service.inverters) (ha : row.isActive = true) :
    ¬ Sent .deregistered row.id (s.service.coming ++ chan s) := by
  intro hs
  obtain ⟨row', hm', hid, hi⟩ := h.gone row.id hs
  rw [h.row_eq hm' hm (hid.trans (h.lower hm)), ha] at hi
  cases hi

theorem mem_table {inverter : Inverter} : inverter ∈ s.table ↔ ∃ row ∈ s.service.inverters, row.toInverter = inverter :=
  List.mem_map

theorem Inv.tracked_row (h : Inv lowerCase s) {id : Uuid} (hm : id ∈ s.poller.tracked.ids) :
    ∃ row ∈ s.service.inverters, row.id = id ∧ row.brand ≠ .deye := by
  obtain ⟨brand, inverter, hi, rfl⟩ := Tracked.mem_ids.mp hm
  have hb := (((h.sound _ h.rows).tracked brand).brand inverter hi).2
  have hd : brand ≠ .deye := by
    intro he
    subst he
    cases hi
  obtain ⟨_, ht, hid, hrb⟩ := brandIn_row (hb ▸ hd)
  obtain ⟨row, hr, rfl⟩ := mem_table.mp ht
  exact ⟨row, hr, hid, by rw [hrb, hb]; exact hd⟩

/-! ## Requests -/

/-- A step that leaves the table and the poller alone. -/
theorem Inv.sameTable (h : Inv lowerCase s) {service : Service} (hw : Wf lowerCase service)
    (hi : service.inverters = s.service.inverters)
    (hgone : ∀ id, Sent .deregistered id service.coming → Sent .deregistered id s.service.coming)
    (hann : ∀ row ∈ s.service.inverters, row.isActive = false → queried s.poller row.brand = true →
      Sent .deregistered row.id s.service.coming → Sent .deregistered row.id service.coming)
    (hexp : ∀ row ∈ s.service.inverters, queried s.poller row.brand = true →
      Sent .registered row.id s.service.coming → Sent .registered row.id service.coming ∨ row.id ∈ loadedIds s.poller) :
    Inv lowerCase { s with service } := by
  obtain ⟨inverters, requests, outgoing⟩ := service
  cases hi
  refine ⟨hw, h.sound, h.obeys, h.early, fun id hs => h.gone id ?_, fun row hm hna hb hq => ?_, fun row hm ha hb hq => ?_⟩
  · rw [sent_append] at hs ⊢
    exact hs.imp_left (hgone id)
  · exact (h.inactive row hm hna hb hq).imp_left (hann row hm hna hq)
  · rcases h.active row hm ha hb hq with hl | hs | hw
    · exact .inl hl
    · rw [sent_append] at hs
      rcases hs with hs | hs
      · rcases hexp row hm hq hs with hs | hl
        · exact .inr (.inl (sent_append.mpr (.inl hs)))
        · exact .inl hl
      · exact .inr (.inl (sent_append.mpr (.inr hs)))
    · exact .inr (.inr hw)

/-- The poller can do without a message that is lost. -/
theorem Inv.lose (h : Inv lowerCase s) {service : Service} {msg : InverterControlMessage} (hw : Wf lowerCase service)
    (hi : service.inverters = s.service.inverters) (hm : Missable s msg)
    (hc : ∀ event id, Sent event id s.service.coming ↔
      Sent event id service.coming ∨ msg.event = event ∧ msg.inverterId = id) : Inv lowerCase { s with service } := by
  refine h.sameTable hw hi (fun id hs => (hc _ id).mpr (.inl hs)) (fun row hrow _ hq hs => ?_) fun row hrow hq hs => ?_
  · refine ((hc _ _).mp hs).resolve_right fun hx => ?_
    rw [(hm row hrow hx.2.symm hq).1] at hx
    cases hx.1
  · exact ((hc _ _).mp hs).imp_right fun hx => (hm row hrow hx.2.symm hq).2

theorem Inv.created (h : Inv lowerCase s) {service : Service} {inverter : InverterRow} (hw : Wf lowerCase service)
    (hact : inverter.isActive = true) (hi : service.inverters = s.service.inverters ++ [inverter])
    (hc : ∀ event id, Sent event id service.coming ↔
      Sent event id s.service.coming ∨ .registered = event ∧ inverter.id = id) : Inv lowerCase { s with service } := by
  obtain ⟨inverters, requests, outgoing⟩ := service
  cases hi
  refine ⟨hw, fun brandOf hr => h.sound brandOf ⟨table_nodup h.service, fun i hm => hr.brand i ?_⟩, h.obeys, h.early,
    fun id hs => ?_, fun row hm hna hb hq => ?_, fun row hm ha hb hq => ?_⟩
  · obtain ⟨row, hrow, rfl⟩ := mem_table.mp hm
    exact mem_table.mpr ⟨row, List.mem_append_left _ hrow, rfl⟩
  · rw [sent_append, hc] at hs
    have hs : Sent .deregistered id (s.service.coming ++ chan s) := by
      rcases hs with (hs | ⟨he, -⟩) | hs
      · exact sent_append.mpr (.inl hs)
      · cases he
      · exact sent_append.mpr (.inr hs)
    obtain ⟨row, hm, hr⟩ := h.gone id hs
    exact ⟨row, List.mem_append_left _ hm, hr⟩
  · rcases List.mem_append.mp hm with hm | hm
    · exact (h.inactive row hm hna hb hq).imp_left fun ha => (hc _ _).mpr (.inl ha)
    · rw [List.mem_singleton.mp hm, hact] at hna
      cases hna
  · rcases List.mem_append.mp hm with hm | hm
    · refine (h.active row hm ha hb hq).imp_right fun he => he.imp_left fun hs => ?_
      rw [sent_append] at hs ⊢
      exact hs.imp_left fun hs => (hc _ _).mpr (.inl hs)
    · rw [List.mem_singleton.mp hm]
      exact .inr (.inl (sent_append.mpr (.inl ((hc _ _).mpr (.inr ⟨rfl, rfl⟩)))))

theorem Inv.updated (h : Inv lowerCase s) {service : Service} {inverterId : Uuid} (hw : Wf lowerCase service)
    (hid : lowerCase inverterId ∈ s.service.inverters.map (·.id)) (ho : InOwnSpelling lowerCase s inverterId)
    (hi : service.inverters = deactivateById (lowerCase inverterId) s.service.inverters)
    (hc : ∀ event id, Sent event id service.coming ↔
      Sent event id s.service.coming ∨ .deregistered = event ∧ inverterId = id) : Inv lowerCase { s with service } := by
  obtain ⟨inverters, requests, outgoing⟩ := service
  cases hi
  have gone : ∀ row ∈ s.service.inverters, row.isActive = false ∨ row.id = lowerCase inverterId →
      ∃ row' ∈ deactivateById (lowerCase inverterId) s.service.inverters, row'.id = row.id ∧ row'.isActive = false := by
    intro row hm hr
    refine ⟨_, mem_deactivateById.mpr ⟨row, hm, rfl⟩, ?_⟩
    split
    · exact ⟨rfl, rfl⟩
    · rename_i hne
      exact ⟨rfl, hr.resolve_right hne⟩
  have old : ∀ id, Sent .deregistered id (s.service.coming ++ chan s) →
      ∃ row ∈ deactivateById (lowerCase inverterId) s.service.inverters, row.id = lowerCase id ∧ row.isActive = false := by
    intro id hs
    obtain ⟨row, hm, hrow, hr⟩ := h.gone id hs
    obtain ⟨row', hm', hid', hr'⟩ := gone row hm (.inl hr)
    exact ⟨row', hm', hid'.trans hrow, hr'⟩
  refine ⟨hw, fun brandOf hr => h.sound brandOf ⟨table_nodup h.service, fun i hm => ?_⟩, h.obeys, h.early,
    fun id hs => ?_, fun row hm hna hb hq => ?_, fun row hm ha hb hq => ?_⟩
  · obtain ⟨row, hrow, rfl⟩ := mem_table.mp hm
    have hb := hr.brand _ (mem_table.mpr ⟨_, mem_deactivateById.mpr ⟨row, hrow, rfl⟩, rfl⟩)
    split at hb <;> exact hb
  · rw [sent_append, hc] at hs
    rcases hs with (hs | ⟨-, rfl⟩) | hs
    · exact old id (sent_append.mpr (.inl hs))
    · obtain ⟨row, hm, he⟩ := List.mem_map.mp hid
      obtain ⟨row', hm', hid', hr⟩ := gone row hm (.inr he)
      exact ⟨row', hm', hid'.trans he, hr⟩
    · exact old id (sent_append.mpr (.inr hs))
  · obtain ⟨row₀, hm₀, rfl⟩ := mem_deactivateById.mp hm
    by_cases hact : row₀.isActive = true
    · by_cases he : row₀.id = lowerCase inverterId
      · rw [if_pos he] at hq ⊢
        exact .inl ((hc _ _).mpr (.inr ⟨rfl, ho row₀ hm₀ he hact hq⟩))
      · rw [if_neg he, hact] at hna
        cases hna
    · rw [Bool.not_eq_true] at hact
      have hsame : (if row₀.id = lowerCase inverterId then { row₀ with isActive := false } else row₀) = row₀ := by
        split
        · obtain ⟨row₀, serial⟩ := row₀
          cases row₀
          cases hact
          rfl
        · rfl
      rw [hsame] at hb hq ⊢
      exact (h.inactive row₀ hm₀ hact hb hq).imp_left fun ha => (hc _ _).mpr (.inl ha)
  · rcases (row_deactivateById hm).1 with ⟨-, hna⟩ | ⟨-, hm⟩
    · rw [ha] at hna
      cases hna
    · refine (h.active row hm ha hb hq).imp_right fun he => he.imp_left fun hs => ?_
      rw [sent_append] at hs ⊢
      exact hs.imp_left fun hs => (hc _ _).mpr (.inl hs)

theorem Inv.request (h : Inv lowerCase s) {a : Inverters.Action} {service : Service} (ho : Covered lowerCase s (.request a))
    (hs : s.service.step lowerCase a = some service) : Inv lowerCase { s with service } := by
  have hw := wf_step h.service hs
  cases service_step h.service hs with
  | quiet hi hc =>
    have hc : ∀ event id, Sent event id service.coming ↔ Sent event id s.service.coming := fun _ _ => sent_congr hc
    exact h.sameTable hw hi (fun id => (hc _ id).mp) (fun row _ _ _ => (hc _ row.id).mpr)
      fun row _ _ hs => .inl ((hc _ row.id).mpr hs)
  | created inverter _ hact hi hc => exact h.created hw hact hi fun _ _ => sent_more hc
  | updated r newId inverterId inverter ha hr hid hi hc =>
    subst ha
    have ho : InOwnSpelling lowerCase s inverterId := ho inverterId (by rw [hr]; rfl)
    exact h.updated hw hid ho hi fun _ _ => sent_more hc
  | lost r message request m ha hr hm hi hc =>
    subst ha
    exact h.lose hw hi (ho m (by rw [hr]; exact hm)) fun _ _ => sent_more hc

/-! ## Messages on their way -/

theorem not_finished {p : Poller} (h : hasStarted p = false) : p.startUp ≠ .finished := by
  intro he
  rw [hasStarted, he] at h
  cases h

theorem sent_coming_sent {event : InverterControlEvent} {id : Uuid} {k : Nat} {msg : InverterControlMessage}
    (hk : s.service.outgoing[k]? = some msg) : Sent event id s.service.coming ↔
      Sent event id (s.sent k).service.coming ∨ msg.event = event ∧ msg.inverterId = id := by
  rw [Service.coming, sent_append, sent_eraseIdx hk, or_right_comm, ← sent_append]
  rfl

theorem Inv.publish (h : Inv lowerCase s) {k : Nat} {msg : InverterControlMessage} (hk : s.service.outgoing[k]? = some msg)
    (hsub : s.subscribed = true) (hc : msg.event = .registered → InactiveAnnounced s (·.id = msg.inverterId)) :
    Inv lowerCase { s.sent k with wire := s.wire ++ [msg] } := by
  have hchan : chan { s.sent k with wire := s.wire ++ [msg] } = chan s ++ [msg] := (List.append_assoc ..).symm
  refine ⟨⟨h.service.nodup, h.service.lower, h.service.deactivating⟩, h.sound, h.obeys, ?_, fun id hs => h.gone id ?_,
    ?_, ?_⟩
  · intro hs
    rw [State.sent, hsub] at hs
    cases hs
  · rw [hchan, sent_append, sent_append, sent_singleton] at hs
    rw [sent_append, sent_coming_sent hk]
    rcases hs with hs | hs | hs
    · exact .inl (.inl hs)
    · exact .inr hs
    · exact .inl (.inr hs)
  · intro row hm hna hb hq
    rw [hchan, lastEvent_snoc]
    have still : Announced s row.id → ¬ (msg.event = .deregistered ∧ msg.inverterId = row.id) →
        Announced { s.sent k with wire := s.wire ++ [msg] } row.id :=
      fun ha hne => ((sent_coming_sent hk).mp ha).resolve_right hne
    by_cases hid : msg.inverterId = row.id
    · rw [if_pos hid]
      cases he : msg.event with
      | registered =>
        refine .inl (still (hc he row hm (decide_eq_true hid.symm) hna) ?_)
        rw [he]
        exact nofun
      | deregistered => exact .inr rfl
    · rw [if_neg hid]
      exact (h.inactive row hm hna hb hq).imp_left fun ha => still ha fun hne => hid hne.2
  · intro row hm ha hb hq
    refine (h.active row hm ha hb hq).imp_right fun he => he.imp_left fun hs => ?_
    rw [sent_append, sent_coming_sent hk] at hs
    rw [sent_append, sent_append, sent_singleton]
    rcases hs with (hs | hs) | hs
    · exact .inl hs
    · exact .inr (.inr hs)
    · exact .inr (.inl hs)

theorem Inv.miss (h : Inv lowerCase s) {k : Nat} {msg : InverterControlMessage} (hk : s.service.outgoing[k]? = some msg)
    (hc : Missable s msg) : Inv lowerCase (s.sent k) :=
  h.lose ⟨h.service.nodup, h.service.lower, h.service.deactivating⟩ rfl hc fun _ _ => sent_coming_sent hk

/-- A message that arrives before the callback has been added. -/
theorem Inv.missWire (h : Inv lowerCase s) {msg : InverterControlMessage} {wire : List InverterControlMessage}
    (hw : s.wire = msg :: wire) (hs : hasStarted s.poller = false) (hc : Missable s msg) : Inv lowerCase { s with wire } := by
  have hq : s.poller.handled = [] := ((h.sound _ h.rows).quiet (not_finished hs)).1
  have hchan : chan s = msg :: wire := by rw [chan, hq, hw, List.nil_append]
  have hchan' : chan { s with wire } = wire := by rw [chan, hq, List.nil_append]
  refine ⟨h.service, h.sound, h.obeys, fun he => ?_, fun id hs => h.gone id ?_, ?_, ?_⟩
  · rw [(h.early he).1] at hw
    cases hw
  · rw [hchan', sent_append] at hs
    rw [hchan, sent_append]
    exact hs.imp_right fun hs => sent_cons.mpr (.inr hs)
  · intro row hm hna hb hq
    rw [hchan']
    have hi := h.inactive row hm hna hb hq
    rw [hchan] at hi
    refine hi.imp_right fun hl => lastEvent_cons hl fun hid he => ?_
    rw [(hc row hm hid.symm hq).1] at he
    cases he
  · intro row hm ha hb hq
    rcases h.active row hm ha hb hq with hl | hs | hh
    · exact .inl hl
    · rw [hw, sent_append, sent_cons] at hs
      rcases hs with hs | ⟨-, hid⟩ | hs
      · exact .inr (.inl (sent_append.mpr (.inl hs)))
      · exact .inl (hc row hm hid.symm hq).2
      · exact .inr (.inl (sent_append.mpr (.inr hs)))
    · exact .inr (.inr hh)

/-! ## The poller -/

theorem Inv.poll (h : Inv lowerCase s) {a : MetricsPoller.Action} {p' : Poller} (wire' : List InverterControlMessage)
    (hc : Change s.table s.poller a p') (ho : s.poller.InOrder a) (hchan : p'.handled ++ wire' = chan s)
    (he : s.subscribed = false → wire' = [] ∧ hasStarted p' = false)
    (hi : ∀ row ∈ s.service.inverters, row.isActive = false → row.brand ≠ .deye → queried p' row.brand = true →
      queried s.poller row.brand = true ∨ Announced s row.id)
    (ha : ∀ row ∈ s.service.inverters, row.isActive = true → row.brand ≠ .deye → queried p' row.brand = true →
      row.id ∈ loadedIds p' ∨ Expected { s with poller := p', wire := wire' } row.id) :
    Inv lowerCase { s with poller := p', wire := wire' } where
  service := h.service
  sound brandOf hr := (h.sound brandOf hr).change hr hc
  obeys := h.obeys.change (h.sound _ h.rows) ho hc
  early := he
  gone id hs := h.gone id (by rw [← hchan]; exact hs)
  inactive row hm hna hb hq := by
    have hch : chan { s with poller := p', wire := wire' } = chan s := hchan
    rw [hch]
    rcases hi row hm hna hb hq with hq | hq
    · exact h.inactive row hm hna hb hq
    · exact .inl hq
  active := ha

theorem isValid_parsed (msg : InverterControlMessage) : isValidControlMessage (parsed msg) = some msg := by
  obtain ⟨_ | _, id, brand⟩ := msg <;> rfl

theorem mem_loadedBrands {brand : InverterBrand} : brand ∈ loadedBrands ↔ brand ≠ .deye := by
  cases brand <;> decide

theorem poller_step {a : MetricsPoller.Action} (h : step lowerCase s (.poller a) = some s') :
    (∀ raw, a ≠ .deliver raw) ∧ (a = .subscribe → s.subscribed = true) ∧
      ∃ p', Change s.table s.poller a p' ∧ s' = { s with poller := p' } := by
  have take : s.pollerStep a = some s' → ∃ p', Change s.table s.poller a p' ∧ s' = { s with poller := p' } := by
    intro h
    obtain ⟨p', hp, rfl⟩ := Option.map_eq_some_iff.mp h
    exact ⟨p', change_of_step hp, rfl⟩
  cases a with
  | deliver raw => cases h
  | subscribe =>
    simp only [step] at h
    split at h
    · rename_i hs
      exact ⟨nofun, fun _ => hs, take h⟩
    · cases h
  | findSpecificBrand | load | startUpFails | get | getFails | resume => exact ⟨nofun, nofun, take h⟩

theorem Inv.finished (h : Inv lowerCase s) {handler : Handler} (hm : handler ∈ s.poller.handlers) :
    s.poller.startUp = .finished := by
  by_contra hne
  rw [((h.sound _ h.rows).quiet hne).2] at hm
  cases hm

theorem Inv.early_of (h : Inv lowerCase s) {p' : Poller} (hp : hasStarted p' = true → hasStarted s.poller = true) :
    s.subscribed = false → s.wire = [] ∧ hasStarted p' = false := by
  intro hs
  refine ⟨(h.early hs).1, ?_⟩
  by_contra hne
  rw [Bool.not_eq_false] at hne
  rw [(h.early hs).2] at hp
  cases hp hne

theorem mem_loadedIds {p : Poller} {id : Uuid} (h : p.startUp = .finished) : id ∈ loadedIds p ↔ id ∈ p.tracked.ids := by
  rw [loadedIds, h]

theorem mem_table_of_row {row : InverterRow} (hm : row ∈ s.service.inverters) : row.toInverter ∈ s.table :=
  mem_table.mpr ⟨row, hm, rfl⟩

theorem Inv.findSpecificBrand (h : Inv lowerCase s) {found : InverterBrand → Option (List Inverter)} {brand : InverterBrand}
    (hs : s.poller.startUp = .loading found)
    (hc : Change s.table s.poller (.findSpecificBrand brand)
      { s.poller with startUp := .loading (update found brand (some (s.table.filter (·.brand = brand)))) })
    (hf : found brand = none) (ho : InactiveAnnounced s (·.brand = brand)) :
    Inv lowerCase { s with poller :=
      { s.poller with startUp := .loading (update found brand (some (s.table.filter (·.brand = brand)))) } } := by
  refine h.poll s.wire hc trivial rfl (h.early_of nofun) (fun row hm hna hd hq => ?_) fun row hm ha hd hq => ?_
  · by_cases hb : row.brand = brand
    · exact .inr (ho row hm (decide_eq_true hb) hna)
    · simp only [queried, update_of_ne hb] at hq
      refine .inl ?_
      rw [queried, hs]
      exact hq
  · simp only [loadedIds, List.mem_flatMap]
    by_cases hb : row.brand = brand
    · refine .inl ⟨brand, mem_loadedBrands.mpr (hb ▸ hd), ?_⟩
      rw [update_self, Option.getD_some]
      exact List.mem_map.mpr ⟨row.toInverter, List.mem_filter.mpr ⟨mem_table_of_row hm, decide_eq_true hb⟩, rfl⟩
    · simp only [queried, update_of_ne hb] at hq
      refine (h.active row hm ha hd (by rw [queried, hs]; exact hq)).imp_left fun hl => ?_
      rw [loadedIds, hs, List.mem_flatMap] at hl
      obtain ⟨brand', hb', hid⟩ := hl
      refine ⟨brand', hb', ?_⟩
      by_cases he : brand' = brand
      · rw [he, hf] at hid
        cases hid
      · rw [update_of_ne he]
        exact hid

theorem Inv.load (h : Inv lowerCase s) {found : InverterBrand → Option (List Inverter)} {t : Tracked}
    (hs : s.poller.startUp = .loading found)
    (hc : Change s.table s.poller .load { s.poller with startUp := .subscribing, tracked := t })
    (ht : ∀ brand, brand ≠ .deye → found brand = some (t.getArrayForBrand brand)) :
    Inv lowerCase { s with poller := { s.poller with startUp := .subscribing, tracked := t } } := by
  have hq : ∀ brand, brand ≠ .deye → queried s.poller brand = true := by
    intro brand hb
    simp only [queried, hs, ht brand hb, Option.isSome_some]
  refine h.poll s.wire hc trivial rfl (h.early_of nofun) (fun row _ _ hd _ => .inl (hq _ hd)) fun row hm ha hd _ => ?_
  refine (h.active row hm ha hd (hq _ hd)).imp_left fun hl => ?_
  rw [loadedIds, hs, List.mem_flatMap] at hl
  obtain ⟨brand, hb, hid⟩ := hl
  rw [ht brand (mem_loadedBrands.mp hb), Option.getD_some, List.mem_map] at hid
  exact Tracked.mem_ids.mpr ⟨brand, hid⟩

/-- An active inverter's handler comes back with its row, and after that the inverter is tracked. -/
theorem Inv.handler (h : Inv lowerCase s) {a : MetricsPoller.Action} {p' : Poller} {k : Nat} {old new : Handler}
    (hk : s.poller.handlers[k]? = some old) (hc : Change s.table s.poller a (p'.setHandler k new))
    (ho : s.poller.InOrder a)
    (hp : p'.startUp = s.poller.startUp ∧ p'.handled = s.poller.handled ∧ p'.handlers = s.poller.handlers)
    (hids : ∀ id ∈ s.poller.tracked.ids, id ∈ p'.tracked.ids)
    (hnew : ∀ row ∈ s.service.inverters, row.isActive = true → row.brand ≠ .deye → Awaits row.id old →
      Awaits row.id new ∨ row.id ∈ p'.tracked.ids) : Inv lowerCase { s with poller := p'.setHandler k new } := by
  have hf := h.finished (List.mem_of_getElem? hk)
  have hf' : (p'.setHandler k new).startUp = .finished := hp.1.trans hf
  refine h.poll s.wire hc ho (congrArg (· ++ s.wire) hp.2.1) (h.early_of fun _ => ?_) (fun row _ _ _ _ => .inl ?_)
    fun row hm ha hd _ => ?_
  · rw [hasStarted, hf]
  · rw [queried, hf]
  · rcases h.active row hm ha hd (by rw [queried, hf]) with hl | hs | hw
    · exact .inl ((mem_loadedIds hf').mpr (hids _ ((mem_loadedIds hf).mp hl)))
    · exact .inr (.inl hs)
    · have expected : ∀ other ∈ s.poller.handlers.set k new, Awaits row.id other →
          Expected { s with poller := p'.setHandler k new } row.id :=
        fun other ho hw => .inr ⟨other, by rw [Poller.setHandler, hp.2.2]; exact ho, hw⟩
      rcases awaits_set hk hw with ⟨other, ho, hw⟩ | hw
      · exact .inr (expected other ho hw)
      · rcases hnew row hm ha hd hw with hw | hid
        · exact .inr (expected new (List.mem_set (List.getElem?_eq_some_iff.mp hk).1 new) hw)
        · exact .inl ((mem_loadedIds hf').mpr hid)

theorem Inv.poller (h : Inv lowerCase s) {a : MetricsPoller.Action} (ho : Covered lowerCase s (.poller a))
    (hs : step lowerCase s (.poller a) = some s') : Inv lowerCase s' := by
  obtain ⟨hnd, hsub, p', hc, rfl⟩ := poller_step hs
  have hc' := hc
  cases hc with
  | ignored raw | registered raw | deregistered raw => exact absurd rfl (hnd raw)
  | findSpecificBrand found brand hl hb hf => exact h.findSpecificBrand hl hc' hf ho
  | load found t hl ht => exact h.load hl hc' ht
  | subscribe hl =>
    refine h.poll s.wire hc' trivial rfl (fun hn => ?_) (fun row _ _ _ _ => .inl ?_) fun row hm ha hd _ => ?_
    · rw [hsub rfl] at hn
      cases hn
    · rw [queried, hl]
    · have hr := h.active row hm ha hd (by rw [queried, hl])
      rw [loadedIds, hl] at hr
      exact hr
  | startUpFails hl =>
    exact h.poll s.wire hc' trivial rfl (h.early_of nofun) (fun _ _ _ _ hq => nomatch hq) fun _ _ _ _ hq => nomatch hq
  | get k id hk =>
    refine h.handler hk hc' trivial ⟨rfl, rfl, rfl⟩ (fun _ hm => hm) fun row hm _ _ hw => .inl ⟨hw, ?_⟩
    obtain rfl : id = row.id := hw
    rw [find_of_mem (table_nodup h.service) (mem_table_of_row hm)]
    rfl
  | getFails k id hk =>
    refine h.handler hk hc' trivial ⟨rfl, rfl, rfl⟩ (fun _ hm => hm) fun row hm ha _ hw => ?_
    obtain rfl : id = row.id := hw
    rw [ho row hm hk] at ha
    cases ha
  | resume k id inverter hk =>
    have hrest := Poller.startUp_registered s.poller id inverter
    refine h.handler hk hc' ho ⟨?_, ?_, ?_⟩ ?_ ?_
    · rw [hrest]
    · rw [hrest]
    · rw [hrest]
    · intro id' hm
      cases inverter with
      | none => exact hm
      | some inverter =>
        exact (Poller.ids_registered ((h.sound _ h.rows).handlers id inverter (List.mem_of_getElem? hk)).1).mpr (.inl hm)
    · intro row hm _ hd hx
      obtain ⟨rfl, hsome⟩ := hx
      cases inverter with
      | none => cases hsome
      | some inverter =>
        obtain ⟨hid, hb⟩ := (h.sound _ h.rows).handlers row.id inverter (List.mem_of_getElem? hk)
        refine .inr ((Poller.ids_registered hid).mpr (.inr ⟨rfl, ?_⟩))
        rw [hb, hid, ← h.rows.brand _ (mem_table_of_row hm)]
        exact hd

theorem Inv.deliver (h : Inv lowerCase s) {msg : InverterControlMessage} {wire : List InverterControlMessage} {p' : Poller}
    (hw : s.wire = msg :: wire) (hp : s.poller.step s.table (.deliver (some (parsed msg))) = some p') :
    Inv lowerCase { s with poller := p', wire } := by
  have hc := change_of_step hp
  have hchan : s.poller.handled ++ [msg] ++ wire = chan s := by
    rw [chan, hw, List.append_assoc, List.singleton_append]
  have hnw : s.subscribed = false → wire = [] ∧ hasStarted p' = false := fun hn => by
    rw [(h.early hn).1] at hw
    cases hw
  have hc' := hc
  cases hc with
  | ignored raw _ hv =>
    rw [Option.bind_some, isValid_parsed] at hv
    cases hv
  | registered raw id brand hs hv =>
    rw [Option.bind_some, isValid_parsed, Option.some.injEq] at hv
    subst hv
    refine h.poll wire hc' trivial hchan hnw (fun row _ _ _ _ => .inl ?_) fun row hm ha hd _ => ?_
    · rw [queried, hs]
    · rcases h.active row hm ha hd (by rw [queried, hs]) with hl | hsent | ⟨handler, hh, haw⟩
      · exact .inl ((mem_loadedIds hs).mpr ((mem_loadedIds hs).mp hl))
      · rw [hw, sent_append, sent_cons] at hsent
        rcases hsent with hsent | ⟨-, hid⟩ | hsent
        · exact .inr (.inl (sent_append.mpr (.inl hsent)))
        · exact .inr (.inr ⟨_, List.mem_append_right _ (List.mem_singleton_self _), hid⟩)
        · exact .inr (.inl (sent_append.mpr (.inr hsent)))
      · exact .inr (.inr ⟨handler, List.mem_append_left _ hh, haw⟩)
  | deregistered raw id brand hs hv =>
    rw [Option.bind_some, isValid_parsed, Option.some.injEq] at hv
    subst hv
    let p₁ : Poller := { s.poller with handled := s.poller.handled ++ [⟨.deregistered, id, brand⟩] }
    have hrest := Poller.startUp_deregistered p₁ id
    refine h.poll wire hc' trivial ?_ hnw (fun row _ _ _ _ => .inl ?_) fun row hm ha hd _ => ?_
    · rw [Poller.handled_deregistered]
      exact hchan
    · rw [queried, hs]
    · have hne : row.id ≠ id := fun he => h.not_gone hm ha (sent_append.mpr (.inr (by
        rw [← hchan, sent_append, sent_append, sent_singleton]
        exact .inl (.inr ⟨rfl, he.symm⟩))))
      rcases h.active row hm ha hd (by rw [queried, hs]) with hl | hsent | ⟨handler, hh, haw⟩
      · refine .inl ((mem_loadedIds (by rw [hrest]; exact hs)).mpr ?_)
        exact (Poller.ids_deregistered (p := p₁) (h.sound _ h.rows).tracked).mpr ⟨(mem_loadedIds hs).mp hl, hne⟩
      · rw [hw, sent_append, sent_cons] at hsent
        rcases hsent with hsent | ⟨he, -⟩ | hsent
        · exact .inr (.inl (sent_append.mpr (.inl hsent)))
        · cases he
        · exact .inr (.inl (sent_append.mpr (.inr hsent)))
      · refine .inr (.inr ⟨handler, ?_, haw⟩)
        rw [hrest]
        exact hh

theorem inv_init : Inv lowerCase init where
  service := wf_init
  sound _ _ := sound_init
  obeys _ hl := nomatch hl
  early _ := ⟨rfl, rfl⟩
  gone _ hs := absurd hs not_sent_nil
  inactive _ hm := nomatch hm
  active _ hm := nomatch hm

theorem inv_step {a : Action} (h : Inv lowerCase s) (ho : Covered lowerCase s a) (hs : step lowerCase s a = some s') :
    Inv lowerCase s' := by
  cases a with
  | request a =>
    obtain ⟨service, hsv, rfl⟩ := Option.map_eq_some_iff.mp hs
    exact h.request ho hsv
  | publish k =>
    simp only [step] at hs
    split at hs <;> cases hs
    rename_i msg hk
    have ho := ho msg hk
    split at ho
    · rename_i hsub
      rw [if_pos hsub]
      exact h.publish hk hsub ho
    · rename_i hsub
      rw [if_neg hsub]
      exact h.miss hk ho
  | publishFails k =>
    simp only [step] at hs
    split at hs <;> cases hs
    rename_i hlt
    exact h.miss (List.getElem?_eq_getElem hlt) (ho _ (List.getElem?_eq_getElem hlt))
  | redisSubscribe =>
    simp only [step] at hs
    split at hs
    · split at hs <;> cases hs
      exact ⟨h.service, h.sound, h.obeys, nofun, h.gone, h.inactive, h.active⟩
    · cases hs
  | deliver =>
    simp only [step] at hs
    split at hs
    · cases hs
    · rename_i msg wire hw hst
      obtain ⟨p', hp, rfl⟩ := Option.map_eq_some_iff.mp hs
      exact h.deliver hw hp
    · rename_i msg wire hw hst
      cases hs
      have hn : hasStarted s.poller = false := by
        unfold hasStarted
        split
        · rename_i he
          exact absurd he hst
        · rfl
      refine h.missWire hw hn ((ho.resolve_left ?_) msg ?_)
      · rw [hn]
        exact nofun
      · rw [hw]
        rfl
  | poller a => exact h.poller ho hs

/-- If the start-up queries find no inverter that is inactive for good, no
message is lost, misspelt or overtaken and no look-up of an active inverter
fails, the poller tracks the active inverters whenever everything has been
delivered. -/
theorem tracks_active (h : (machine lowerCase).Reach (Covered lowerCase) s) (hs : Settled s) : TracksActive s := by
  have hi : Inv lowerCase s := h.inv inv_init fun _ _ _ hi ho hs => inv_step hi ho hs
  have hf : s.poller.startUp = .finished := by
    have hst := hs.started
    unfold hasStarted at hst
    split at hst
    · assumption
    · cases hst
  have hq : ∀ brand, queried s.poller brand = true := fun brand => by rw [queried, hf]
  intro id
  constructor
  · intro hm
    obtain ⟨row, hr, rfl, hb⟩ := hi.tracked_row hm
    refine ⟨row, hr, rfl, ?_, hb⟩
    by_contra hna
    rcases hi.inactive row hr (Bool.not_eq_true _ ▸ hna) hb (hq _) with hann | hlast
    · rw [Announced, hs.coming] at hann
      exact absurd hann not_sent_nil
    · rw [chan, hs.wire, List.append_nil] at hlast
      exact hi.obeys row.id hlast hm
  · intro hx
    obtain ⟨row, hr, rfl, ha, hb⟩ := hx
    rcases hi.active row hr ha hb (hq _) with hl | hsent | ⟨handler, hm, haw⟩
    · exact (mem_loadedIds hf).mp hl
    · rw [hs.coming, hs.wire] at hsent
      exact absurd hsent not_sent_nil
    · rcases hs.handlers handler hm with rfl | rfl <;> cases haw

end

/-! ## Runs -/

/-- A sandbox user connects inverter 7; the publisher is done with it. -/
def connect7 : List Action :=
  [.request (.connectInverter .sandbox 1), .request (.verified 0 ⟨"9001", 10⟩), .request (.statement 0 0),
    .request (.statement 0 7), .request (.answered 0), .publish 0]

def deactivate7 : List Action :=
  [.request (.deactivateInverter 7 1), .request (.statement 1 0), .request (.statement 1 0), .request (.answered 1), .publish 0]

def startUp : List Action :=
  [.poller (.findSpecificBrand .victron), .poller (.findSpecificBrand .growatt),
    .poller (.findSpecificBrand .sunsynk), .poller (.findSpecificBrand .sandbox), .poller .load, .redisSubscribe,
    .poller .subscribe]

/-- Whether nothing is on its way or pending, the tracked ids and the table. -/
def outcome (s : State) : Bool × List Uuid × List (Uuid × Bool × InverterBrand) :=
  (hasStarted s.poller && s.service.coming.isEmpty && s.wire.isEmpty && s.poller.handlers.isEmpty,
    s.poller.tracked.ids, s.service.inverters.map fun row => (row.id, row.isActive, row.brand))

theorem settled_of_outcome {s : State} {rest : List Uuid × List (Uuid × Bool × InverterBrand)}
    (h : outcome s = (true, rest)) : Settled s := by
  have h := congrArg Prod.fst h
  simp only [outcome, Bool.and_eq_true, List.isEmpty_iff] at h
  obtain ⟨⟨⟨hs, ho⟩, hw⟩, hh⟩ := h
  refine ⟨hs, ho, hw, fun handler hm => ?_⟩
  rw [hh] at hm
  cases hm

/-- The start-up query does not ask for `isActive`. -/
theorem inactive_polled : ¬ ∀ s, (machine lower).Reach Free s → Settled s → TracksActive s := by
  intro h
  have h0 : ((machine lower).run init (connect7 ++ deactivate7 ++ startUp)).map outcome =
      some (true, [7], [(7, false, .sandbox)]) := by decide
  obtain ⟨s, hs, h0⟩ := Option.map_eq_some_iff.mp h0
  have ht := h s (Machine.path_of_run hs) (settled_of_outcome h0) 7
  simp only [outcome, Prod.mk.injEq] at h0
  obtain ⟨-, hids, htab⟩ := h0
  obtain ⟨row, hm, hid, ha, -⟩ := ht.mp (by rw [hids]; exact List.mem_singleton_self 7)
  have hr := List.mem_map_of_mem (f := fun row : InverterRow => (row.id, row.isActive, row.brand)) hm
  rw [htab, List.mem_singleton, ha] at hr
  cases congrArg (·.2.1) hr

/-- Deactivated after the start, with the message delivered. -/
theorem tracks_active_deactivated : ∃ s,
    ((machine lower).only (Covered lower)).run init (connect7 ++ startUp ++ deactivate7 ++ [.deliver]) = some s ∧
      s.poller.tracked.ids = [] ∧ TracksActive s := by
  have h0 : (((machine lower).only (Covered lower)).run init (connect7 ++ startUp ++ deactivate7 ++ [.deliver])).map
      outcome = some (true, [], [(7, false, .sandbox)]) := by decide
  obtain ⟨s, hs, h0⟩ := Option.map_eq_some_iff.mp h0
  refine ⟨s, hs, ?_, tracks_active (Machine.path_of_run_only hs) (settled_of_outcome h0)⟩
  simp only [outcome, Prod.mk.injEq] at h0
  exact h0.2.1

end IntellApi.PolledInverters
