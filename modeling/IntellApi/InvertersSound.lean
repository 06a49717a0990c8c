import IntellApi.Calls
import IntellApi.Inverters
import Mathlib.Data.List.Nodup

/-!
# Writes and their messages

A write is announced from the moment it is done: its message comes with the
answer (`coming`). It is lost for good when the call fails after the write.
-/

namespace IntellApi.Inverters

open MetricsPoller

/-! ## Messages -/

def Sent (event : InverterControlEvent) (id : Uuid) (msgs : List InverterControlMessage) : Prop :=
  ∃ msg ∈ msgs, msg.event = event ∧ msg.inverterId = id

instance (event : InverterControlEvent) (id : Uuid) (msgs : List InverterControlMessage) :
    Decidable (Sent event id msgs) := by
  unfold Sent
  infer_instance

section
variable {event : InverterControlEvent} {id : Uuid} {msgs msgs' : List InverterControlMessage} {msg : InverterControlMessage}

theorem not_sent_nil : ¬ Sent event id [] := by
  intro hx
  obtain ⟨_, hm, -⟩ := hx
  cases hm

theorem sent_cons : Sent event id (msg :: msgs) ↔ msg.event = event ∧ msg.inverterId = id ∨ Sent event id msgs := by
  simp only [Sent, List.mem_cons, exists_eq_or_imp]

theorem sent_append : Sent event id (msgs ++ msgs') ↔ Sent event id msgs ∨ Sent event id msgs' := by
  simp only [Sent, List.mem_append, or_and_right, exists_or]

theorem sent_singleton : Sent event id [msg] ↔ msg.event = event ∧ msg.inverterId = id :=
  sent_cons.trans (or_iff_left not_sent_nil)

theorem sent_eraseIdx {k : Nat} (hk : msgs[k]? = some msg) :
    Sent event id msgs ↔ Sent event id (msgs.eraseIdx k) ∨ msg.event = event ∧ msg.inverterId = id := by
  constructor
  · intro hx
    obtain ⟨m, hm, he⟩ := hx
    obtain ⟨i, hi⟩ := List.mem_iff_getElem?.mp hm
    by_cases hik : i = k
    · rw [hik, hk, Option.some.injEq] at hi
      exact .inr (hi ▸ he)
    · exact .inl ⟨m, List.mem_eraseIdx_iff_getElem?.mpr ⟨i, hik, hi⟩, he⟩
  · intro hx
    rcases hx with ⟨m, hm, he⟩ | he
    · exact ⟨m, List.mem_of_mem_eraseIdx hm, he⟩
    · exact ⟨msg, List.mem_of_getElem? hk, he⟩

end

/-- The message that the answer of a write brings. -/
def Request.announces : Request → Option InverterControlMessage
  | .created inverter => some (controlMessage .registered inverter.id inverter.brand)
  | .updated inverterId inverter => some (controlMessage .deregistered inverterId inverter.brand)
  | .verifying _ _ | .findingSerial _ _ _ | .found _ _ | .creating _ _ _ | .connected _ _ | .gettingInverter _ _
  | .deactivating _ _ | .deactivated _ | .failed _ => none

namespace Service

/-- What requests announce when their writes are answered. -/
def announced (s : Service) : List InverterControlMessage := s.requests.filterMap Request.announces

def coming (s : Service) : List InverterControlMessage := s.outgoing ++ s.announced

section
variable {s : Service} {r : Nat} {old new request : Request} {msg : InverterControlMessage}

theorem mem_announced_goOn (hr : s.requests[r]? = some old) (new : Request) :
    msg ∈ (s.goOn r new).announced ∨ msg ∈ old.announces ↔ msg ∈ s.announced ∨ msg ∈ new.announces :=
  Calls.mem_filterMap_set Request.announces hr

theorem mem_coming : msg ∈ s.coming ↔ msg ∈ s.outgoing ∨ msg ∈ s.announced := List.mem_append

/-- Going on from a state that announces nothing. -/
theorem mem_coming_goOn (hr : s.requests[r]? = some old) (ho : old.announces = none) :
    msg ∈ (s.goOn r new).coming ↔ msg ∈ s.coming ∨ msg ∈ new.announces := by
  have h : msg ∈ (s.goOn r new).announced ∨ msg ∈ old.announces ↔ msg ∈ s.announced ∨ msg ∈ new.announces :=
    mem_announced_goOn hr new
  rw [ho, or_iff_left (Option.not_mem_none msg)] at h
  rw [mem_coming, mem_coming, h, or_assoc]
  rfl

theorem mem_coming_quiet (hr : s.requests[r]? = some old) (ho : old.announces = none) (hn : new.announces = none) :
    msg ∈ (s.goOn r new).coming ↔ msg ∈ s.coming := by
  rw [mem_coming_goOn hr ho, hn, or_iff_left (Option.not_mem_none msg)]

/-- A call that fails takes its message with it. -/
theorem mem_coming_fail (hr : s.requests[r]? = some old) (hn : new.announces = none) :
    msg ∈ s.coming ↔ msg ∈ (s.goOn r new).coming ∨ msg ∈ old.announces := by
  have h : msg ∈ (s.goOn r new).announced ∨ msg ∈ old.announces ↔ msg ∈ s.announced ∨ msg ∈ new.announces :=
    mem_announced_goOn hr new
  rw [hn, or_iff_left (Option.not_mem_none msg)] at h
  rw [mem_coming, mem_coming, or_assoc, h]
  rfl

/-- The answer hands the message to the publisher. -/
theorem mem_coming_answered {m : InverterControlMessage} (hr : s.requests[r]? = some old) (ho : old.announces = some m)
    (hn : new.announces = none) : msg ∈ ((s.publish m).goOn r new).coming ↔ msg ∈ s.coming := by
  have h : msg ∈ s.coming ↔ msg ∈ (s.goOn r new).coming ∨ msg ∈ old.announces := mem_coming_fail hr hn
  rw [h, mem_coming, mem_coming, ho]
  have hp : msg ∈ ((s.publish m).goOn r new).outgoing ↔ msg ∈ (s.goOn r new).outgoing ∨ msg ∈ some m := by
    rw [Option.mem_some_iff, eq_comm, ← List.mem_singleton]
    exact List.mem_append
  rw [hp, or_right_comm]
  rfl

theorem coming_ask (ho : request.announces = none) : (s.ask request).coming = s.coming := by
  have h : (s.ask request).announced = s.announced := by
    unfold announced ask
    rw [List.filterMap_append, List.filterMap_cons_none ho, List.filterMap_nil, List.append_nil]
  exact congrArg (s.outgoing ++ ·) h

end

end Service

section
variable {m : InverterControlMessage} {event : InverterControlEvent} {id : Uuid} {msgs msgs' : List InverterControlMessage}

theorem sent_congr (h : ∀ msg, msg ∈ msgs' ↔ msg ∈ msgs) : Sent event id msgs' ↔ Sent event id msgs :=
  exists_congr fun msg => and_congr_left fun _ => h msg

theorem sent_more (h : ∀ msg, msg ∈ msgs' ↔ msg ∈ msgs ∨ msg ∈ some m) :
    Sent event id msgs' ↔ Sent event id msgs ∨ m.event = event ∧ m.inverterId = id := by
  rw [← sent_singleton, ← sent_append]
  refine sent_congr fun msg => ?_
  rw [h msg, List.mem_append, List.mem_singleton, Option.mem_some_iff, eq_comm]

end

/-! ## What a request does -/

theorem mem_deactivateById {id : Uuid} {inverters : List InverterRow} {row : InverterRow} :
    row ∈ deactivateById id inverters ↔
      ∃ old ∈ inverters, (if old.id = id then { old with isActive := false } else old) = row := List.mem_map

theorem row_deactivateById {id : Uuid} {inverters : List InverterRow} {row : InverterRow}
    (h : row ∈ deactivateById id inverters) :
    (row.id = id ∧ row.isActive = false ∨ row.id ≠ id ∧ row ∈ inverters) ∧
      ∃ old ∈ inverters, old.id = row.id ∧ old.brand = row.brand := by
  obtain ⟨old, hm, rfl⟩ := mem_deactivateById.mp h
  by_cases he : old.id = id
  · rw [if_pos he]
    exact ⟨.inl ⟨he, rfl⟩, old, hm, rfl, rfl⟩
  · rw [if_neg he]
    exact ⟨.inr ⟨he, hm⟩, old, hm, rfl, rfl⟩

theorem ids_deactivateById (id : Uuid) (inverters : List InverterRow) :
    (deactivateById id inverters).map (·.id) = inverters.map (·.id) := by
  unfold deactivateById
  rw [List.map_map]
  refine List.map_congr_left fun row _ => ?_
  simp only [Function.comp_apply]
  split <;> rfl

theorem checkDeactivatable_ok {inverter : Option InverterRow} {userId : Uuid} {row : InverterRow}
    (h : checkDeactivatable inverter userId = .ok row) : inverter = some row := by
  cases inverter with
  | none => cases h
  | some inverter =>
    simp only [checkDeactivatable] at h
    by_cases hu : inverter.userId ≠ userId
    · rw [if_pos hu] at h
      cases h
    · rw [if_neg hu] at h
      by_cases ha : (!inverter.isActive) = true
      · rw [if_pos ha] at h
        cases h
      · rw [if_neg ha] at h
        cases h
        rfl

section
variable (lowerCase : Uuid → Uuid)

inductive RequestChange (s : Service) : Action → Service → Prop
  | connect (brand : InverterBrand) (userId : Uuid) :
    RequestChange s (.connectInverter brand userId) (s.ask (.verifying brand userId))
  | unsupported (brand : InverterBrand) (userId : Uuid) (e : ServiceError) :
    RequestChange s (.connectInverter brand userId) (s.ask (.failed e))
  | deactivate (inverterId userId : Uuid) :
    RequestChange s (.deactivateInverter inverterId userId) (s.ask (.gettingInverter inverterId userId))
  | verified (r : Nat) (brand : InverterBrand) (systemData : VerifiedSystem) (userId : Uuid) :
    s.requests[r]? = some (.verifying brand userId) →
    RequestChange s (.verified r systemData) (s.goOn r (.findingSerial brand systemData userId))
  | free (r : Nat) (newId : Uuid) (brand : InverterBrand) (systemData : VerifiedSystem) (userId : Uuid) :
    s.requests[r]? = some (.findingSerial brand systemData userId) →
    s.inverters.find? (·.serialNumber = serialFor brand systemData userId) = none →
    RequestChange s (.statement r newId) (s.goOn r (.creating brand systemData userId))
  | found (r : Nat) (newId : Uuid) (brand : InverterBrand) (systemData : VerifiedSystem) (userId : Uuid)
    (existing : InverterRow) : s.requests[r]? = some (.findingSerial brand systemData userId) →
    s.inverters.find? (·.serialNumber = serialFor brand systemData userId) = some existing →
    RequestChange s (.statement r newId) (s.goOn r (.found brand existing))
  | duplicate (r : Nat) (newId : Uuid) (brand : InverterBrand) (systemData : VerifiedSystem) (userId : Uuid)
    (e : ServiceError) : s.requests[r]? = some (.creating brand systemData userId) →
    RequestChange s (.statement r newId) (s.goOn r (.failed e))
  | created (r : Nat) (newId : Uuid) (brand : InverterBrand) (systemData : VerifiedSystem) (userId : Uuid) :
    s.requests[r]? = some (.creating brand systemData userId) → newId ∉ s.inverters.map (·.id) → lowerCase newId = newId →
    RequestChange s (.statement r newId)
      ({ s with inverters := s.inverters ++ [newInverter newId brand systemData userId] }.goOn r
        (.created (newInverter newId brand systemData userId)))
  | refused (r : Nat) (newId inverterId userId : Uuid) (e : ServiceError) :
    s.requests[r]? = some (.gettingInverter inverterId userId) → RequestChange s (.statement r newId) (s.goOn r (.failed e))
  | deactivatable (r : Nat) (newId inverterId userId : Uuid) (inverter : InverterRow) :
    s.requests[r]? = some (.gettingInverter inverterId userId) →
    checkDeactivatable (s.inverters.find? (·.id = lowerCase inverterId)) userId = .ok inverter →
    RequestChange s (.statement r newId) (s.goOn r (.deactivating inverterId inverter))
  | updated (r : Nat) (newId inverterId : Uuid) (inverter : InverterRow) :
    s.requests[r]? = some (.deactivating inverterId inverter) →
    RequestChange s (.statement r newId) ({ s with inverters := deactivateById (lowerCase inverterId) s.inverters }.goOn r
      (.updated inverterId inverter))
  | conflict (r : Nat) (brand : InverterBrand) (existing : InverterRow) (e : ServiceError) :
    s.requests[r]? = some (.found brand existing) → brand ≠ .sandbox → RequestChange s (.answered r) (s.goOn r (.failed e))
  | returned (r : Nat) (existing : InverterRow) : s.requests[r]? = some (.found .sandbox existing) →
    RequestChange s (.answered r) (s.goOn r (.connected existing false))
  | registered (r : Nat) (inverter : InverterRow) : s.requests[r]? = some (.created inverter) →
    RequestChange s (.answered r)
      ((s.publish (controlMessage .registered inverter.id inverter.brand)).goOn r (.connected inverter true))
  | deregistered (r : Nat) (inverterId : Uuid) (inverter : InverterRow) :
    s.requests[r]? = some (.updated inverterId inverter) →
    RequestChange s (.answered r) ((s.publish (controlMessage .deregistered inverterId inverter.brand)).goOn r
      (.deactivated { inverter with isActive := false }))
  | fail (r : Nat) (message : String) (request : Request) : s.requests[r]? = some request →
    RequestChange s (.fail r message) (s.goOn r (.failed (.error message)))

variable {lowerCase} {s s' : Service} {a : Action}

theorem change_of_requestStep {r : Nat} {newId : Uuid} {request : Request} (hr : s.requests[r]? = some request)
    (h : s.requestStep lowerCase r newId request = some s') : RequestChange lowerCase s (.statement r newId) s' := by
  cases request with
  | findingSerial brand systemData userId =>
    simp only [Service.requestStep] at h
    split at h <;> cases h
    · exact .free r newId brand systemData userId hr ‹_›
    · exact .found r newId brand systemData userId _ hr ‹_›
  | creating brand systemData userId =>
    simp only [Service.requestStep] at h
    split at h
    · cases h
    · rename_i hid
      split at h <;> cases h
      · exact .duplicate r newId brand systemData userId _ hr
      · rw [not_or, not_not, Bool.not_eq_true, List.any_eq_false] at hid
        refine .created r newId brand systemData userId hr (fun hm => ?_) hid.2
        obtain ⟨row, hm, he⟩ := List.mem_map.mp hm
        exact hid.1 row hm (decide_eq_true he)
  | gettingInverter inverterId userId =>
    simp only [Service.requestStep] at h
    split at h <;> cases h
    · exact .deactivatable r newId inverterId userId _ hr ‹_›
    · exact .refused r newId inverterId userId _ hr
  | deactivating inverterId inverter =>
    cases h
    exact .updated r newId inverterId inverter hr
  | verifying | found | created | connected | updated | deactivated | failed => cases h

theorem change_of_answerStep {r : Nat} {request : Request} (hr : s.requests[r]? = some request)
    (h : s.answerStep r request = some s') : RequestChange lowerCase s (.answered r) s' := by
  cases request with
  | found brand existing =>
    cases h
    split
    · rename_i hb
      subst hb
      exact .returned r existing hr
    · exact .conflict r brand existing _ hr ‹_›
  | created inverter =>
    cases h
    exact .registered r inverter hr
  | updated inverterId inverter =>
    cases h
    exact .deregistered r inverterId inverter hr
  | verifying | findingSerial | creating | connected | gettingInverter | deactivating | deactivated | failed => cases h

theorem change_of_step (h : s.step lowerCase a = some s') : RequestChange lowerCase s a s' := by
  cases a with
  | connectInverter brand userId =>
    cases h
    split
    · exact .unsupported brand userId _
    · exact .connect brand userId
  | deactivateInverter inverterId userId =>
    cases h
    exact .deactivate inverterId userId
  | verified r systemData =>
    simp only [Service.step] at h
    split at h <;> cases h
    exact .verified r _ systemData _ ‹_›
  | statement r newId =>
    obtain ⟨request, hr, h⟩ := Option.bind_eq_some_iff.mp h
    exact change_of_requestStep hr h
  | answered r =>
    obtain ⟨request, hr, h⟩ := Option.bind_eq_some_iff.mp h
    exact change_of_answerStep hr h
  | fail r message =>
    simp only [Service.step] at h
    split at h <;> cases h
    exact .fail r message _ ‹_›

end

/-! ## Rows and messages -/

section
variable (lowerCase : Uuid → Uuid)

structure Wf (s : Service) : Prop where
  nodup : (s.inverters.map (·.id)).Nodup
  lower : ∀ id ∈ s.inverters.map (·.id), lowerCase id = id
  deactivating : ∀ inverterId inverter, .deactivating inverterId inverter ∈ s.requests →
    lowerCase inverterId ∈ s.inverters.map (·.id)

inductive ServiceChange (s : Service) (a : Action) (s' : Service) : Prop
  | quiet : s'.inverters = s.inverters → (∀ msg, msg ∈ s'.coming ↔ msg ∈ s.coming) → ServiceChange s a s'
  | created (inverter : InverterRow) : inverter.id ∉ s.inverters.map (·.id) → inverter.isActive = true →
    s'.inverters = s.inverters ++ [inverter] →
    (∀ msg, msg ∈ s'.coming ↔
      msg ∈ s.coming ∨ msg ∈ some (controlMessage .registered inverter.id inverter.brand)) → ServiceChange s a s'
  | updated (r : Nat) (newId inverterId : Uuid) (inverter : InverterRow) : a = .statement r newId →
    s.requests[r]? = some (.deactivating inverterId inverter) → lowerCase inverterId ∈ s.inverters.map (·.id) →
    s'.inverters = deactivateById (lowerCase inverterId) s.inverters →
    (∀ msg, msg ∈ s'.coming ↔ msg ∈ s.coming ∨ msg ∈ some (controlMessage .deregistered inverterId inverter.brand)) →
    ServiceChange s a s'
  | lost (r : Nat) (message : String) (request : Request) (m : InverterControlMessage) : a = .fail r message →
    s.requests[r]? = some request → request.announces = some m → s'.inverters = s.inverters →
    (∀ msg, msg ∈ s.coming ↔ msg ∈ s'.coming ∨ msg ∈ some m) → ServiceChange s a s'

variable {lowerCase} {s s' : Service} {a : Action} {r : Nat} {old request : Request}

theorem wf_init : Wf lowerCase .init where
  nodup := List.nodup_nil
  lower _ hm := by cases hm
  deactivating _ _ hm := by cases hm

theorem Wf.goOn (h : Wf lowerCase s) (r : Nat)
    (hr : ∀ inverterId inverter, request = .deactivating inverterId inverter →
      lowerCase inverterId ∈ s.inverters.map (·.id)) : Wf lowerCase (s.goOn r request) where
  nodup := h.nodup
  lower := h.lower
  deactivating inverterId inverter hm :=
    (List.mem_or_eq_of_mem_set hm).elim (h.deactivating inverterId inverter) fun he => hr inverterId inverter he.symm

theorem Wf.ask (h : Wf lowerCase s) (hr : ∀ inverterId inverter, request ≠ .deactivating inverterId inverter) :
    Wf lowerCase (s.ask request) where
  nodup := h.nodup
  lower := h.lower
  deactivating inverterId inverter hm := by
    rcases List.mem_append.mp hm with hm | hm
    · exact h.deactivating inverterId inverter hm
    · exact absurd (List.mem_singleton.mp hm).symm (hr inverterId inverter)

theorem Wf.create (h : Wf lowerCase s) {inverter : InverterRow} (hid : inverter.id ∉ s.inverters.map (·.id))
    (hl : lowerCase inverter.id = inverter.id) : Wf lowerCase { s with inverters := s.inverters ++ [inverter] } where
  nodup := by
    rw [List.map_append, List.nodup_append]
    refine ⟨h.nodup, List.nodup_singleton _, fun id hm id' hm' he => hid ?_⟩
    rw [List.map_singleton, List.mem_singleton] at hm'
    rw [← hm', ← he]
    exact hm
  lower id hm := by
    rw [List.map_append, List.mem_append, List.map_singleton, List.mem_singleton] at hm
    rcases hm with hm | rfl
    · exact h.lower id hm
    · exact hl
  deactivating inverterId inv hm := by
    rw [List.map_append]
    exact List.mem_append_left _ (h.deactivating inverterId inv hm)

theorem Wf.deactivate (h : Wf lowerCase s) (id : Uuid) :
    Wf lowerCase { s with inverters := deactivateById id s.inverters } where
  nodup := (ids_deactivateById id s.inverters).symm ▸ h.nodup
  lower := (ids_deactivateById id s.inverters).symm ▸ h.lower
  deactivating := (ids_deactivateById id s.inverters).symm ▸ h.deactivating

theorem wf_step (h : Wf lowerCase s) (hs : s.step lowerCase a = some s') : Wf lowerCase s' := by
  cases change_of_step hs with
  | connect | unsupported | deactivate => exact h.ask fun _ _ he => by cases he
  | created r newId brand systemData userId _ hid hl =>
    have hw : Wf lowerCase { s with inverters := s.inverters ++ [newInverter newId brand systemData userId] } :=
      h.create hid hl
    exact hw.goOn r fun _ _ he => by cases he
  | deactivatable r newId inverterId userId inverter _ hc =>
    refine h.goOn r fun id inv he => ?_
    cases he
    have hf := checkDeactivatable_ok hc
    have hid := List.find?_some hf
    rw [decide_eq_true_eq] at hid
    exact hid ▸ List.mem_map_of_mem (List.mem_of_find?_eq_some hf)
  | updated r _ inverterId => exact (h.deactivate (lowerCase inverterId)).goOn r fun _ _ he => by cases he
  | registered r inverter | deregistered r _ inverter =>
    exact Wf.goOn (s := s.publish _) ⟨h.nodup, h.lower, h.deactivating⟩ r fun _ _ he => by cases he
  | verified | free | found | duplicate | refused | conflict | returned | fail => exact h.goOn _ fun _ _ he => by cases he

theorem service_step (h : Wf lowerCase s) (hs : s.step lowerCase a = some s') : ServiceChange lowerCase s a s' := by
  cases change_of_step hs with
  | connect | unsupported | deactivate => exact .quiet rfl fun msg => by rw [Service.coming_ask rfl]
  | verified r _ _ _ hr | free r _ _ _ _ hr | found r _ _ _ _ _ hr | duplicate r _ _ _ _ _ hr | refused r _ _ _ _ hr
  | deactivatable r _ _ _ _ hr | conflict r _ _ _ hr | returned r _ hr =>
    exact .quiet rfl fun msg => Service.mem_coming_quiet hr rfl rfl
  | created r newId brand systemData userId hr hid =>
    exact .created (newInverter newId brand systemData userId) hid rfl rfl fun msg => Service.mem_coming_goOn hr rfl
  | updated r newId inverterId inverter hr =>
    have hm := h.deactivating inverterId inverter (List.mem_of_getElem? hr)
    exact .updated r newId inverterId inverter rfl hr hm rfl fun msg => Service.mem_coming_goOn hr rfl
  | registered r inverter hr | deregistered r _ inverter hr =>
    exact .quiet rfl fun msg => Service.mem_coming_answered hr rfl rfl
  | fail r message request hr =>
    cases ha : request.announces with
    | none => exact .quiet rfl fun msg => Service.mem_coming_quiet hr ha rfl
    | some m => exact .lost r message request m rfl hr ha rfl fun msg => ha ▸ Service.mem_coming_fail hr rfl

end

/-- Ids below 100 are in lower case, and 107 is 7 in upper case. -/
def lower (id : Uuid) : Uuid := id % 100

end IntellApi.Inverters
