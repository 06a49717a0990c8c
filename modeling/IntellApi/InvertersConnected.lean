import IntellApi.InvertersSound
import IntellApi.MetricsPollerSound

/-!
# What a connected inverter is

An active row is never deregistered, and its `registered` event comes with the
answer of the call that created it. A sandbox row that is there already is
returned as it is: nothing makes an inactive one active again, and nothing
announces one whose creating call failed after the insert.
-/

namespace IntellApi.Inverters

open MetricsPoller Lts

section
variable (lowerCase : Uuid → Uuid)

def machine : Machine Service Action := ⟨.init, Service.step lowerCase⟩

/-! ## Live inverters -/

def Active (s : Service) (id : Uuid) : Prop := ∃ row ∈ s.inverters, row.id = id ∧ row.isActive = true

instance (s : Service) (id : Uuid) : Decidable (Active s id) := inferInstanceAs (Decidable (∃ row ∈ s.inverters, _))

def inLowerCase (msg : InverterControlMessage) : InverterControlMessage := { msg with inverterId := lowerCase msg.inverterId }

/-- Active, and announced as such by the last event for it in whatever spelling. -/
structure Live (s : Service) (id : Uuid) : Prop where
  active : Active s id
  last : lastEvent (s.outgoing.map (inLowerCase lowerCase)) id = some .registered

/-! ## Rows that are going to be returned -/

/-- The row that a call is about to return. -/
def Request.returns : Request → Option InverterRow
  | .found brand existing => if brand = .sandbox then some existing else none
  | .created inverter => some inverter
  | .verifying _ _ | .findingSerial _ _ _ | .creating _ _ _ | .connected _ _ | .gettingInverter _ _ | .deactivating _ _
  | .updated _ _ | .deactivated _ | .failed _ => none

/-- A row that is found is active and announced, and no row is deactivated
while a connect call is about to return it. -/
def Undisturbed (s : Service) : Action → Prop
  | .statement r _ =>
    match s.requests[r]? with
    | some (.findingSerial .sandbox systemData userId) =>
      ∀ row ∈ s.inverters.find? (·.serialNumber = serialFor .sandbox systemData userId),
        row.isActive = true ∧ Sent .registered row.id s.outgoing
    | some (.deactivating inverterId _) => ∀ row ∈ s.requests.filterMap Request.returns, row.id ≠ lowerCase inverterId
    | _ => True
  | _ => True

instance (s : Service) (a : Action) : Decidable (Undisturbed lowerCase s a) := by
  unfold Undisturbed
  split
  · split <;> infer_instance
  · infer_instance

structure Kept (s : Service) : Prop where
  wf : Wf lowerCase s
  gone : ∀ msg ∈ s.coming, msg.event = .deregistered →
    ∃ row ∈ s.inverters, row.id = lowerCase msg.inverterId ∧ row.isActive = false
  returns : ∀ request ∈ s.requests, ∀ inverter ∈ request.returns, Active s inverter.id
  found : ∀ existing, .found .sandbox existing ∈ s.requests → Sent .registered existing.id s.outgoing

variable {lowerCase} {s s' : Service} {a : Action}

/-! ## Steps -/

theorem Active.step {id : Uuid} (h : Active s id) (hc : ServiceChange lowerCase s a s')
    (hn : ∀ r newId inverterId inverter, a = .statement r newId →
      s.requests[r]? = some (.deactivating inverterId inverter) → id ≠ lowerCase inverterId) : Active s' id := by
  obtain ⟨row, hm, rfl, ha⟩ := h
  cases hc with
  | quiet hi | lost _ _ _ _ _ _ _ hi => exact ⟨row, hi ▸ hm, rfl, ha⟩
  | created inverter _ _ hi => exact ⟨row, hi ▸ List.mem_append_left _ hm, rfl, ha⟩
  | updated r newId inverterId inverter hs hr _ hi =>
    exact ⟨row, hi ▸ mem_deactivateById.mpr ⟨row, hm, if_neg (hn r newId inverterId inverter hs hr)⟩, rfl, ha⟩

theorem gone_step (h : Kept lowerCase s) (hc : ServiceChange lowerCase s a s') {msg : InverterControlMessage}
    (hm : msg ∈ s'.coming) (he : msg.event = .deregistered) :
    ∃ row ∈ s'.inverters, row.id = lowerCase msg.inverterId ∧ row.isActive = false := by
  cases hc with
  | quiet hi hc => exact hi ▸ h.gone msg ((hc msg).mp hm) he
  | lost _ _ _ _ _ _ _ hi hc => exact hi ▸ h.gone msg ((hc msg).mpr (.inl hm)) he
  | created inverter _ _ hi hc =>
    rcases (hc msg).mp hm with hm | hm
    · obtain ⟨row, hrow, hr⟩ := h.gone msg hm he
      exact ⟨row, hi ▸ List.mem_append_left _ hrow, hr⟩
    · cases hm
      cases he
  | updated r newId inverterId inverter _ _ hid hi hc =>
    rw [hi]
    rcases (hc msg).mp hm with hm | hm
    · obtain ⟨row, hrow, hr, hf⟩ := h.gone msg hm he
      refine ⟨_, mem_deactivateById.mpr ⟨row, hrow, rfl⟩, ?_⟩
      split
      · exact ⟨hr, rfl⟩
      · exact ⟨hr, hf⟩
    · cases hm
      obtain ⟨row, hrow, hr⟩ := List.mem_map.mp hid
      refine ⟨_, mem_deactivateById.mpr ⟨row, hrow, rfl⟩, ?_⟩
      rw [if_pos hr]
      exact ⟨hr, rfl⟩

/-- A row that is going to be returned after a step was so before, or has been found or created in it. -/
theorem returns_cases (hc : RequestChange lowerCase s a s') {request : Request} {inverter : InverterRow}
    (hm : request ∈ s'.requests) (hi : inverter ∈ request.returns) :
    request ∈ s.requests ∨
      (∃ r newId systemData userId, a = .statement r newId ∧
        s.requests[r]? = some (.findingSerial .sandbox systemData userId) ∧
        s.inverters.find? (·.serialNumber = serialFor .sandbox systemData userId) = some inverter ∧
        s'.inverters = s.inverters) ∨
      request = .created inverter ∧ Active s' inverter.id := by
  cases hc with
  | connect | unsupported | deactivate =>
    rcases List.mem_append.mp hm with hm | hm
    · exact .inl hm
    · cases List.mem_singleton.mp hm
      cases hi
  | verified | free | duplicate | refused | deactivatable | updated | conflict | returned | registered | deregistered
  | fail =>
    rcases List.mem_or_eq_of_mem_set hm with hm | rfl
    · exact .inl hm
    · cases hi
  | found r newId brand systemData userId existing hr hf =>
    rcases List.mem_or_eq_of_mem_set hm with hm | rfl
    · exact .inl hm
    · have hi : inverter ∈ if brand = .sandbox then some existing else none := hi
      split at hi
      · rename_i hb
        subst hb
        cases hi
        exact .inr (.inl ⟨r, newId, systemData, userId, rfl, hr, hf, rfl⟩)
      · cases hi
  | created =>
    rcases List.mem_or_eq_of_mem_set hm with hm | rfl
    · exact .inl hm
    · cases hi
      exact .inr (.inr ⟨rfl, _, List.mem_append_right _ (List.mem_singleton_self _), rfl, rfl⟩)

theorem outgoing_step (hc : RequestChange lowerCase s a s') {msg : InverterControlMessage} (hm : msg ∈ s.outgoing) :
    msg ∈ s'.outgoing := by
  cases hc with
  | registered | deregistered => exact List.mem_append_left _ hm
  | connect | unsupported | deactivate | verified | free | found | duplicate | created | refused | deactivatable | updated
  | conflict | returned | fail => exact hm

theorem kept_init : Kept lowerCase .init where
  wf := wf_init
  gone _ hm := by cases hm
  returns _ hm := by cases hm
  found _ hm := by cases hm

theorem kept_step (h : Kept lowerCase s) (ho : Undisturbed lowerCase s a) (hs : s.step lowerCase a = some s') :
    Kept lowerCase s' := by
  have hr := change_of_step hs
  have hc := service_step h.wf hs
  have found : ∀ {r newId systemData userId inverter}, a = .statement r newId →
      s.requests[r]? = some (.findingSerial .sandbox systemData userId) →
      s.inverters.find? (·.serialNumber = serialFor .sandbox systemData userId) = some inverter →
      inverter.isActive = true ∧ Sent .registered inverter.id s.outgoing := by
    intro r newId systemData userId inverter ha hreq hf
    subst ha
    simp only [Undisturbed, hreq] at ho
    exact ho inverter hf
  refine ⟨wf_step h.wf hs, fun msg hm he => gone_step h hc hm he, fun request hm inverter hi => ?_, fun existing hm => ?_⟩
  · rcases returns_cases hr hm hi with hm | ⟨r, newId, systemData, userId, ha, hreq, hf, hsame⟩ | ⟨-, hact⟩
    · refine (h.returns request hm inverter hi).step hc fun r newId inverterId row ha hreq => ?_
      subst ha
      simp only [Undisturbed, hreq] at ho
      exact ho inverter (List.mem_filterMap.mpr ⟨request, hm, hi⟩)
    · exact ⟨inverter, hsame ▸ List.mem_of_find?_eq_some hf, rfl, (found ha hreq hf).1⟩
    · exact hact
  · have hsent : Sent .registered existing.id s.outgoing := by
      have hi : existing ∈ (Request.found .sandbox existing).returns := rfl
      rcases returns_cases hr hm hi with hm | ⟨r, newId, systemData, userId, ha, hreq, hf, -⟩ | ⟨he, -⟩
      · exact h.found existing hm
      · exact (found ha hreq hf).2
      · cases he
    obtain ⟨msg, hmsg, he⟩ := hsent
    exact ⟨msg, outgoing_step hr hmsg, he⟩

/-! ## Results -/

theorem lastEvent_of_all {event : InverterControlEvent} {msgs : List InverterControlMessage} {id : Uuid}
    (hs : Sent event id msgs) (h : ∀ msg ∈ msgs, msg.inverterId = id → msg.event = event) :
    lastEvent msgs id = some event := by
  obtain ⟨msg, hm, -, hid⟩ := hs
  have hf : msg ∈ msgs.filter (·.inverterId = id) := List.mem_filter.mpr ⟨hm, decide_eq_true hid⟩
  unfold lastEvent
  rw [List.getLast?_eq_some_getLast (List.ne_nil_of_mem hf), Option.map_some]
  have hl := List.mem_filter.mp (List.getLast_mem (List.ne_nil_of_mem hf))
  rw [h _ hl.1 (of_decide_eq_true hl.2)]

theorem Kept.last (h : Kept lowerCase s) {id : Uuid} (ha : Active s id) (hs : Sent .registered id s.outgoing) :
    lastEvent (s.outgoing.map (inLowerCase lowerCase)) id = some .registered := by
  obtain ⟨row, hrow, rfl, hact⟩ := ha
  have hl : lowerCase row.id = row.id := h.wf.lower row.id (List.mem_map_of_mem hrow)
  obtain ⟨msg, hm, he, hid⟩ := hs
  refine lastEvent_of_all ⟨_, List.mem_map_of_mem hm, he, ?_⟩ fun other hother hid' => ?_
  · exact (congrArg lowerCase hid).trans hl
  · obtain ⟨msg', hm', rfl⟩ := List.mem_map.mp hother
    cases hev : msg'.event with
    | registered => exact hev
    | deregistered =>
      obtain ⟨row', hrow', hr', hf⟩ := h.gone msg' (Service.mem_coming.mpr (.inl hm')) hev
      rw [List.inj_on_of_nodup_map h.wf.nodup hrow' hrow (hr'.trans hid'), hact] at hf
      cases hf

/-- If look-ups find live rows only and no row is deactivated while it is being
returned, every inverter that `connectInverter` returns is live. -/
theorem connected_live {r : Nat} {request : Request} {inverter : InverterRow} {created : Bool}
    (h : (machine lowerCase).Reach (Undisturbed lowerCase) s) (hs : (machine lowerCase).step s a = some s')
    (hr : s.requests[r]? = some request) (hne : request ≠ .connected inverter created)
    (hc : s'.requests[r]? = some (.connected inverter created)) : Live lowerCase s' inverter.id := by
  have hk : Kept lowerCase s := h.inv kept_init fun _ _ _ hi ho hs => kept_step hi ho hs
  -- the request goes on in this step, so the step is its own
  have own : ∀ {k : Nat} {new : Request}, (s.requests.set k new)[r]? = some (.connected inverter created) →
      new = .connected inverter created := by
    intro k new h
    rcases Calls.set_cases h with hx | hx
    · exact hx.2.symm
    · exact absurd (Option.some.inj (hr.symm.trans hx.2)) hne
  cases change_of_step hs with
  | connect | unsupported | deactivate =>
    rcases Calls.snoc_cases hc with hc | hx
    · exact absurd (Option.some.inj (hr.symm.trans hc)) hne
    · cases hx.2
  | returned k existing hreq =>
    cases own hc
    have hm := List.mem_of_getElem? hreq
    have ha : Active s inverter.id := hk.returns _ hm inverter rfl
    exact ⟨ha, hk.last ha (hk.found inverter hm)⟩
  | registered k inv hreq =>
    cases own hc
    have ha : Active s inverter.id := hk.returns _ (List.mem_of_getElem? hreq) inverter rfl
    refine ⟨ha, ?_⟩
    obtain ⟨row, hrow, hid, -⟩ := ha
    have hl : lowerCase inverter.id = inverter.id := hid ▸ hk.wf.lower row.id (List.mem_map_of_mem hrow)
    change lastEvent ((s.outgoing ++ [controlMessage .registered inverter.id inverter.brand]).map _) inverter.id = _
    rw [List.map_append, List.map_singleton, lastEvent_snoc]
    exact if_pos hl
  | verified | free | found | duplicate | created | refused | deactivatable | updated | conflict | deregistered | fail =>
    cases own hc

end

/-- A sandbox user connects and has the answer of the look-up. -/
def connect (r : Nat) : List Action := [.connectInverter .sandbox 1, .verified r ⟨"9001", 10⟩, .statement r 0]

/-- Inverter 7 has been created. -/
def created7 : List Action := connect 0 ++ [.statement 0 7, .answered 0]

def row7 : InverterRow := newInverter 7 .sandbox ⟨"9001", 10⟩ 1

/-- The same user connects the same installation again. -/
theorem connected_live_again : ∃ s s', ((machine lower).only (Undisturbed lower)).run .init (created7 ++ connect 1) = some s ∧
    (machine lower).step s (.answered 1) = some s' ∧ s'.requests[1]? = some (.connected row7 false) ∧ Live lower s' 7 := by
  have h0 : (((machine lower).only (Undisturbed lower)).run .init (created7 ++ connect 1)).bind (fun s =>
      ((machine lower).step s (.answered 1)).map fun s' => (s.requests[1]?, s'.requests[1]?)) =
      some (some (.found .sandbox row7), some (.connected row7 false)) := by decide +kernel
  obtain ⟨s, hs, h0⟩ := Option.bind_eq_some_iff.mp h0
  obtain ⟨s', hs', h0⟩ := Option.map_eq_some_iff.mp h0
  simp only [Prod.mk.injEq] at h0
  obtain ⟨hr, hc⟩ := h0
  exact ⟨s, s', hs, hs', hc, connected_live (Machine.path_of_run_only hs) hs' hr (fun he => by cases he) hc⟩

/-- Inverter 7 is connected and deactivated, and then connected again. -/
def reconnected : List Action :=
  created7 ++ [.deactivateInverter 7 1, .statement 1 0, .statement 1 0, .answered 1] ++ connect 2

def inactive7 : InverterRow := { row7 with isActive := false }

theorem reconnected_inactive : ¬ ∀ s a s' (r : Nat) request (inverter : InverterRow) created,
    (machine lower).Reach Free s → (machine lower).step s a = some s' → s.requests[r]? = some request →
    request ≠ Request.connected inverter created → s'.requests[r]? = some (.connected inverter created) →
    Live lower s' inverter.id := by
  intro h
  have h0 : ((machine lower).run .init reconnected).bind (fun s => ((machine lower).step s (.answered 2)).map
      fun s' => (s.requests[2]?, s'.requests[2]?, decide (Active s' 7))) =
      some (some (.found .sandbox inactive7), some (.connected inactive7 false), false) := by decide +kernel
  obtain ⟨s, hs, h0⟩ := Option.bind_eq_some_iff.mp h0
  obtain ⟨s', hs', h0⟩ := Option.map_eq_some_iff.mp h0
  simp only [Prod.mk.injEq, decide_eq_false_iff_not] at h0
  obtain ⟨hr, hc, hn⟩ := h0
  exact hn (h s _ s' 2 _ inactive7 false (Machine.path_of_run hs) hs' hr (fun he => by cases he) hc).active

end IntellApi.Inverters
