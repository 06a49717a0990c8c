import IntellApi.MetricsPoller
import Mathlib.Data.List.Nodup

/-!
# What the poller tracks

An id has one brand, and the array of that brand is the only one that ever
holds it: the test for a duplicate and the push are one step, after the look-up.
A `registered` handler that is resumed after the inverter was deregistered puts
it back.
-/

namespace IntellApi.MetricsPoller

open Function Lts

/-! ## Arrays -/

namespace Tracked

section
variable {t : Tracked} {brand : InverterBrand} {inverters : List Inverter} {id : Uuid} {inverter : Inverter}

theorem get_set (t : Tracked) (brand brand' : InverterBrand) (inverters : List Inverter) :
    (t.setArrayForBrand brand inverters).getArrayForBrand brand' =
      if brand' = brand ∧ brand ≠ .deye then inverters else t.getArrayForBrand brand' := by
  cases brand <;> cases brand' <;> rfl

theorem mem_ids : id ∈ t.ids ↔ ∃ brand, ∃ inverter ∈ t.getArrayForBrand brand, inverter.id = id := by
  unfold ids
  rw [List.mem_map]
  constructor
  · intro hx
    obtain ⟨inverter, hm, rfl⟩ := hx
    simp only [List.mem_append] at hm
    rcases hm with ((hm | hm) | hm) | hm
    · exact ⟨.victron, inverter, hm, rfl⟩
    · exact ⟨.growatt, inverter, hm, rfl⟩
    · exact ⟨.sunsynk, inverter, hm, rfl⟩
    · exact ⟨.sandbox, inverter, hm, rfl⟩
  · intro hx
    obtain ⟨brand, inverter, hm, rfl⟩ := hx
    refine ⟨inverter, ?_, rfl⟩
    simp only [List.mem_append]
    cases brand with
    | victron => exact .inl (.inl (.inl hm))
    | growatt => exact .inl (.inl (.inr hm))
    | sunsynk => exact .inl (.inr hm)
    | sandbox => exact .inr hm
    | deye => cases hm

end

end Tracked

/-- What `findSpecificBrand` finds: inverters of that brand, each once. -/
structure OfBrand (brandOf : Uuid → InverterBrand) (brand : InverterBrand) (inverters : List Inverter) : Prop where
  nodup : (inverters.map (·.id)).Nodup
  brand : ∀ inverter ∈ inverters, inverter.brand = brand ∧ brandOf inverter.id = brand

def Tracked.Sorted (brandOf : Uuid → InverterBrand) (t : Tracked) : Prop :=
  ∀ brand, OfBrand brandOf brand (t.getArrayForBrand brand)

section
variable {brandOf : Uuid → InverterBrand} {t : Tracked} {brand : InverterBrand} {inverters : List Inverter} {id : Uuid}
  {inverter : Inverter}

theorem OfBrand.sublist {inverters' : List Inverter} (h : OfBrand brandOf brand inverters)
    (hs : inverters'.Sublist inverters) : OfBrand brandOf brand inverters' :=
  ⟨h.nodup.sublist (hs.map _), fun inverter hm => h.brand inverter (hs.subset hm)⟩

theorem OfBrand.snoc (h : OfBrand brandOf inverter.brand inverters) (hb : inverter.brand = brandOf inverter.id)
    (hn : ∀ other ∈ inverters, other.id ≠ inverter.id) : OfBrand brandOf inverter.brand (inverters ++ [inverter]) where
  nodup := by
    rw [List.map_append, List.nodup_append]
    refine ⟨h.nodup, List.nodup_singleton _, fun id hid id' hid' => ?_⟩
    obtain ⟨other, hm, rfl⟩ := List.mem_map.mp hid
    rw [List.map_singleton, List.mem_singleton] at hid'
    exact hid' ▸ hn other hm
  brand other hm := by
    rcases List.mem_append.mp hm with hm | hm
    · exact h.brand other hm
    · rw [List.mem_singleton.mp hm]
      exact ⟨rfl, hb.symm⟩

theorem Tracked.Sorted.set (h : t.Sorted brandOf) (hb : OfBrand brandOf brand inverters) :
    (t.setArrayForBrand brand inverters).Sorted brandOf := by
  intro brand'
  rw [Tracked.get_set]
  split
  · rename_i he
    exact he.1 ▸ hb
  · exact h brand'

theorem Tracked.sorted_empty : Tracked.empty.Sorted brandOf := by
  intro brand
  have he : Tracked.empty.getArrayForBrand brand = [] := by cases brand <;> rfl
  rw [he]
  exact ⟨List.nodup_nil, fun _ h => nomatch h⟩

theorem Tracked.Sorted.same (h : t.Sorted brandOf) {brand' : InverterBrand} {inverter' : Inverter}
    (hm : inverter ∈ t.getArrayForBrand brand) (hm' : inverter' ∈ t.getArrayForBrand brand')
    (he : inverter.id = inverter'.id) : brand = brand' := by
  rw [← ((h brand).brand inverter hm).2, he]
  exact ((h brand').brand inverter' hm').2

theorem Tracked.Sorted.nodup (h : t.Sorted brandOf) : t.ids.Nodup := by
  have apart : ∀ brand brand' : InverterBrand, brand ≠ brand' →
      ∀ inverter ∈ t.getArrayForBrand brand, ∀ inverter' ∈ t.getArrayForBrand brand', inverter.id ≠ inverter'.id :=
    fun brand brand' hne inverter hm inverter' hm' he => hne (h.same hm hm' he)
  unfold Tracked.ids
  simp only [List.map_append, List.nodup_append, List.mem_append, List.mem_map]
  refine ⟨⟨⟨(h .victron).nodup, (h .growatt).nodup, ?_⟩, (h .sunsynk).nodup, ?_⟩, (h .sandbox).nodup, ?_⟩
  · intro _ hx _ hy
    obtain ⟨i, hi, rfl⟩ := hx
    obtain ⟨j, hj, rfl⟩ := hy
    exact apart .victron .growatt nofun i hi j hj
  · intro _ hx _ hy
    obtain ⟨j, hj, rfl⟩ := hy
    rcases hx with ⟨i, hi, rfl⟩ | ⟨i, hi, rfl⟩
    · exact apart .victron .sunsynk nofun i hi j hj
    · exact apart .growatt .sunsynk nofun i hi j hj
  · intro _ hx _ hy
    obtain ⟨j, hj, rfl⟩ := hy
    rcases hx with (⟨i, hi, rfl⟩ | ⟨i, hi, rfl⟩) | ⟨i, hi, rfl⟩
    · exact apart .victron .sandbox nofun i hi j hj
    · exact apart .growatt .sandbox nofun i hi j hj
    · exact apart .sunsynk .sandbox nofun i hi j hj

end

/-! ## Handlers -/

namespace Poller

section
variable {brandOf : Uuid → InverterBrand} {p : Poller} {id id' : Uuid} {inverter : Inverter}

theorem sorted_registered (h : p.tracked.Sorted brandOf) (hid : inverter.id = id)
    (hb : inverter.brand = brandOf inverter.id) :
    (p.handleInverterRegistered id (some inverter)).tracked.Sorted brandOf := by
  simp only [handleInverterRegistered]
  split
  · exact h
  · rename_i hn
    rw [Bool.not_eq_true, List.any_eq_false] at hn
    refine h.set ((h inverter.brand).snoc hb fun other hm he => hn other hm ?_)
    rw [decide_eq_true_eq, he, hid]

theorem ids_registered (hid : inverter.id = id) :
    id' ∈ (p.handleInverterRegistered id (some inverter)).tracked.ids ↔
      id' ∈ p.tracked.ids ∨ id' = id ∧ inverter.brand ≠ .deye := by
  simp only [handleInverterRegistered]
  split
  · rename_i hany
    obtain ⟨other, hm, he⟩ := List.any_eq_true.mp hany
    refine (or_iff_left_of_imp ?_).symm
    intro hx
    obtain ⟨rfl, -⟩ := hx
    exact Tracked.mem_ids.mpr ⟨inverter.brand, other, hm, of_decide_eq_true he⟩
  · simp only [Tracked.mem_ids, Tracked.get_set]
    constructor
    · intro hx
      obtain ⟨brand, other, hm, rfl⟩ := hx
      split at hm
      · rename_i hb
        rcases List.mem_append.mp hm with hm | hm
        · exact .inl ⟨inverter.brand, other, hm, rfl⟩
        · rw [List.mem_singleton.mp hm]
          exact .inr ⟨hid, hb.2⟩
      · exact .inl ⟨brand, other, hm, rfl⟩
    · intro hx
      rcases hx with ⟨brand, other, hm, rfl⟩ | ⟨rfl, hb⟩
      · refine ⟨brand, other, ?_, rfl⟩
        split
        · rename_i he
          exact List.mem_append_left _ (he.1 ▸ hm)
        · exact hm
      · refine ⟨inverter.brand, inverter, ?_, hid⟩
        rw [if_pos ⟨rfl, hb⟩]
        exact List.mem_append_right _ (List.mem_singleton_self inverter)

theorem sorted_deregistered (h : p.tracked.Sorted brandOf) (id : Uuid) :
    (p.handleInverterDeregistered id).tracked.Sorted brandOf := by
  unfold handleInverterDeregistered
  split
  · exact h.set ((h _).sublist List.eraseP_sublist)
  · exact h

theorem mem_eraseP_ids {inverters : List Inverter} (hn : (inverters.map (·.id)).Nodup) :
    inverter ∈ inverters.eraseP (·.id = id) ↔ inverter ∈ inverters ∧ inverter.id ≠ id := by
  induction inverters with
  | nil => simp
  | cons other inverters ih =>
    rw [List.map_cons, List.nodup_cons] at hn
    by_cases he : other.id = id
    · rw [List.eraseP_cons_of_pos (by simpa using he)]
      constructor
      · intro hm
        refine ⟨List.mem_cons_of_mem _ hm, fun hid => hn.1 ?_⟩
        rw [he, ← hid]
        exact List.mem_map_of_mem hm
      · intro hx
        obtain ⟨hm, hid⟩ := hx
        rcases List.mem_cons.mp hm with rfl | hm
        · exact absurd he hid
        · exact hm
    · rw [List.eraseP_cons_of_neg (by simpa using he), List.mem_cons, List.mem_cons, ih hn.2]
      constructor
      · intro hx
        rcases hx with rfl | hm
        · exact ⟨.inl rfl, he⟩
        · exact ⟨.inr hm.1, hm.2⟩
      · intro hx
        obtain ⟨rfl | hm, hid⟩ := hx
        · exact .inl rfl
        · exact .inr ⟨hm, hid⟩

theorem ids_deregistered (h : p.tracked.Sorted brandOf) :
    id' ∈ (p.handleInverterDeregistered id).tracked.ids ↔ id' ∈ p.tracked.ids ∧ id' ≠ id := by
  unfold handleInverterDeregistered
  split
  · rename_i brand hf
    have hany := List.find?_some hf
    obtain ⟨other, ho, he⟩ := List.any_eq_true.mp hany
    have he := of_decide_eq_true he
    have hd : brand ≠ .deye := by
      intro he
      subst he
      cases ho
    simp only [Tracked.mem_ids, Tracked.get_set]
    constructor
    · intro hx
      obtain ⟨brand', inverter, hm, rfl⟩ := hx
      split at hm
      · rename_i hb
        obtain ⟨hm, hne⟩ := (mem_eraseP_ids (h brand).nodup).mp hm
        exact ⟨⟨brand, inverter, hm, rfl⟩, hne⟩
      · rename_i hb
        refine ⟨⟨brand', inverter, hm, rfl⟩, fun hid => hb ⟨h.same hm ho (hid.trans he.symm), hd⟩⟩
    · intro hx
      obtain ⟨⟨brand', inverter, hm, rfl⟩, hne⟩ := hx
      refine ⟨brand', inverter, ?_, rfl⟩
      split
      · rename_i hb
        exact (mem_eraseP_ids (h brand).nodup).mpr ⟨hb.1 ▸ hm, hne⟩
      · exact hm
  · rename_i hf
    refine (and_iff_left_of_imp ?_).symm
    intro hm he
    subst he
    obtain ⟨brand, other, hm, he⟩ := Tracked.mem_ids.mp hm
    refine List.find?_eq_none.mp hf brand ?_ (List.any_eq_true.mpr ⟨other, hm, decide_eq_true he⟩)
    cases brand <;> decide

end

end Poller

/-! ## What a step does -/

inductive Change (rows : List Inverter) (p : Poller) : Action → Poller → Prop
  | findSpecificBrand (found : InverterBrand → Option (List Inverter)) (brand : InverterBrand) :
    p.startUp = .loading found → brand ≠ .deye → found brand = none →
    Change rows p (.findSpecificBrand brand)
      { p with startUp := .loading (update found brand (some (rows.filter (·.brand = brand)))) }
  | load (found : InverterBrand → Option (List Inverter)) (t : Tracked) : p.startUp = .loading found →
    (∀ brand, brand ≠ .deye → found brand = some (t.getArrayForBrand brand)) →
    Change rows p .load { p with startUp := .subscribing, tracked := t }
  | subscribe : p.startUp = .subscribing → Change rows p .subscribe { p with startUp := .finished }
  | startUpFails : p.startUp ≠ .finished → Change rows p .startUpFails { p with startUp := .failed }
  | ignored (raw : Option ParsedMessage) : p.startUp = .finished → raw.bind isValidControlMessage = none →
    Change rows p (.deliver raw) p
  | registered (raw : Option ParsedMessage) (id : Uuid) (brand : String) : p.startUp = .finished →
    raw.bind isValidControlMessage = some ⟨.registered, id, brand⟩ →
    Change rows p (.deliver raw)
      { p with handled := p.handled ++ [⟨.registered, id, brand⟩], handlers := p.handlers ++ [.lookingUp id] }
  | deregistered (raw : Option ParsedMessage) (id : Uuid) (brand : String) : p.startUp = .finished →
    raw.bind isValidControlMessage = some ⟨.deregistered, id, brand⟩ →
    Change rows p (.deliver raw)
      (Poller.handleInverterDeregistered { p with handled := p.handled ++ [⟨.deregistered, id, brand⟩] } id)
  | get (h : Nat) (id : Uuid) : p.handlers[h]? = some (.lookingUp id) →
    Change rows p (.get h) (p.setHandler h (.found id (rows.find? (·.id = id))))
  | getFails (h : Nat) (id : Uuid) : p.handlers[h]? = some (.lookingUp id) →
    Change rows p (.getFails h) (p.setHandler h .rejected)
  | resume (h : Nat) (id : Uuid) (inverter : Option Inverter) : p.handlers[h]? = some (.found id inverter) →
    Change rows p (.resume h) ((p.handleInverterRegistered id inverter).setHandler h .finished)

theorem change_of_step {rows : List Inverter} {p p' : Poller} {a : Action} (h : p.step rows a = some p') :
    Change rows p a p' := by
  cases a with
  | findSpecificBrand brand =>
    simp only [Poller.step] at h
    split at h
    · rename_i found hs
      split at h <;> cases h
      rename_i hb
      exact .findSpecificBrand found brand hs hb.1 (Option.isNone_iff_eq_none.mp hb.2)
    · cases h
  | load =>
    simp only [Poller.step] at h
    split at h
    · rename_i found hs
      split at h <;> cases h
      rename_i victron growatt sunsynk sandbox hv hg hsu hsa
      refine .load found _ hs fun brand hb => ?_
      cases brand with
      | victron => exact hv
      | growatt => exact hg
      | sunsynk => exact hsu
      | sandbox => exact hsa
      | deye => exact absurd rfl hb
    · cases h
  | subscribe =>
    simp only [Poller.step] at h
    split at h <;> cases h
    rename_i hs
    exact .subscribe hs
  | startUpFails =>
    simp only [Poller.step] at h
    split at h <;> cases h
    · rename_i hs
      exact .startUpFails (by rw [hs]; exact nofun)
    · rename_i hs
      exact .startUpFails (by rw [hs]; exact nofun)
  | deliver raw =>
    simp only [Poller.step] at h
    split at h <;> cases h
    rename_i hs
    unfold Poller.onControlMessage
    split
    · rename_i hv
      exact .ignored raw hs hv
    · rename_i msg hv
      obtain ⟨_ | _, id, brand⟩ := msg
      · exact .registered raw id brand hs hv
      · exact .deregistered raw id brand hs hv
  | get h' =>
    simp only [Poller.step] at h
    split at h <;> cases h
    rename_i hq
    exact .get h' _ hq
  | getFails h' =>
    simp only [Poller.step] at h
    split at h <;> cases h
    rename_i hq
    exact .getFails h' _ hq
  | resume h' =>
    simp only [Poller.step] at h
    split at h <;> cases h
    rename_i hq
    exact .resume h' _ _ hq

/-! ## Every id once, in the array of its brand -/

structure Rows (brandOf : Uuid → InverterBrand) (rows : List Inverter) : Prop where
  nodup : (rows.map (·.id)).Nodup
  brand : ∀ inverter ∈ rows, inverter.brand = brandOf inverter.id

structure Sound (brandOf : Uuid → InverterBrand) (p : Poller) : Prop where
  tracked : p.tracked.Sorted brandOf
  loading : ∀ found, p.startUp = .loading found →
    ∀ brand inverters, found brand = some inverters → OfBrand brandOf brand inverters
  handlers : ∀ id inverter, .found id (some inverter) ∈ p.handlers →
    inverter.id = id ∧ inverter.brand = brandOf inverter.id
  quiet : p.startUp ≠ .finished → p.handled = [] ∧ p.handlers = []

section
variable {brandOf : Uuid → InverterBrand} {rows : List Inverter} {p p' : Poller} {a : Action} {id : Uuid}

theorem Rows.ofBrand (h : Rows brandOf rows) (brand : InverterBrand) :
    OfBrand brandOf brand (rows.filter (·.brand = brand)) where
  nodup := h.nodup.sublist (List.filter_sublist.map _)
  brand inverter hm := by
    obtain ⟨hm, hb⟩ := List.mem_filter.mp hm
    rw [decide_eq_true_eq] at hb
    exact ⟨hb, (h.brand inverter hm).symm.trans hb⟩

theorem Rows.find (h : Rows brandOf rows) {inverter : Inverter} (hf : rows.find? (·.id = id) = some inverter) :
    inverter ∈ rows ∧ inverter.id = id ∧ inverter.brand = brandOf inverter.id := by
  have hm := List.mem_of_find?_eq_some hf
  have hid := List.find?_some hf
  exact ⟨hm, of_decide_eq_true hid, h.brand inverter hm⟩

theorem sound_init : Sound brandOf .init where
  tracked := Tracked.sorted_empty
  loading found h brand inverters hf := by
    cases h
    cases hf
  handlers _ _ h := nomatch h
  quiet _ := ⟨rfl, rfl⟩

theorem Sound.setHandler (h : Sound brandOf p) (k : Nat) {handler : Handler}
    (hh : ∀ id inverter, handler = .found id (some inverter) → inverter.id = id ∧ inverter.brand = brandOf inverter.id) :
    Sound brandOf (p.setHandler k handler) :=
  { h with
    handlers := fun id inverter hm => (List.mem_or_eq_of_mem_set hm).elim (h.handlers id inverter) fun he =>
      hh id inverter he.symm
    quiet := fun hne => ⟨(h.quiet hne).1, by rw [Poller.setHandler, (h.quiet hne).2, List.set_nil]⟩ }

theorem Poller.startUp_registered (p : Poller) (id : Uuid) (inverter : Option Inverter) :
    p.handleInverterRegistered id inverter = { p with tracked := (p.handleInverterRegistered id inverter).tracked } := by
  cases inverter with
  | none => rfl
  | some inverter =>
    simp only [handleInverterRegistered]
    split <;> rfl

theorem Poller.startUp_deregistered (p : Poller) (id : Uuid) :
    p.handleInverterDeregistered id = { p with
      tracked := (p.handleInverterDeregistered id).tracked
      failureCounts := (p.handleInverterDeregistered id).failureCounts } := by
  unfold handleInverterDeregistered
  split <;> rfl

theorem Sound.registered (h : Sound brandOf p) {inverter : Option Inverter}
    (hi : ∀ i, inverter = some i → i.id = id ∧ i.brand = brandOf i.id) :
    Sound brandOf (p.handleInverterRegistered id inverter) := by
  rw [Poller.startUp_registered]
  refine { h with tracked := ?_ }
  cases inverter with
  | none => exact h.tracked
  | some i => exact Poller.sorted_registered h.tracked (hi i rfl).1 (hi i rfl).2

theorem Sound.deregistered (h : Sound brandOf p) (id : Uuid) : Sound brandOf (p.handleInverterDeregistered id) := by
  rw [Poller.startUp_deregistered]
  exact { h with tracked := Poller.sorted_deregistered h.tracked id }

theorem Sound.change (hr : Rows brandOf rows) (h : Sound brandOf p) (hc : Change rows p a p') : Sound brandOf p' := by
  cases hc with
  | findSpecificBrand found brand hs hb hf =>
    refine { h with loading := fun found' hs' brand' inverters hi => ?_, quiet := fun _ => h.quiet (by rw [hs]; exact nofun) }
    cases hs'
    by_cases he : brand' = brand
    · subst he
      rw [update_self, Option.some.injEq] at hi
      exact hi ▸ hr.ofBrand brand'
    · rw [update_of_ne he] at hi
      exact h.loading found hs brand' inverters hi
  | load found t hs ht =>
    refine { h with tracked := fun brand => ?_, loading := nofun, quiet := fun _ => h.quiet (by rw [hs]; exact nofun) }
    by_cases hb : brand = .deye
    · subst hb
      exact ⟨List.nodup_nil, nofun⟩
    · exact h.loading found hs brand _ (ht brand hb)
  | subscribe hs => exact { h with loading := nofun, quiet := fun hne => absurd rfl hne }
  | startUpFails hs => exact { h with loading := nofun, quiet := fun _ => h.quiet hs }
  | ignored => exact h
  | registered raw id brand hs =>
    refine { h with handlers := fun id inverter hm => ?_, quiet := fun hne => absurd hs hne }
    rcases List.mem_append.mp hm with hm | hm
    · exact h.handlers id inverter hm
    · cases List.mem_singleton.mp hm
  | deregistered raw id brand hs =>
    refine Sound.deregistered ?_ id
    exact { h with quiet := fun hne => absurd hs hne }
  | get k id hk =>
    refine h.setHandler k fun id' inverter he => ?_
    obtain ⟨rfl, hf⟩ := Handler.found.inj he
    exact (hr.find hf).2
  | getFails k id hk => exact h.setHandler k nofun
  | resume k id inverter hk =>
    refine Sound.setHandler (h.registered fun i hi => ?_) k nofun
    subst hi
    exact h.handlers id i (List.mem_of_getElem? hk)

end

section
variable {brandOf : Uuid → InverterBrand} {s s' : State} {e : Event}

theorem sound_step (h : Rows brandOf s.inverters ∧ Sound brandOf s.poller) (hs : step brandOf s e = some s') :
    Rows brandOf s'.inverters ∧ Sound brandOf s'.poller := by
  cases e with
  | write inverters =>
    simp only [step] at hs
    split at hs <;> cases hs
    rename_i hr
    exact ⟨⟨hr.1, hr.2⟩, h.2⟩
  | poller a =>
    obtain ⟨p', hp, rfl⟩ := Option.map_eq_some_iff.mp hs
    exact ⟨h.1, h.2.change h.1 (change_of_step hp)⟩

theorem rows_nil : Rows brandOf [] := ⟨List.nodup_nil, fun _ hm => nomatch hm⟩

theorem sound_reach {ok : State → Event → Prop} (h : (machine brandOf).Reach ok s) :
    Rows brandOf s.inverters ∧ Sound brandOf s.poller :=
  h.inv (I := fun s : State => Rows brandOf s.inverters ∧ Sound brandOf s.poller) ⟨rows_nil, sound_init⟩
    fun _ _ _ hi _ hs => sound_step hi hs

/-- However many handlers of one id are pending, no id is tracked twice. -/
theorem tracked_once (h : (machine brandOf).Reach Free s) : s.poller.tracked.ids.Nodup ∧
    ∀ brand, ∀ inverter ∈ s.poller.tracked.getArrayForBrand brand, brandOf inverter.id = brand := by
  have ht := (sound_reach h).2.tracked
  exact ⟨ht.nodup, fun brand inverter hm => ((ht brand).brand inverter hm).2⟩

end

/-- Even ids are of Victron inverters, odd ones of the sandbox. -/
def evenVictron (id : Uuid) : InverterBrand := if id % 2 = 0 then .victron else .sandbox

def inverter7 : Inverter := ⟨7, 1, .sandbox, true, false, 10, 5⟩

def control (event : String) (id : Uuid) : Event :=
  .poller (.deliver (some ⟨some event, some id, some "SANDBOX"⟩))

/-- The poller starts with an empty table; inverter 7 is created while it subscribes. -/
def startEmpty : List Event :=
  [.poller (.findSpecificBrand .victron), .poller (.findSpecificBrand .growatt), .poller (.findSpecificBrand .sunsynk),
    .poller (.findSpecificBrand .sandbox), .poller .load, .write [inverter7], .poller .subscribe]

/-- Both handlers are pending when the first of them is resumed. -/
def registeredTwice : List Event :=
  [control "registered" 7, control "registered" 7, .poller (.get 0), .poller (.get 1), .poller (.resume 0),
    .poller (.resume 1)]

theorem tracked_once_registeredTwice : ∃ s, (machine evenVictron).run ⟨[], .init⟩ (startEmpty ++ registeredTwice) = some s ∧
    s.poller.tracked.ids = [7] ∧ s.poller.tracked.ids.Nodup := by
  have h0 : ((machine evenVictron).run ⟨[], .init⟩ (startEmpty ++ registeredTwice)).map (·.poller.tracked.ids) =
      some [7] := by decide
  obtain ⟨s, hs, hids⟩ := Option.map_eq_some_iff.mp h0
  exact ⟨s, hs, hids, (tracked_once (Machine.path_of_run hs)).1⟩

/-! ## The last control event -/

def lastEvent (msgs : List InverterControlMessage) (id : Uuid) : Option InverterControlEvent :=
  ((msgs.filter (·.inverterId = id)).getLast?).map (·.event)

theorem lastEvent_snoc (msgs : List InverterControlMessage) (msg : InverterControlMessage) (id : Uuid) :
    lastEvent (msgs ++ [msg]) id = if msg.inverterId = id then some msg.event else lastEvent msgs id := by
  unfold lastEvent
  rw [List.filter_append]
  by_cases h : msg.inverterId = id
  · rw [if_pos h, List.filter_cons_of_pos (by simpa using h), List.filter_nil, List.getLast?_concat, Option.map_some]
  · rw [if_neg h, List.filter_cons_of_neg (by simpa using h), List.filter_nil, List.append_nil]

/-- A handler is not resumed with a row of an inverter whose last message says `deregistered`. -/
def Poller.InOrder (p : Poller) : Action → Prop
  | .resume h =>
    match p.handlers[h]? with
    | some (.found id (some inverter)) => inverter.brand = .deye ∨ lastEvent p.handled id ≠ some .deregistered
    | _ => True
  | _ => True

instance (p : Poller) (a : Action) : Decidable (p.InOrder a) := by
  unfold Poller.InOrder
  split
  · split <;> infer_instance
  · infer_instance

def InOrder (s : State) : Event → Prop
  | .write _ => True
  | .poller a => s.poller.InOrder a

instance (s : State) (e : Event) : Decidable (InOrder s e) := by
  unfold InOrder
  split <;> infer_instance

def Obeys (p : Poller) : Prop := ∀ id, lastEvent p.handled id = some .deregistered → id ∉ p.tracked.ids

section
variable {brandOf : Uuid → InverterBrand} {rows : List Inverter} {p p' : Poller} {a : Action} {id : Uuid}

theorem Poller.handled_registered (p : Poller) (id : Uuid) (inverter : Option Inverter) :
    (p.handleInverterRegistered id inverter).handled = p.handled := by
  rw [startUp_registered]

theorem Poller.handled_deregistered (p : Poller) (id : Uuid) :
    (p.handleInverterDeregistered id).handled = p.handled := by
  rw [startUp_deregistered]

theorem Obeys.deregistered (h : ∀ id', id' ≠ id → lastEvent p.handled id' = some .deregistered → id' ∉ p.tracked.ids)
    (hs : p.tracked.Sorted brandOf) : Obeys (p.handleInverterDeregistered id) := by
  intro id' hl hm
  rw [Poller.handled_deregistered] at hl
  obtain ⟨hm, hne⟩ := (Poller.ids_deregistered hs).mp hm
  exact h id' hne hl hm

theorem Obeys.change (h : Obeys p) (hs : Sound brandOf p) (ho : p.InOrder a) (hc : Change rows p a p') : Obeys p' := by
  cases hc with
  | findSpecificBrand | subscribe | startUpFails | ignored | get | getFails => exact h
  | load found t hl =>
    intro id hd
    have hq : p.handled = [] := (hs.quiet (by rw [hl]; exact nofun)).1
    rw [hq] at hd
    cases hd
  | registered raw id brand =>
    intro id' hl
    rw [lastEvent_snoc] at hl
    split at hl
    · cases hl
    · exact h id' hl
  | deregistered raw id brand =>
    refine Obeys.deregistered (fun id' hne hl => ?_) hs.tracked
    rw [lastEvent_snoc, if_neg (Ne.symm hne)] at hl
    exact h id' hl
  | resume k id inverter hk =>
    cases inverter with
    | none => exact h
    | some inverter =>
      intro id' hl hm
      have hlast : lastEvent p.handled id' = some .deregistered :=
        (congrArg (lastEvent · id') (Poller.handled_registered p id inverter)).symm.trans hl
      have hid := (hs.handlers id inverter (List.mem_of_getElem? hk)).1
      rcases (Poller.ids_registered hid).mp hm with hm | ⟨rfl, hb⟩
      · exact h id' hlast hm
      · simp only [Poller.InOrder, hk] at ho
        exact ho.elim hb (· hlast)

end

section
variable {brandOf : Uuid → InverterBrand} {s : State}

/-- As long as no handler comes back with a row after the inverter was
deregistered, a deregistered inverter is not tracked, even with handlers still
pending. -/
theorem last_event_obeyed (h : (machine brandOf).Reach InOrder s) (id : Uuid)
    (hl : lastEvent s.poller.handled id = some .deregistered) : id ∉ s.poller.tracked.ids := by
  have h0 : Obeys .init := fun _ hl => nomatch hl
  have hi : (Rows brandOf s.inverters ∧ Sound brandOf s.poller) ∧ Obeys s.poller := by
    refine h.inv (I := fun s : State => (Rows brandOf s.inverters ∧ Sound brandOf s.poller) ∧ Obeys s.poller)
      ⟨⟨rows_nil, sound_init⟩, h0⟩ fun s e s' hi ho hs => ⟨sound_step hi.1 hs, ?_⟩
    cases e with
    | write inverters =>
      simp only [machine, step] at hs
      split at hs <;> cases hs
      exact hi.2
    | poller a =>
      obtain ⟨p', hp, rfl⟩ := Option.map_eq_some_iff.mp hs
      exact hi.2.change hi.1.2 ho (change_of_step hp)
  exact hi.2 id hl

end

/-- The look-up of the first message takes longer than the second message. -/
def overtaken : List Event :=
  [control "registered" 7, .poller (.get 0), control "deregistered" 7, .poller (.resume 0)]

theorem overtaken_tracked : ¬ ∀ brandOf s id, (machine brandOf).Reach Free s →
    (∀ handler ∈ s.poller.handlers, handler = .finished ∨ handler = .rejected) →
    lastEvent s.poller.handled id = some .deregistered → id ∉ s.poller.tracked.ids := by
  intro h
  have h0 : ((machine evenVictron).run ⟨[], .init⟩ (startEmpty ++ overtaken)).map (fun s =>
      (s.poller.handlers, lastEvent s.poller.handled 7, s.poller.tracked.ids)) =
      some ([.finished], some .deregistered, [7]) := by decide
  obtain ⟨s, hs, h0⟩ := Option.map_eq_some_iff.mp h0
  simp only [Prod.mk.injEq] at h0
  obtain ⟨hh, hl, hids⟩ := h0
  refine h evenVictron s 7 (Machine.path_of_run hs) (fun handler hm => ?_) hl ?_
  · rw [hh, List.mem_singleton] at hm
    exact .inl hm
  · rw [hids]
    exact List.mem_singleton_self 7

theorem last_event_obeyed_reregistered : ∃ s, ((machine evenVictron).only InOrder).run ⟨[], .init⟩ (startEmpty ++
      [control "registered" 7, .poller (.get 0), control "registered" 7, .poller (.resume 0), .poller (.get 1),
        .poller (.resume 1), control "deregistered" 7]) = some s ∧ 7 ∉ s.poller.tracked.ids := by
  have h0 : (((machine evenVictron).only InOrder).run ⟨[], .init⟩ (startEmpty ++
      [control "registered" 7, .poller (.get 0), control "registered" 7, .poller (.resume 0), .poller (.get 1),
        .poller (.resume 1), control "deregistered" 7])).map (fun s => lastEvent s.poller.handled 7) =
      some (some .deregistered) := by decide
  obtain ⟨s, hs, hl⟩ := Option.map_eq_some_iff.mp h0
  exact ⟨s, hs, last_event_obeyed (Machine.path_of_run_only hs) 7 hl⟩

end IntellApi.MetricsPoller
