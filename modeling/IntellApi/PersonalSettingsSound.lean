import IntellApi.Calls
import IntellApi.FuelRates
import IntellApi.PersonalSettings

/-!
# Updates of the personal settings

The updates of an account, however they overlap, leave the settings that the
same updates made one after another leave: in the order of their statements on
the row, which contradicts no order in time (`patches_applied`). No update takes
back a column another one has set, and what the savings read is in range
whatever has been sent (`settings_usable`).
-/

namespace IntellApi.PersonalSettings

open Lts

variable {firstName lastName : String} {s t u : State} {a : Action} {c : Nat} {call : Call} {stage : Stage}

/-! ## What a step does -/

/-- What a call does to the settings on its way to `stage`. -/
inductive Effect (s t : State) (c : Nat) (call : Call) (stage : Stage) : Prop
  | same : t.settings = s.settings → t.log = s.log → (stage = .returned → call.dto.updatePayload = []) →
    Effect s t c call stage
  | written (row : Settings) : (s.settings.getD .defaults).write call.dto.updatePayload = .ok row →
    t.settings = some row → t.log = s.log ++ [(c, call.dto)] → stage.ended = true → Effect s t c call stage

inductive Step (s : State) (a : Action) (t : State) : Prop
  | called (dto : UpdateUserPersonalSettingsDto) : a = .updatePersonalSettings dto →
    t = { s with calls := s.calls ++ [⟨dto, start dto⟩] } → Step s a t
  | moved (c : Nat) (call : Call) (stage : Stage) : s.calls[c]? = some call → call.stage.ended = false →
    t.calls = s.calls.set c { call with stage } → Effect s t c call stage → Step s a t

theorem orThrow_ended (answer : Answer) : (answer.orThrow Stage.returned Stage.threw).ended = true :=
  Answer.orThrow_of (P := fun stage => Stage.ended stage = true) rfl fun _ => rfl

theorem orThrow_not_returned {P : Prop} (answer : Answer) (h : stage ≠ .returned) :
    answer.orThrow stage .threw = .returned → P :=
  fun he => absurd he (Answer.orThrow_of (P := (· ≠ Stage.returned)) h fun _ he => Stage.noConfusion he)

theorem step_goOn (hc : s.calls[c]? = some call) (hrun : call.stage.ended = false)
    (hr : stage = .returned → call.dto.updatePayload = []) : Step s a (s.goOn c call stage) :=
  .moved c call stage hc hrun rfl (.same rfl rfl hr)

theorem step_write {row : Settings} {answer : Answer} (hc : s.calls[c]? = some call) (hrun : call.stage.ended = false)
    (hrow : s.settings.getD .defaults = row) : Step s a (s.write c call row answer) := by
  unfold State.write
  cases hw : row.write call.dto.updatePayload with
  | error error => exact step_goOn hc hrun fun h => Stage.noConfusion h
  | ok written =>
    cases answer with
    | done => exact .moved c call _ hc hrun rfl (.written written (hrow ▸ hw) rfl rfl (orThrow_ended _))
    | unanswered m => exact .moved c call _ hc hrun rfl (.written written (hrow ▸ hw) rfl rfl (orThrow_ended _))
    | failed m => exact step_goOn hc hrun fun h => Stage.noConfusion h

theorem step_writeNames {answer : Answer} (hc : s.calls[c]? = some call) (hrun : call.stage.ended = false) :
    Step s a (s.writeNames c call answer) := by
  unfold State.writeNames
  split
  · have hr : answer.orThrow Stage.findingSettings .threw = .returned → call.dto.updatePayload = [] :=
      orThrow_not_returned answer Stage.noConfusion
    dsimp only
    split
    · exact .moved c call _ hc hrun rfl (.same rfl rfl hr)
    · exact step_goOn hc hrun hr
  · exact step_goOn hc hrun fun h => Stage.noConfusion h
  · exact step_goOn hc hrun fun h => Stage.noConfusion h

theorem step_cases (h : step s a = some t) : Step s a t := by
  cases a with
  | updatePersonalSettings dto =>
    cases h
    exact .called dto rfl rfl
  | userUpdated c answer =>
    obtain ⟨call, hc, h⟩ := Option.bind_eq_some_iff.mp h
    split at h
    · rename_i hstage
      cases h
      exact step_writeNames hc (by rw [hstage]; rfl)
    · cases h
  | settingsFound c answer =>
    obtain ⟨call, hc, h⟩ := Option.bind_eq_some_iff.mp h
    split at h
    · rename_i hstage
      cases h
      exact step_goOn hc (by rw [hstage]; rfl) (orThrow_not_returned answer Stage.noConfusion)
    · cases h
  | userFound c answer =>
    obtain ⟨call, hc, h⟩ := Option.bind_eq_some_iff.mp h
    split at h
    · rename_i settings hstage
      cases h
      refine step_goOn hc (by rw [hstage]; rfl) ?_
      cases settings with
      | none => exact orThrow_not_returned answer Stage.noConfusion
      | some settings =>
        dsimp only
        split
        · rename_i hlen
          exact fun _ => List.length_eq_zero_iff.mp hlen
        · exact orThrow_not_returned answer Stage.noConfusion
    · cases h
  | settingsWritten c answer =>
    obtain ⟨call, hc, h⟩ := Option.bind_eq_some_iff.mp h
    split at h
    · rename_i hstage hnone
      cases h
      exact step_write hc (by rw [hstage]; rfl) (by rw [hnone]; rfl)
    · rename_i settings hstage hsome
      cases h
      exact step_goOn hc (by rw [hstage]; rfl) fun h => Stage.noConfusion h
    · rename_i settings hstage hsome
      cases h
      exact step_write hc (by rw [hstage]; rfl) (by rw [hsome]; rfl)
    · cases h

/-! ## The order of the statements -/

/-- The settings after updates one after another. -/
def replay (dtos : List UpdateUserPersonalSettingsDto) : Except ServiceError (Option Settings) :=
  dtos.foldlM (fun settings dto => some <$> (settings.getD .defaults).write dto.updatePayload) none

theorem replay_snoc {dtos : List UpdateUserPersonalSettingsDto} {dto : UpdateUserPersonalSettingsDto}
    {settings : Option Settings} {row : Settings} (h : replay dtos = .ok settings)
    (hw : (settings.getD .defaults).write dto.updatePayload = .ok row) : replay (dtos ++ [dto]) = .ok (some row) := by
  unfold replay at h ⊢
  rw [List.foldlM_append, h]
  simp only [List.foldlM_cons, List.foldlM_nil, bind, Except.bind, hw]
  rfl

structure Sound (s : State) : Prop where
  replayed : replay (s.log.map (·.2)) = .ok s.settings
  logged : ∀ entry ∈ s.log, ∃ stage, s.calls[entry.1]? = some ⟨entry.2, stage⟩ ∧ stage.ended = true
  once : (s.log.map (·.1)).Nodup
  applied : ∀ (c : Nat) (call : Call), s.calls[c]? = some call → call.stage = .returned →
    call.dto.updatePayload ≠ [] → (c, call.dto) ∈ s.log

theorem sound_init : Sound (init firstName lastName) where
  replayed := rfl
  logged _ h := absurd h List.not_mem_nil
  once := List.nodup_nil
  applied c call h := by cases h

/-- A call that has ended stays as it is. -/
theorem ended_step (h : Step s a t) (hc : s.calls[c]? = some call) (he : call.stage.ended = true) :
    t.calls[c]? = some call := by
  cases h with
  | called dto _ ht =>
    subst ht
    exact Calls.snoc_of_some hc
  | moved c' call' stage hc' hrun hcalls _ =>
    rw [hcalls]
    have hne : c' ≠ c := by
      rintro rfl
      rw [Option.some.inj (hc'.symm.trans hc), he] at hrun
      cases hrun
    rw [List.getElem?_set_ne hne]
    exact hc

theorem not_logged (hs : Sound s) (hc : s.calls[c]? = some call) (hrun : call.stage.ended = false) :
    c ∉ s.log.map (·.1) := by
  intro h
  obtain ⟨entry, hentry, rfl⟩ := List.mem_map.mp h
  obtain ⟨stage, hcall, he⟩ := hs.logged entry hentry
  cases hcall.symm.trans hc
  rw [he] at hrun
  cases hrun

theorem start_ne_returned (dto : UpdateUserPersonalSettingsDto) : start dto ≠ .returned := by
  unfold start
  split <;> exact Stage.noConfusion

theorem logged_step (h : Step s a t) (hs : Sound s) :
    ∀ entry ∈ s.log, ∃ stage, t.calls[entry.1]? = some ⟨entry.2, stage⟩ ∧ stage.ended = true := by
  intro entry hentry
  obtain ⟨stage, hc, he⟩ := hs.logged entry hentry
  exact ⟨stage, ended_step h hc he, he⟩

theorem sound_step (h : Step s a t) (hs : Sound s) : Sound t := by
  have hlogged := logged_step h hs
  cases h with
  | called dto _ ht =>
    subst ht
    refine ⟨hs.replayed, hlogged, hs.once, ?_⟩
    intro c call hc hret hne
    rcases Calls.snoc_cases hc with hc | ⟨-, rfl⟩
    · exact hs.applied c call hc hret hne
    · exact absurd hret (start_ne_returned dto)
  | moved c call stage hc hrun hcalls heffect =>
    cases heffect with
    | same hsettings hlog hr =>
      refine ⟨by rw [hlog, hsettings]; exact hs.replayed, by rw [hlog]; exact hlogged, by rw [hlog]; exact hs.once, ?_⟩
      intro c' call' hc' hret hne
      rw [hcalls] at hc'
      rw [hlog]
      rcases Calls.set_cases hc' with ⟨-, rfl⟩ | ⟨-, hc'⟩
      · exact absurd (hr hret) hne
      · exact hs.applied c' call' hc' hret hne
    | written row hw hsettings hlog hended =>
      refine ⟨?_, ?_, ?_, ?_⟩
      · rw [hlog, hsettings, List.map_append]
        exact replay_snoc hs.replayed hw
      · intro entry hentry
        rw [hlog] at hentry
        rcases List.mem_append.mp hentry with hentry | hentry
        · exact hlogged entry hentry
        · rw [List.mem_singleton.mp hentry]
          exact ⟨stage, by rw [hcalls]; exact Calls.getElem?_set_own hc, hended⟩
      · rw [hlog, List.map_append]
        refine List.nodup_append.mpr ⟨hs.once, List.nodup_singleton _, ?_⟩
        rintro k hk k' hk' rfl
        rw [List.mem_singleton.mp hk'] at hk
        exact not_logged hs hc hrun hk
      · intro c' call' hc' hret hne
        rw [hcalls] at hc'
        rw [hlog]
        rcases Calls.set_cases hc' with ⟨rfl, rfl⟩ | ⟨-, hc'⟩
        · exact List.mem_append_right _ (List.mem_singleton_self _)
        · exact List.mem_append_left _ (hs.applied c' call' hc' hret hne)

theorem Path.sound (h : (machine firstName lastName).Reach Free s) : Sound s :=
  h.inv sound_init fun _ _ _ hs _ hst => sound_step (step_cases hst) hs

/-- What comes after `s` in the order: no call that had ended by then. -/
def Later (s t : State) : Prop :=
  ∃ later, t.log = s.log ++ later ∧
    ∀ entry ∈ later, ∀ call, s.calls[entry.1]? = some call → call.stage.ended = false

theorem later_step (h : Step t a u) (hl : Later s t)
    (hkeep : ∀ (c : Nat) (call : Call), s.calls[c]? = some call → call.stage.ended = true → t.calls[c]? = some call) :
    Later s u := by
  obtain ⟨later, hlog, hrunning⟩ := hl
  cases h with
  | called dto _ ht =>
    subst ht
    exact ⟨later, hlog, hrunning⟩
  | moved c call stage hc hrun hcalls heffect =>
    cases heffect with
    | same _ hsame _ => exact ⟨later, hsame.trans hlog, hrunning⟩
    | written row _ _ hnew _ =>
      refine ⟨later ++ [(c, call.dto)], by rw [hnew, hlog, List.append_assoc], ?_⟩
      intro entry hentry call' hc'
      rcases List.mem_append.mp hentry with hentry | hentry
      · exact hrunning entry hentry call' hc'
      · rw [List.mem_singleton.mp hentry] at hc'
        refine Bool.eq_false_iff.mpr fun he => ?_
        cases (hkeep c call' hc' he).symm.trans hc
        rw [hrun] at he
        cases he

theorem Path.later (h : (machine firstName lastName).Path Free s t) : Later s t := by
  refine (h.keep (I := fun t => Later s t ∧
    ∀ (c : Nat) (call : Call), s.calls[c]? = some call → call.stage.ended = true → t.calls[c]? = some call)
    ?_ ⟨⟨[], by simp, by simp⟩, fun _ _ hc _ => hc⟩).1
  rintro t a u ⟨hl, hkeep⟩ - hst
  have hstep := step_cases hst
  exact ⟨later_step hstep hl hkeep, fun c call hc he => ended_step hstep (hkeep c call hc he) he⟩

/-- The settings are those of the logged updates one after another, each of them once. Every update that has
returned is among them unless it sets no column, and an update that starts when another has ended comes after it. -/
theorem patches_applied (hr : (machine firstName lastName).Reach Free s) :
    replay (s.log.map (·.2)) = .ok s.settings ∧ (s.log.map (·.1)).Nodup ∧
      (∀ entry ∈ s.log, ∃ stage, s.calls[entry.1]? = some ⟨entry.2, stage⟩) ∧
      (∀ (c : Nat) (call : Call), s.calls[c]? = some call → call.stage = .returned → call.dto.updatePayload ≠ [] →
        (c, call.dto) ∈ s.log) ∧
      ∀ t, (machine firstName lastName).Path Free s t → Later s t := by
  have hs := Path.sound hr
  refine ⟨hs.replayed, hs.once, ?_, hs.applied, fun t => Path.later⟩
  intro entry hentry
  obtain ⟨stage, hc, -⟩ := hs.logged entry hentry
  exact ⟨stage, hc⟩

def nothing : UpdateUserPersonalSettingsDto :=
  ⟨.undefined, .undefined, .undefined, .undefined, .undefined, .undefined, .undefined, .undefined, .undefined,
    .undefined, .undefined, .undefined⟩

def moved : UpdateUserPersonalSettingsDto := { nothing with state := .value "Rivers" }

def refuelled : UpdateUserPersonalSettingsDto :=
  { nothing with
    firstName := .value "Ada", customFuelPriceNaira := .value 1400.005, generatorFuelType := .value "DIESEL" }

/-- Two first updates at once; the one that comes second fails and is sent again. -/
def overlapping : List Action :=
  [.updatePersonalSettings moved, .updatePersonalSettings refuelled, .userUpdated 1 .done, .settingsFound 0 .done,
    .settingsFound 1 .done, .userFound 0 .done, .userFound 1 .done, .settingsWritten 0 .done, .settingsWritten 1 .done,
    .updatePersonalSettings refuelled, .userUpdated 2 .done, .settingsFound 2 .done, .userFound 2 .done,
    .settingsWritten 2 (.unanswered "connection lost")]

theorem patches_applied_overlapping : ∃ s, (machine "Joe" "Bello").run (init "Joe" "Bello") overlapping = some s ∧
    s.log = [(0, moved), (2, refuelled)] ∧ replay [moved, refuelled] = .ok s.settings := by
  have hrun : ((machine "Joe" "Bello").run (init "Joe" "Bello") overlapping).map (·.log) =
      some [(0, moved), (2, refuelled)] := by decide +kernel
  obtain ⟨s, hs, hlog⟩ := Option.map_eq_some_iff.mp hrun
  have hreplay := (patches_applied (Machine.path_of_run hs)).1
  rw [hlog] at hreplay
  exact ⟨s, hs, hlog, hreplay⟩

/-! ## What the savings read -/

structure InRange (settings : Settings) : Prop where
  price : ∀ p ∈ settings.customFuelPriceNaira, 0 ≤ p
  power : ∀ p ∈ settings.generatorRatedPowerKw, 0.1 ≤ p

def Assignment.InRange : Assignment → Prop
  | .customFuelPriceNaira value => ∀ q ∈ value, 0 ≤ q
  | .generatorRatedPowerKw value => ∀ q ∈ value, 0.1 ≤ q
  | _ => True

theorem decimal_le {precision : Nat} {low q p : ℚ} (h : decimal precision 2 q = .ok p) (hlow : low ≤ q)
    (hfix : JsNumber.toFixedRat 2 low = low) : low ≤ p := by
  unfold decimal at h
  dsimp only at h
  split at h
  · cases h
    rw [← hfix]
    exact JsNumber.toFixedRat_mono 2 hlow
  · cases h

theorem mapM_mem {α β : Type} {f : α → Except ServiceError β} {value : Option α} {result : Option β}
    (h : value.mapM f = .ok result) : ∀ b ∈ result, ∃ a ∈ value, f a = .ok b := by
  rintro b rfl
  cases value with
  | none => cases h
  | some a =>
    obtain ⟨b', hf, h⟩ := bind_eq_ok.mp h
    cases h
    exact ⟨a, rfl, hf⟩

theorem assign_inRange {settings settings' : Settings} {assignment : Assignment} (hs : InRange settings)
    (ha : assignment.InRange) (h : settings.assign assignment = .ok settings') : InRange settings' := by
  cases assignment with
  | customFuelPriceNaira value =>
    obtain ⟨price, hprice, h⟩ := bind_eq_ok.mp h
    cases h
    refine ⟨?_, hs.power⟩
    intro p hp
    obtain ⟨q, hq, hd⟩ := mapM_mem hprice p hp
    exact decimal_le hd (ha q hq) (by decide +kernel)
  | generatorRatedPowerKw value =>
    obtain ⟨power, hpower, h⟩ := bind_eq_ok.mp h
    cases h
    refine ⟨hs.price, ?_⟩
    intro p hp
    obtain ⟨q, hq, hd⟩ := mapM_mem hpower p hp
    exact decimal_le hd (ha q hq) (by decide +kernel)
  | generatorFuelType value =>
    obtain ⟨_, _, h⟩ := bind_eq_ok.mp h
    cases h
    exact ⟨hs.price, hs.power⟩
  | generatorAverageDailyRuntimeHours value =>
    obtain ⟨_, _, h⟩ := bind_eq_ok.mp h
    cases h
    exact ⟨hs.price, hs.power⟩
  | _ =>
    cases h
    exact ⟨hs.price, hs.power⟩

theorem write_inRange {payload : List Assignment} (ha : ∀ a ∈ payload, a.InRange) :
    ∀ {settings settings' : Settings}, InRange settings → settings.write payload = .ok settings' →
      InRange settings' := by
  induction payload with
  | nil =>
    intro settings settings' hs h
    cases h
    exact hs
  | cons assignment payload ih =>
    intro settings settings' hs h
    obtain ⟨middle, hm, h⟩ := bind_eq_ok.mp h
    have hmiddle := assign_inRange hs (ha assignment List.mem_cons_self) hm
    exact ih (fun a h => ha a (List.mem_cons_of_mem _ h)) hmiddle h

theorem given_value {α : Type} {check : α → Bool} {field : FeedbackService.DtoField α} {value : Option α}
    (hv : optional check field = true) (h : field.given = some value) : ∀ a ∈ value, check a = true := by
  cases field with
  | undefined => cases h
  | null => cases h; exact fun a ha => absurd ha (Option.not_mem_none a)
  | value a => cases h; exact fun b hb => Option.mem_some.mp hb ▸ hv

theorem map_inRange {α : Type} {ctor : α → Assignment} {value : Option α} {assignment : Assignment}
    (ha : some assignment = value.map ctor) (h : ∀ v ∈ value, (ctor v).InRange) : assignment.InRange := by
  obtain ⟨v, hv, rfl⟩ := Option.map_eq_some_iff.mp ha.symm
  exact h v hv

theorem payload_inRange {dto : UpdateUserPersonalSettingsDto} (h : dto.valid = true) :
    ∀ a ∈ dto.updatePayload, a.InRange := by
  intro a ha
  simp only [UpdateUserPersonalSettingsDto.valid, Bool.and_eq_true] at h
  obtain ⟨⟨⟨hprice, hpower⟩, -⟩, -⟩ := h
  obtain ⟨o, ho, rfl⟩ : ∃ o ∈ _, o = some a := List.mem_filterMap.mp ha
  simp only [List.mem_cons, List.not_mem_nil, or_false] at ho
  -- the columns in the order of the payload
  rcases ho with ho | ho | ho | ho | ho | ho | ho | ho | ho | ho
  · exact map_inRange ho fun _ _ => trivial
  · exact map_inRange ho fun _ _ => trivial
  · exact map_inRange ho fun _ _ => trivial
  · exact map_inRange ho fun _ _ => trivial
  · exact map_inRange ho fun _ _ => trivial
  · exact map_inRange ho fun _ _ => trivial
  · exact map_inRange ho fun v hv q hq => of_decide_eq_true (given_value hprice hv q hq)
  · exact map_inRange ho fun v hv q hq => of_decide_eq_true (given_value hpower hv q hq)
  · obtain ⟨t, -, ht⟩ := Option.bind_eq_some_iff.mp ho.symm
    exact map_inRange ht.symm fun _ _ => trivial
  · exact map_inRange ho fun _ _ => trivial

/-- The requests pass the checks. -/
def Valid (_ : State) : Action → Prop
  | .updatePersonalSettings dto => dto.valid = true
  | _ => True

instance (s : State) : (a : Action) → Decidable (Valid s a)
  | .updatePersonalSettings dto => inferInstanceAs (Decidable (dto.valid = true))
  | .userUpdated _ _ | .settingsFound _ _ | .userFound _ _ | .settingsWritten _ _ => instDecidableTrue

structure Usable (s : State) : Prop where
  requests : ∀ call ∈ s.calls, call.dto.valid = true
  row : ∀ settings ∈ s.settings, InRange settings

theorem defaults_inRange : InRange .defaults :=
  ⟨fun _ h => absurd h (Option.not_mem_none _), fun _ h => absurd h (Option.not_mem_none _)⟩

theorem usable_step (h : step s a = some t) (hv : Valid s a) (hs : Usable s) : Usable t := by
  cases step_cases h with
  | called dto ha ht =>
    subst ha ht
    refine ⟨?_, hs.row⟩
    intro call hcall
    rcases List.mem_append.mp hcall with hcall | hcall
    · exact hs.requests call hcall
    · rw [List.mem_singleton.mp hcall]
      exact hv
  | moved c call stage hc hrun hcalls heffect =>
    have hrequests : ∀ call ∈ t.calls, call.dto.valid = true := by
      intro call' hcall
      rw [hcalls] at hcall
      rcases List.mem_or_eq_of_mem_set hcall with hcall | rfl
      · exact hs.requests call' hcall
      · exact hs.requests call (List.mem_of_getElem? hc)
    refine ⟨hrequests, ?_⟩
    cases heffect with
    | same hsettings => rw [hsettings]; exact hs.row
    | written row hw hsettings =>
      rw [hsettings]
      rintro settings ⟨⟩
      refine write_inRange (payload_inRange (hs.requests call (List.mem_of_getElem? hc))) ?_ hw
      cases hold : s.settings with
      | none => exact defaults_inRange
      | some settings => exact hs.row settings hold

/-! ## The fuel rule -/

theorem rate_pos (fuelType : GeneratorFuelType) (p : ℚ) : 0 < Fuel.estimateFuelConsumptionRate fuelType p := by
  have hrows : ∀ row ∈ Fuel.consumptionTable fuelType, 0 < row.litresPerHour := by
    cases fuelType <;> decide +kernel
  cases hp : (Fuel.consumptionTable fuelType).find? (p ≤ ·.maxKw) with
  | some bracket =>
    rw [Fuel.estimate_of_find hp]
    exact hrows bracket (List.mem_of_find?_eq_some hp)
  | none =>
    obtain ⟨last, hlast, hrow⟩ := Fuel.rate_le_thumbRate fuelType
    rw [Fuel.estimate_beyond hp]
    calc 0 < last.litresPerHour := hrows last hlast
      _ ≤ Fuel.thumbRate fuelType last.maxKw := hrow last hlast
      _ ≤ Fuel.thumbRate fuelType p := Fuel.thumbRate_mono (StepTable.lt_of_find_none hp hlast).le

/-- A fuel rule that gives a saving in Naira for any energy. -/
structure Works (rule : Savings.FuelRule) : Prop where
  power : 0.1 ≤ rule.ratedPowerKw
  rate : 0 < rule.consumptionRateLPerHr
  naira : ∀ energyKwh, 0 ≤ energyKwh → ∃ naira, rule.costAvoided energyKwh = .num naira ∧ 0 ≤ naira

theorem latestFuelPrice_nonneg (type : GeneratorFuelType) :
    ∃ entry, Fuel.getLatestFuelPrice type = .ok entry ∧ 0 ≤ entry.pricePerLitreNaira := by
  cases type
  · exact ⟨_, rfl, by decide +kernel⟩
  · exact ⟨_, rfl, by decide +kernel⟩

theorem price_nonneg {settings : Settings} (h : InRange settings) (test : Savings.NullTest)
    {entry : Fuel.FuelPriceEntry} (he : 0 ≤ entry.pricePerLitreNaira) :
    ∃ price, test.price (some settings.toUserSettings) entry = .num price ∧ 0 ≤ price := by
  cases hp : settings.customFuelPriceNaira with
  | none => exact ⟨entry.pricePerLitreNaira, by simp [Savings.NullTest.price, Settings.toUserSettings, hp], he⟩
  | some price => exact ⟨price, by simp [Savings.NullTest.price, Settings.toUserSettings, hp], h.price price hp⟩

theorem power_ge {settings : Settings} (h : InRange settings) :
    0.1 ≤ Savings.ratedPowerOf (some settings.toUserSettings) := by
  cases hp : settings.generatorRatedPowerKw with
  | none =>
    have hdefault : Savings.ratedPowerOf (some settings.toUserSettings) = 2.5 := by
      simp [Savings.ratedPowerOf, Settings.toUserSettings, hp]
    rw [hdefault]
    norm_num
  | some power =>
    simp only [Savings.ratedPowerOf, Settings.toUserSettings, hp]
    exact h.power power hp

theorem rule_works {settings : Settings} (h : InRange settings) (test : Savings.NullTest) :
    ∃ rule, Savings.fuelRule test (some settings.toUserSettings) = .ok rule ∧ Works rule := by
  obtain ⟨entry, hentry, he⟩ := latestFuelPrice_nonneg settings.generatorFuelType
  obtain ⟨price, hprice, hp⟩ := price_nonneg h test he
  have hrule : ∃ rule, Savings.fuelRule test (some settings.toUserSettings) = .ok rule ∧
      rule.ratedPowerKw = Savings.ratedPowerOf (some settings.toUserSettings) ∧
      rule.consumptionRateLPerHr = Fuel.estimateFuelConsumptionRate settings.generatorFuelType rule.ratedPowerKw ∧
      rule.fuelPricePerLitreNaira = test.price (some settings.toUserSettings) entry :=
    ⟨_, bind_eq_ok.mpr ⟨entry, hentry, rfl⟩, rfl, rfl, rfl⟩
  obtain ⟨rule, hok, hpower, hrate, hrulePrice⟩ := hrule
  have hrated : 0.1 ≤ rule.ratedPowerKw := hpower ▸ power_ge h
  have hpos : 0 < rule.consumptionRateLPerHr := hrate ▸ rate_pos _ _
  refine ⟨rule, hok, hrated, hpos, ?_⟩
  intro energyKwh henergy
  have hkw : 0 < rule.ratedPowerKw := lt_of_lt_of_le (by norm_num) hrated
  refine ⟨rule.fuelSaved energyKwh * price, ?_, mul_nonneg ?_ hp⟩
  · rw [Savings.FuelRule.costAvoided, hrulePrice, hprice, JsNumber.num_mul]
  · rw [Savings.FuelRule.fuelSaved, if_pos hkw]
    exact mul_nonneg (div_nonneg henergy hkw.le) hpos.le

/-- Whatever the requests are and however they overlap, the savings have a fuel rule that works. -/
theorem settings_usable (hr : (machine firstName lastName).Reach Valid s) (test : Savings.NullTest) :
    ∀ settings ∈ s.settings, ∃ rule, Savings.fuelRule test (some settings.toUserSettings) = .ok rule ∧ Works rule := by
  have hinit : Usable (init firstName lastName) :=
    ⟨fun _ h => absurd h List.not_mem_nil, fun _ h => absurd h (Option.not_mem_none _)⟩
  have hs : Usable s := hr.inv hinit fun _ _ _ hs hv hst => usable_step hst hv hs
  exact fun settings hrow => rule_works (hs.row settings hrow) test

theorem settings_usable_overlapping : ∃ s settings,
    ((machine "Joe" "Bello").only Valid).run (init "Joe" "Bello") overlapping = some s ∧
      s.settings = some settings ∧ settings.customFuelPriceNaira = some 1400.01 ∧
      ∃ rule, Savings.fuelRule .strict (some settings.toUserSettings) = .ok rule ∧ Works rule := by
  have hrun : (((machine "Joe" "Bello").only Valid).run (init "Joe" "Bello") overlapping).map
      (fun s => s.settings.bind (·.customFuelPriceNaira)) = some (some 1400.01) := by decide +kernel
  obtain ⟨s, hs, hprice⟩ := Option.map_eq_some_iff.mp hrun
  obtain ⟨settings, hsettings, hprice⟩ := Option.bind_eq_some_iff.mp hprice
  exact ⟨s, settings, hs, hsettings, hprice,
    settings_usable (Machine.path_of_run_only hs) .strict settings hsettings⟩

end IntellApi.PersonalSettings
