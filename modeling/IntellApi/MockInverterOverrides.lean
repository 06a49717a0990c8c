import IntellApi.MockInverterServerSound
import Mathlib.Tactic.GCongr
import Mathlib.Tactic.Positivity

/-!
# Overrides of the mock devices

As long as an override lasts, each tick drains or charges the battery by no
less than its power says. It lasts at most eight hours, and the first tick
after its end gives it up.
-/

namespace IntellApi.MockInverterServer

variable {exp : ℚ → ℚ} {number : Json → JsNumber} {devices devices' : Devices} {d : DeviceState} {a : Action} {now : Int}

/-! ## What an override does -/

/-- No request for this device, and the clock of the ticks stays before `t`. -/
def Action.Spares (id : String) (t : ℚ) : Action → Prop
  | .tick now draws => now < t ∧ ∀ i, 0 ≤ (draws i).solar
  | .override _ other _ _ => other ≠ id

def countTicks (_ : Devices) (a : Action) (_ : Devices) (n : Nat) : Nat :=
  match a with
  | .tick .. => n + 1
  | .override .. => n

/-- What a tick adds to the charge at least, and takes from it at least, in percent. -/
def gain (d : DeviceState) : ℚ := (d.panelCapacityKw * 0.95 - 1.3) * (tickDurationMinutes / 60) / d.batteryCapacityKwh * 100
def drain (d : DeviceState) : ℚ := 2.5 * (tickDurationMinutes / 60) / d.batteryCapacityKwh * 100

/-- The same device under the same override. -/
structure Same (d d' : DeviceState) : Prop where
  installationId : d'.installationId = d.installationId
  panelCapacityKw : d'.panelCapacityKw = d.panelCapacityKw
  batteryCapacityKwh : d'.batteryCapacityKwh = d.batteryCapacityKwh
  mode : d'.mode = d.mode
  modeExpiresAt : d'.modeExpiresAt = d.modeExpiresAt

theorem revert_of_lt {t : ℚ} (he : d.modeExpiresAt = some t) (h : now < t) : revert now d = d := by
  unfold revert
  rw [he, Option.any_some, if_neg]
  simpa using fun _ => h

theorem Same.tick {d' : DeviceState} {t : ℚ} (h : Same d d') (he : d.modeExpiresAt = some t) (ht : now < t)
    (draws : Draws) : Same d (tickDevice exp now draws d') := by
  have hr := revert_of_lt (h.modeExpiresAt.trans he) ht
  unfold tickDevice
  rw [hr]
  exact ⟨h.installationId, h.panelCapacityKw, h.batteryCapacityKwh, h.mode, h.modeExpiresAt⟩

theorem batterySoc_tick {d' : DeviceState} {t : ℚ} (he : d'.modeExpiresAt = some t) (ht : now < t) (draws : Draws) :
    (tickDevice exp now draws d').batterySoc =
      socAfter d' ((powers exp now draws d').1 - (powers exp now draws d').2) := by
  unfold tickDevice
  rw [revert_of_lt he ht]

theorem socAfter_mono (hc : 0 < d.batteryCapacityKwh) {net net' : ℚ} (h : net ≤ net') : socAfter d net ≤ socAfter d net' := by
  unfold socAfter clamp tickDurationMinutes
  gcongr

theorem powers_discharging (draws : Draws) (h : d.mode = .discharging) :
    (powers exp now draws d).1 - (powers exp now draws d).2 ≤ -2.5 := by
  have := (clamp_mem (3.2 + noise 0.3 draws.load) (show (2.5 : ℚ) ≤ 4 by norm_num)).1
  simp only [powers, h]
  linarith

theorem powers_charging (draws : Draws) (h : d.mode = .charging) (hp : 0 ≤ d.panelCapacityKw) (hd : 0 ≤ draws.solar) :
    d.panelCapacityKw * 0.95 - 1.3 ≤ (powers exp now draws d).1 - (powers exp now draws d).2 := by
  have hl := (clamp_mem (0.8 + noise 0.15 draws.load) (show (0.3 : ℚ) ≤ 1.2 by norm_num)).2
  have hs : d.panelCapacityKw * 0.95 - 0.1 ≤ clamp (d.panelCapacityKw * 0.95 + noise 0.1 draws.solar) 0 d.panelCapacityKw := by
    refine le_max_of_le_right (le_min ?_ ?_)
    · norm_num
      linarith
    · unfold noise
      norm_num at *
      linarith
  simp only [powers, h]
  linarith

/-- Draining step by step: what is left after one more tick. -/
theorem socAfter_drained {soc₀ x : ℚ} (hx : 0 ≤ x) (hs : d.batterySoc ≤ max 0 soc₀)
    (hd : drain d = x) : socAfter d (-2.5) ≤ max 0 (soc₀ - x) := by
  have he : d.batterySoc + -2.5 * (tickDurationMinutes / 60) / d.batteryCapacityKwh * 100 = d.batterySoc - x := by
    rw [← hd, drain]
    ring
  unfold socAfter clamp
  rw [he]
  refine max_le (le_max_left ..) ((min_le_right ..).trans ?_)
  rcases le_max_iff.mp hs with h | h
  · exact le_max_of_le_left (by linarith)
  · exact le_max_of_le_right (by linarith)

theorem socAfter_charged {soc₀ x : ℚ} (hs : min 100 soc₀ ≤ d.batterySoc) (hx : 0 ≤ x) (hd : gain d = x) :
    min 100 (soc₀ + x) ≤ socAfter d (d.panelCapacityKw * 0.95 - 1.3) := by
  unfold socAfter clamp
  rw [show (d.panelCapacityKw * 0.95 - 1.3) * (tickDurationMinutes / 60) / d.batteryCapacityKwh * 100 = x from hd]
  refine le_max_of_le_right (le_min (min_le_left ..) ?_)
  rcases min_le_iff.mp hs with h | h
  · exact (min_le_left ..).trans (by linarith)
  · exact (min_le_right ..).trans (by linarith)

/-- A request for another device, and one for this device that is refused, leave the device alone. -/
theorem mem_setDeviceMode {id : String} {mode : DeviceMode} {minutes : ℚ} (h : d ∈ devices)
    (hid : id ≠ d.installationId) : d ∈ setDeviceMode devices id mode minutes now := by
  obtain ⟨j, hj⟩ := List.mem_iff_getElem?.mp h
  refine List.mem_of_getElem? (i := j) ?_
  rw [setDeviceMode, List.getElem?_modify, hj, Option.map_eq_map, Option.map_some]
  split
  · rename_i he
    obtain ⟨hlt, hd⟩ := List.getElem?_eq_some_iff.mp hj
    have := @List.findIdx_getElem _ (·.installationId = id) devices (he ▸ hlt)
    simp only [he, hd, decide_eq_true_eq] at this
    exact absurd this.symm hid
  · rfl

theorem mem_override {id : String} {mode : DeviceMode} {body : Option Json} (h : d ∈ devices)
    (hid : id ≠ d.installationId) : d ∈ (handleOverride number mode devices id body now).1 := by
  rw [handleOverride_devices]
  split
  · exact h
  · exact mem_setDeviceMode h hid

section
variable {t : ℚ} {n : Nat}

theorem gain_nonneg (hp : 3 ≤ d.panelCapacityKw) (hc : 0 < d.batteryCapacityKwh) : 0 ≤ gain d := by
  have : 0 ≤ d.panelCapacityKw * 0.95 - 1.3 := by
    norm_num
    linarith
  unfold gain tickDurationMinutes
  positivity

theorem drain_nonneg (hc : 0 < d.batteryCapacityKwh) : 0 ≤ drain d := by
  unfold drain tickDurationMinutes
  positivity

theorem Same.drain {d' : DeviceState} (h : Same d d') : MockInverterServer.drain d' = MockInverterServer.drain d := by
  unfold MockInverterServer.drain
  rw [h.batteryCapacityKwh]

theorem Same.gain {d' : DeviceState} (h : Same d d') : MockInverterServer.gain d' = MockInverterServer.gain d := by
  unfold MockInverterServer.gain
  rw [h.batteryCapacityKwh, h.panelCapacityKw]

/-- The bound on the charge after so many ticks under an override. -/
def Forced (d d' : DeviceState) (n : Nat) : Prop :=
  (d.mode = .discharging → d'.batterySoc ≤ max 0 (d.batterySoc - n * drain d)) ∧
    (d.mode = .charging → min 100 (d.batterySoc + n * gain d) ≤ d'.batterySoc)

theorem Forced.tick {d' : DeviceState} {draws : Draws} (h : Forced d d' n) (hs : Same d d')
    (he : d.modeExpiresAt = some t) (ht : now < t) (hp : 3 ≤ d.panelCapacityKw) (hc : 0 < d.batteryCapacityKwh)
    (hd : 0 ≤ draws.solar) : Forced d (tickDevice exp now draws d') (n + 1) := by
  have hsoc := @batterySoc_tick exp _ _ _ (hs.modeExpiresAt.trans he) ht draws
  have hc' : 0 < d'.batteryCapacityKwh := hs.batteryCapacityKwh ▸ hc
  have hstep : ∀ x : ℚ, ((n + 1 : Nat) : ℚ) * x = n * x + x := by
    intro x
    push_cast
    ring
  refine ⟨fun hm => ?_, fun hm => ?_⟩
  · rw [hsoc, hstep, ← sub_sub]
    exact (socAfter_mono hc' (powers_discharging draws (hs.mode.trans hm))).trans
      (socAfter_drained (drain_nonneg hc) (h.1 hm) hs.drain)
  · have hpc : 0 ≤ d'.panelCapacityKw := by
      rw [hs.panelCapacityKw]
      linarith
    rw [hsoc, hstep, ← add_assoc]
    exact (socAfter_charged (h.2 hm) (gain_nonneg hp hc) hs.gain).trans
      (socAfter_mono hc' (powers_charging draws (hs.mode.trans hm) hpc hd))

/-- As long as it lasts, an override drains or charges its battery with every tick, down to empty or up to full. -/
theorem override_drives (h : (machine exp number).Reach Lts.Free devices) (hd : d ∈ devices)
    (he : d.modeExpiresAt = some t) (hp : ((machine exp number).noting 0 countTicks).Path
      (fun _ a => a.Spares d.installationId t) (devices, 0) (devices', n)) :
    ∃ d' ∈ devices', Same d d' ∧ Forced d d' n := by
  have hr := (inv_of_reach h).inRange d hd
  refine hp.keep (I := fun s => ∃ d' ∈ s.1, Same d d' ∧ Forced d d' s.2) ?_
    ⟨d, hd, ⟨rfl, rfl, rfl, rfl, rfl⟩, fun _ => by simp, fun _ => by simp⟩
  rintro s a s' ⟨d', hd', hs, hf⟩ ho hst
  obtain ⟨hstep, hn⟩ := Lts.Machine.step_noting hst
  cases a with
  | tick now draws =>
    rw [← Option.some.inj hstep, hn]
    exact ⟨_, List.mem_map.mpr ⟨d', hd', rfl⟩, hs.tick he ho.1 _,
      hf.tick hs he ho.1 hr.panelCapacityKw.1 hr.batteryCapacityKwh (ho.2 _)⟩
  | override mode id body now =>
    rw [← Option.some.inj hstep, hn]
    exact ⟨d', mem_override hd' (by rw [hs.installationId]; exact ho), hs, hf⟩

end

def halves : Draws := ⟨1 / 2, 1 / 2, 1 / 2, 1 / 2, 1 / 2, 1 / 2, 1 / 2, 1 / 2⟩

/-- Site C is to be discharged for the default hour. -/
def discharged : Devices := (handleOverride (fun _ => .nan) .discharging init "100003" none 0).1

def tickTwice (devices : Devices) : Devices :=
  tick (fun _ => 0) 30000 (fun _ => halves) (tick (fun _ => 0) 0 (fun _ => halves) devices)

theorem siteC_discharged : overridden .discharging 60 0 siteC ∈ discharged := by
  have : discharged = [siteA, siteB, overridden .discharging 60 0 siteC] := rfl
  rw [this]
  simp

theorem override_drives_siteC : ∃ d ∈ tickTwice discharged, d.mode = .discharging ∧ d.batterySoc ≤ 18 - 5 / 6 := by
  have hr : (machine (fun _ => 0) fun _ => .nan).Reach Lts.Free discharged :=
    .snoc (a := .override .discharging "100003" none 0) .refl trivial rfl
  have hp : ((machine (fun _ => 0) fun _ => .nan).noting 0 countTicks).Path
      (fun _ a => a.Spares "100003" 3600000) (discharged, 0) (tickTwice discharged, 2) :=
    .snoc (a := .tick 30000 fun _ => halves)
      (.snoc (a := .tick 0 fun _ => halves) .refl ⟨by norm_num, fun _ => by norm_num [halves]⟩ rfl)
      ⟨by norm_num, fun _ => by norm_num [halves]⟩ rfl
  obtain ⟨d, hm, hs, hf⟩ := override_drives hr siteC_discharged
    (show _ = some (3600000 : ℚ) by norm_num [overridden, maxDurationMinutes]) hp
  refine ⟨d, hm, hs.mode, (hf.1 rfl).trans ?_⟩
  norm_num [overridden, siteC, drain, tickDurationMinutes]

/-! ## The end of an override -/

/-- When an override was last asked for, by device, and the time of the tick that has just been. -/
structure Log where
  asked : String → Int
  ticked : Option Int

def logging (number : Json → JsNumber) (_ : Devices) (a : Action) (_ : Devices) (log : Log) : Log :=
  match a with
  | .tick now _ => { log with ticked := some now }
  | .override mode id body now =>
    ⟨if (duration number mode body).isSome then Function.update log.asked id now else log.asked, none⟩

/-- A device is overridden until an instant at most eight hours after it was asked for. -/
def Expires (asked : Int) (d : DeviceState) : Prop :=
  match d.modeExpiresAt with
  | none => d.mode = .normal
  | some t => d.mode ≠ .normal ∧ t ≤ asked + 480 * 60000

structure Logged (s : Devices × Log) : Prop where
  expires : ∀ d ∈ s.1, Expires (s.2.asked d.installationId) d
  ticked : ∀ now, s.2.ticked = some now → ∀ d ∈ s.1, ∀ t, d.modeExpiresAt = some t → now < t

theorem expires_overridden (mode : DeviceMode) (minutes : ℚ) (now : Int) (d : DeviceState) :
    Expires now (overridden mode minutes now d) := by
  have hle : (if 0 < minutes then min minutes maxDurationMinutes else defaultDurationMinutes) ≤ 480 := by
    split
    · exact min_le_right ..
    · norm_num [defaultDurationMinutes]
  cases mode with
  | normal => exact rfl
  | charging => exact ⟨(by decide : DeviceMode.charging ≠ .normal), by linarith⟩
  | discharging => exact ⟨(by decide : DeviceMode.discharging ≠ .normal), by linarith⟩

theorem expires_revert {asked : Int} (h : Expires asked d) (now : Int) :
    Expires asked (revert now d) ∧ ∀ t, (revert now d).modeExpiresAt = some t → now < t := by
  unfold revert
  split
  · exact ⟨rfl, nofun⟩
  · rename_i hn
    refine ⟨h, fun t ht => ?_⟩
    rw [Expires, ht] at h
    rw [ht, Option.any_some, decide_eq_true_eq] at hn
    exact not_le.mp fun hle => hn ⟨h.1, hle⟩

theorem tickDevice_mode (draws : Draws) (d : DeviceState) :
    (tickDevice exp now draws d).mode = (revert now d).mode ∧
      (tickDevice exp now draws d).modeExpiresAt = (revert now d).modeExpiresAt := ⟨rfl, rfl⟩

/-- After a request: the device it was for, and the others as they were. -/
theorem mem_setDeviceMode_cases {id : String} {mode : DeviceMode} {minutes : ℚ}
    (hn : (devices.map (·.installationId)).Nodup) (h : d ∈ setDeviceMode devices id mode minutes now) :
    (d ∈ devices ∧ d.installationId ≠ id) ∨
      ∃ e ∈ devices, e.installationId = id ∧ d = overridden mode minutes now e := by
  obtain ⟨j, hj⟩ := List.mem_iff_getElem?.mp h
  rw [setDeviceMode, List.getElem?_modify] at hj
  obtain ⟨e, he, hd⟩ := Option.map_eq_some_iff.mp hj
  have hm := List.mem_of_getElem? he
  split at hd
  · rename_i hij
    obtain ⟨hlt, hed⟩ := List.getElem?_eq_some_iff.mp he
    have := @List.findIdx_getElem _ (·.installationId = id) devices (hij ▸ hlt)
    simp only [hij, hed, decide_eq_true_eq] at this
    exact .inr ⟨e, hm, this, hd.symm⟩
  · rename_i hij
    subst hd
    refine .inl ⟨hm, fun hid => hij ?_⟩
    have hlt : devices.findIdx (·.installationId = id) < devices.length :=
      List.findIdx_lt_length_of_exists ⟨e, hm, by simpa using hid⟩
    have hf := @List.findIdx_getElem _ (·.installationId = id) devices hlt
    obtain ⟨hj', hej⟩ := List.getElem?_eq_some_iff.mp he
    have hinj := (List.nodup_iff_injective_get.mp hn)
    have hi : (⟨devices.findIdx (·.installationId = id), by rwa [List.length_map]⟩ :
        Fin (devices.map (·.installationId)).length) = ⟨j, by rwa [List.length_map]⟩ := by
      apply hinj
      simp only [List.get_eq_getElem, List.getElem_map, hej, hid]
      exact of_decide_eq_true hf
    exact congrArg Fin.val hi

theorem logged_step {s s' : Devices × Log} (hi : Inv s.1) (h : Logged s)
    (hs : ((machine exp number).noting ⟨fun _ => 0, none⟩ (logging number)).step s a = some s') : Logged s' := by
  obtain ⟨hst, hn⟩ := Lts.Machine.step_noting hs
  cases a with
  | tick now draws =>
    have ht := (Option.some.inj hst).symm
    constructor
    · intro d hd
      rw [ht] at hd
      obtain ⟨e, he, rfl⟩ := List.mem_map.mp hd
      rw [hn, tickDevice_id]
      exact (expires_revert (h.expires e he) now).1
    · intro now' hnow d hd t hdt
      rw [hn] at hnow
      cases hnow
      rw [ht] at hd
      obtain ⟨e, he, rfl⟩ := List.mem_map.mp hd
      exact (expires_revert (h.expires e he) now).2 t hdt
  | override mode id body now =>
    have ht : s'.1 = _ := (Option.some.inj hst).symm.trans (handleOverride_devices number mode s.1 id body now)
    have hids : (s.1.map (·.installationId)).Nodup := by rw [hi.ids]; decide
    refine ⟨fun d hd => ?_, fun now' hnow => ?_⟩
    · rw [ht] at hd
      rw [hn, logging]
      cases hm : duration number mode body with
      | none =>
        rw [hm] at hd
        exact h.expires d hd
      | some minutes =>
        rw [hm] at hd
        rw [Option.isSome_some, if_pos rfl]
        dsimp only
        rcases mem_setDeviceMode_cases hids hd with ⟨hd, hne⟩ | ⟨e, -, he, rfl⟩
        · rw [Function.update_of_ne hne]
          exact h.expires d hd
        · rw [overridden_id, he, Function.update_self]
          exact expires_overridden ..
    · rw [hn] at hnow
      cases hnow

/-- Nobody can override a device for more than eight hours, and an override that has expired ends with the next tick. -/
theorem override_ends {s : Devices × Log} (h : ((machine exp number).noting ⟨fun _ => 0, none⟩ (logging number)).Reach
    Lts.Free s) (hd : d ∈ s.1) (hm : d.mode ≠ .normal) :
    ∃ t, d.modeExpiresAt = some t ∧ t ≤ s.2.asked d.installationId + 480 * 60000 ∧
      ∀ now, s.2.ticked = some now → now < t := by
  have hl : Inv s.1 ∧ Logged s := by
    refine h.inv (I := fun s => Inv s.1 ∧ Logged s)
      ⟨⟨rfl, inRange_init⟩, ?_, fun now hnow => by cases hnow⟩ ?_
    · intro d hd
      simp only [Lts.Machine.noting, machine, init, List.mem_cons, List.not_mem_nil, or_false] at hd
      rcases hd with rfl | rfl | rfl <;> rfl
    · intro s a s' hi _ hs
      exact ⟨inv_step hi.1 (Lts.Machine.step_noting hs).1, logged_step hi.1 hi.2 hs⟩
  have he := hl.2.expires d hd
  unfold Expires at he
  split at he
  · exact absurd he hm
  · rename_i t ht
    exact ⟨t, ht, he.2, fun now hnow => hl.2.ticked now hnow d hd t ht⟩

theorem override_ends_siteC : ∃ t : ℚ,
    (tickDevice (fun _ => 0) 30000 halves (overridden .discharging 60 0 siteC)).modeExpiresAt = some t ∧
      (30000 : Int) < t ∧ t ≤ (0 : Int) + 480 * 60000 := by
  have hd : tickDevice (fun _ => 0) 30000 halves (overridden .discharging 60 0 siteC) ∈
      tick (fun _ => 0) 30000 (fun _ => halves) discharged :=
    List.mem_map.mpr ⟨_, siteC_discharged, rfl⟩
  have hr : ((machine (fun _ => 0) fun _ => .nan).noting ⟨fun _ => 0, none⟩ (logging fun _ => .nan)).Reach Lts.Free
      (tick (fun _ => 0) 30000 (fun _ => halves) discharged, ⟨Function.update (fun _ => 0) "100003" 0, some 30000⟩) :=
    .snoc (a := .tick 30000 fun _ => halves) (.snoc (a := .override .discharging "100003" none 0) .refl trivial rfl)
      trivial rfl
  have hm : (tickDevice (fun _ => 0) 30000 halves (overridden .discharging 60 0 siteC)).mode ≠ .normal := by
    have he := @revert_of_lt (overridden .discharging 60 0 siteC) 30000 _ rfl (by norm_num [maxDurationMinutes])
    rw [(tickDevice_mode ..).1, he]
    decide
  obtain ⟨t, ht, hle, hlt⟩ := override_ends hr hd hm
  exact ⟨t, ht, hlt 30000 rfl, by simpa [tickDevice_id, overridden_id, siteC] using hle⟩

end IntellApi.MockInverterServer
