import IntellApi.MockInverterServerSound

/-!
# Verified systems

Before an inverter is connected, its brand is asked for the system. Whatever
the brand answers, a refusal is a 400, and Growatt and Sunsynk systems have the
serial number of a device that the brand lists. The mock server has a system
for almost every token, and what it verified can be read in every later state.
-/

namespace IntellApi.InverterAdapters

/-! ## Refusals -/

def OnlyBadRequests {α : Type} (x : Except AdapterError α) : Prop := ∀ e, x = .error e → e.httpStatus = 400

section
variable {α β : Type}

theorem onlyBadRequests_throw (message : String) :
    OnlyBadRequests (throw (.badRequest message) : Except AdapterError α) := by
  intro e h
  cases h
  rfl

theorem onlyBadRequests_pure (a : α) : OnlyBadRequests (pure a : Except AdapterError α) := by
  intro e h
  cases h

theorem OnlyBadRequests.bind {x : Except AdapterError α} {f : α → Except AdapterError β} (hx : OnlyBadRequests x)
    (hf : ∀ a, OnlyBadRequests (f a)) : OnlyBadRequests (x >>= f) := by
  intro e h
  cases hr : x with
  | error e' =>
    rw [hr] at h
    cases h
    exact hx e hr
  | ok a =>
    rw [hr] at h
    exact hf a e h

end

variable {toLowerCase : String → String} {allowedTokens : List String} {accessToken : String}
  {me : Reply (Option String)} {installations : String → InstallationsResponse} {system : VerifiedSystem}

theorem onlyBadRequests_verifyInstallation (api : DiagnosticsApi) :
    OnlyBadRequests (verifyInstallation api me installations) := by
  unfold verifyInstallation
  split
  · exact onlyBadRequests_throw _
  · split
    · exact onlyBadRequests_pure _
    · exact onlyBadRequests_throw _

theorem onlyBadRequests_sandbox :
    OnlyBadRequests
      (SandboxAdapter.verifyAndGetSandboxSystem toLowerCase allowedTokens accessToken me installations) := by
  refine OnlyBadRequests.bind ?_ fun _ => onlyBadRequests_verifyInstallation _
  unfold SandboxAdapter.validateSandboxToken
  split
  · exact onlyBadRequests_pure _
  · exact onlyBadRequests_throw _

section
open GrowattAdapter
variable {plants : Reply (ListResponse (Option String))} {devices : String → Reply (ListResponse Device)}

theorem onlyBadRequests_growatt : OnlyBadRequests (verifyAndGetGrowattSystem plants devices) := by
  unfold verifyAndGetGrowattSystem
  dsimp only
  split
  · exact onlyBadRequests_throw _
  · split
    · exact onlyBadRequests_throw _
    · split
      · split
        · exact onlyBadRequests_throw _
        · exact onlyBadRequests_pure _
      · exact onlyBadRequests_throw _
    · exact onlyBadRequests_throw _
  · exact onlyBadRequests_throw _

/-- It is polled under a serial number that is not empty. -/
theorem growatt_listed (h : verifyAndGetGrowattSystem plants devices = .ok system) :
    ∃ ds, devices system.installationId = .ok ⟨0, ds⟩ ∧ ∃ d ∈ ds, (d.type = 1 ∨ d.type = 2) ∧ d.deviceSn ≠ "" ∧
      system.serialNumber = d.deviceSn ∧ system.brandDeviceId = some d.deviceSn := by
  unfold verifyAndGetGrowattSystem at h
  dsimp only at h
  split at h
  · cases h
  · rename_i plantId plantIds
    split at h
    · cases h
    · rename_i d ds hds
      split at h
      · rename_i device hf
        split at h
        · cases h
        · rename_i hsn
          cases h
          refine ⟨d :: ds, hds, device, List.mem_of_find?_eq_some hf, ?_, hsn, rfl, rfl⟩
          simpa using List.find?_some hf
      · cases h
    · cases h
  · cases h

end

section
open SunsynkAdapter
variable {token : Reply TokenResponse} {stations : String → Reply (ListResponse Station)}
  {devices : String → Nat → Reply (ListResponse DeviceItem)}

theorem onlyBadRequests_sunsynk : OnlyBadRequests (verifyAndGetSunsynkSystem token stations devices) := by
  refine OnlyBadRequests.bind ?_ fun accessToken => ?_
  · unfold getAccessToken
    split
    · exact onlyBadRequests_throw _
    · split
      · exact onlyBadRequests_throw _
      · exact onlyBadRequests_pure _
  · split
    · exact onlyBadRequests_throw _
    · split
      · exact onlyBadRequests_throw _
      · exact onlyBadRequests_pure _
      · exact onlyBadRequests_throw _
    · exact onlyBadRequests_throw _

/-- An inverter, unless the station has none. -/
theorem sunsynk_listed (h : verifyAndGetSunsynkSystem token stations devices = .ok system) :
    ∃ accessToken station ds, system.installationId = toString station ∧
      devices accessToken station = .ok ⟨true, ds⟩ ∧
      ∃ d ∈ ds, (d.deviceType = "INVERTER" ∨ ∀ other ∈ ds, other.deviceType ≠ "INVERTER") ∧
        system.serialNumber = d.deviceSn ∧ system.brandDeviceId = some d.deviceSn := by
  obtain ⟨accessToken, -, h⟩ := bind_eq_ok.mp h
  split at h
  · cases h
  · rename_i station stations hst
    split at h
    · cases h
    · rename_i d ds hds
      cases h
      refine ⟨accessToken, station.id, d :: ds, rfl, hds, _, ?_, ?_, rfl, rfl⟩
      · cases hf : (d :: ds).find? (·.deviceType = "INVERTER") with
        | none => exact List.mem_cons_self
        | some device => exact List.mem_of_find?_eq_some hf
      · cases hf : (d :: ds).find? (·.deviceType = "INVERTER") with
        | none => exact .inr fun other ho => by simpa using List.find?_eq_none.mp hf other ho
        | some device => exact .inl (by simpa using List.find?_some hf)
    · cases h
  · cases h

end

/-- Whatever the brand answers, who gets no system is told so with a 400. -/
theorem verification_refused (e : AdapterError) :
    (∀ me installations, VictronAdapter.verifyAndGetVictronSystem me installations = .error e → e.httpStatus = 400) ∧
    (∀ toLowerCase allowedTokens accessToken me installations,
      SandboxAdapter.verifyAndGetSandboxSystem toLowerCase allowedTokens accessToken me installations = .error e →
        e.httpStatus = 400) ∧
    (∀ plants devices, GrowattAdapter.verifyAndGetGrowattSystem plants devices = .error e → e.httpStatus = 400) ∧
    ∀ token stations devices, SunsynkAdapter.verifyAndGetSunsynkSystem token stations devices = .error e →
      e.httpStatus = 400 :=
  ⟨fun _ _ => onlyBadRequests_verifyInstallation victronApi e, fun _ _ _ _ _ => onlyBadRequests_sandbox e,
    fun _ _ => onlyBadRequests_growatt e, fun _ _ _ => onlyBadRequests_sunsynk e⟩

end IntellApi.InverterAdapters

namespace IntellApi.MockInverterServer

open InverterAdapters

variable {exp : ℚ → ℚ} {number : Json → JsNumber} {devices devices' : Devices} {d : DeviceState} {a : Action}
  {toLowerCase : String → String} {allowedTokens : List String} {accessToken token : String} {system : VerifiedSystem}

/-! ## The mock server -/

/-- Under which ids a device is asked for. -/
def ids (d : DeviceState) : String × Nat := (d.installationId, d.victronUserId)

theorem revert_ids (now : Int) (d : DeviceState) : ids (revert now d) = ids d := by
  unfold revert
  split <;> rfl

theorem ids_step (hs : step exp number devices a = some devices') : devices'.map ids = devices.map ids := by
  cases a with
  | tick now draws =>
    cases hs
    rw [tick, List.map_map]
    exact List.map_congr_left fun d _ => revert_ids now d
  | override mode id body now =>
    cases hs
    rw [handleOverride_devices]
    split
    · rfl
    · exact map_modify_same _ (fun d => by cases mode <;> rfl) ..

theorem ids_of_reach (h : (machine exp number).Reach Lts.Free devices) :
    devices.map ids = [("100001", 9001), ("100002", 9002), ("100003", 9003)] :=
  h.inv (I := fun devices => devices.map ids = [("100001", 9001), ("100002", 9002), ("100003", 9003)]) rfl
    fun _ _ _ hi _ hs => (ids_step hs).trans hi

/-- A user's installation is that of his device, under the device's own id. -/
theorem installations_of_ids (h : devices.map ids = [("100001", 9001), ("100002", 9002), ("100003", 9003)]) {user : Nat}
    (hu : user ∈ [9001, 9002, 9003]) :
    ∃ d ∈ devices, ∃ site, installations devices (toString user) = ⟨true, [site]⟩ ∧
      toString site.idSite = d.installationId := by
  have hparse : JsNumber.parseInt (toString user) = some (user : Int) := by
    revert user
    decide
  have hsome : ∃ d ∈ devices, d.victronUserId = user := by
    have : user ∈ (devices.map ids).map (·.2) := h ▸ hu
    obtain ⟨i, hi, rfl⟩ := List.mem_map.mp this
    obtain ⟨d, hd, rfl⟩ := List.mem_map.mp hi
    exact ⟨d, hd, rfl⟩
  unfold installations
  cases hf : devices.find? fun d => JsNumber.parseInt (toString user) = some (d.victronUserId : Int) with
  | none =>
    obtain ⟨d, hd, hdu⟩ := hsome
    have := List.find?_eq_none.mp hf d hd
    rw [hparse, hdu] at this
    exact absurd (decide_eq_true rfl) this
  | some d =>
    have hd := List.mem_of_find?_eq_some hf
    have hid : ∀ id ∈ ["100001", "100002", "100003"], toString ((JsNumber.parseInt id).getD 0).toNat = id := by decide
    have hmem : d.installationId ∈ (devices.map ids).map (·.1) := List.mem_map_of_mem (List.mem_map_of_mem hd)
    rw [h] at hmem
    exact ⟨d, hd, _, rfl, hid _ hmem⟩

theorem installations_unknown {idUser : String} (h : JsNumber.parseInt idUser = none) :
    installations devices idUser = ⟨true, []⟩ := by
  unfold installations
  rw [List.find?_eq_none.mpr]
  intro d hd
  simp [h]

/-- The server knows a user of the token, if only by default. -/
def Known (token : String) : Prop := token ≠ "" ∧ token ∉ inherited ∧ token ≠ "__proto__"

theorem tokenToUser_mem (token : String) : (tokenToUser token).getD 9001 ∈ [9001, 9002, 9003] := by
  unfold tokenToUser
  split
  · decide
  · split
    · decide
    · split <;> decide

theorem verifyInstallation_mock (h : (machine exp number).Reach Lts.Free devices) (api : DiagnosticsApi) :
    (Known token ∧ ∃ d ∈ devices, ∃ system, verifyInstallation api (usersMe token) (installations devices) = .ok system ∧
      system.installationId = d.installationId) ∨
    (¬Known token ∧ ∀ system, verifyInstallation api (usersMe token) (installations devices) ≠ .ok system) := by
  unfold usersMe
  split
  · rename_i h0
    exact .inr ⟨fun hk => hk.1 h0, nofun⟩
  · rename_i h0
    split
    · rename_i hi
      refine .inr ⟨fun hk => hk.2.1 hi, fun system hs => ?_⟩
      rw [verifyInstallation, Option.getD_none, installations_unknown (by decide)] at hs
      cases hs
    · rename_i hi
      split
      · rename_i hp
        refine .inr ⟨fun hk => hk.2.2 hp, fun system hs => ?_⟩
        rw [verifyInstallation, Option.getD_some, installations_unknown (by decide)] at hs
        cases hs
      · rename_i hp
        obtain ⟨d, hd, site, hs, hid⟩ := installations_of_ids (ids_of_reach h) (tokenToUser_mem token)
        refine .inl ⟨⟨h0, hi, hp⟩, d, hd, verifiedInstallation site, ?_, hid⟩
        rw [verifyInstallation, Option.getD_some, hs]
        rfl

/-- Every allowed token is given a system, unless the server knows no user of it. -/
theorem sandbox_verified_iff (h : (machine exp number).Reach Lts.Free devices) :
    (∃ system, SandboxAdapter.verifyAndGetSandboxSystem toLowerCase allowedTokens accessToken (usersMe token)
      (installations devices) = .ok system) ↔
      (∃ allowed ∈ allowedTokens, toLowerCase allowed = toLowerCase accessToken) ∧ Known token := by
  have hv : SandboxAdapter.validateSandboxToken toLowerCase accessToken allowedTokens = .ok () ↔
      ∃ allowed ∈ allowedTokens, toLowerCase allowed = toLowerCase accessToken := by
    unfold SandboxAdapter.validateSandboxToken
    simp only [List.any_eq_true, decide_eq_true_eq]
    split
    · rename_i ha
      exact iff_of_true rfl ha
    · rename_i ha
      exact iff_of_false nofun ha
  rw [← hv]
  constructor
  · rintro ⟨system, hs⟩
    obtain ⟨_, hallowed, hs⟩ := bind_eq_ok.mp hs
    obtain ⟨hk, -⟩ | ⟨-, hn⟩ := verifyInstallation_mock h sandboxApi
    · exact ⟨hallowed, hk⟩
    · exact absurd hs (hn system)
  · rintro ⟨hallowed, hk⟩
    obtain ⟨-, d, -, system, hs, -⟩ | ⟨hn, -⟩ := verifyInstallation_mock h sandboxApi
    · exact ⟨system, bind_eq_ok.mpr ⟨(), hallowed, hs⟩⟩
    · exact absurd hk hn

/-- A verified system can be read for good, with any token that is not empty. -/
theorem verified_readable (h : (machine exp number).Reach Lts.Free devices)
    (hv : SandboxAdapter.verifyAndGetSandboxSystem toLowerCase allowedTokens accessToken (usersMe token)
      (installations devices) = .ok system)
    (h' : (machine exp number).Reach Lts.Free devices') {token' : String} (ht : token' ≠ "") (string : ℚ → List Char)
    (inverterId : Uuid) (now : Int) :
    ∃ metric, SandboxAdapter.fetchMetrics system.installationId inverterId now
      (diagnostics string devices' token' system.installationId) = .ok metric := by
  obtain ⟨_, -, hv⟩ := bind_eq_ok.mp hv
  obtain ⟨-, d, hd, system', hs, hid⟩ | ⟨-, hn⟩ := verifyInstallation_mock h sandboxApi
  · rw [hs] at hv
    cases hv
    -- the later device under the same id
    have hmem : d.installationId ∈ devices'.map (·.installationId) := by
      rw [(inv_of_reach h').ids, ← (inv_of_reach h).ids]
      exact List.mem_map_of_mem hd
    obtain ⟨d', hd', hid'⟩ := List.mem_map.mp hmem
    rw [hid, ← hid', diagnostics, if_neg ht, find_of_mem (inv_of_reach h').ids hd']
    exact ⟨_, rfl⟩
  · exact absurd hv (hn system)

end IntellApi.MockInverterServer
