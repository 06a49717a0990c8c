import IntellApi.Sessions

/-!
# Deactivated users

`isActive` of a user is written by the admin service, and no request reads it: not login, not refresh, not the
access-token check. So a run goes on after a toggle as it would have without
it (`toggle_forgotten`), and a deactivated user logs in, refreshes and is let
through (`deactivated_goes_on`).
-/

namespace IntellApi.Sessions

open Lts

/-- The state without the flags of the users. -/
def State.forget (s : State) : State :=
  { s with users := fun userId => (s.users userId).map fun user => { user with isActive := false } }

section
variable {sha256 : Token → Hash} {s t : State}

@[simp] theorem forget_forget (s : State) : s.forget.forget = s.forget := by
  simp only [State.forget, Option.map_map]
  rfl

@[simp] theorem forget_users (s : State) (userId : Uuid) :
    s.forget.users userId = (s.users userId).map fun user => { user with isActive := false } := rfl

@[simp] theorem forget_clock (s : State) : s.forget.clock = s.clock := rfl
@[simp] theorem forget_sessions (s : State) : s.forget.sessions = s.sessions := rfl
@[simp] theorem forget_logins (s : State) : s.forget.logins = s.logins := rfl
@[simp] theorem forget_refreshes (s : State) : s.forget.refreshes = s.refreshes := rfl
@[simp] theorem forget_checks (s : State) : s.forget.checks = s.checks := rfl
@[simp] theorem forget_logouts (s : State) : s.forget.logouts = s.logouts := rfl
@[simp] theorem forget_fresh (s : State) (token : Token) : s.forget.fresh sha256 token = s.fresh sha256 token := rfl

@[simp] theorem forget_setSession (s : State) (sessionId : Uuid) (session : Session) :
    (s.setSession sessionId session).forget = s.forget.setSession sessionId session := rfl

@[simp] theorem forget_setLogin (s : State) (p : Nat) (l : Login) :
    (s.setLogin p l).forget = s.forget.setLogin p l := rfl

@[simp] theorem forget_setRefresh (s : State) (p : Nat) (r : Refresh) :
    (s.setRefresh p r).forget = s.forget.setRefresh p r := rfl

@[simp] theorem forget_setCheck (s : State) (p : Nat) (c : Check) :
    (s.setCheck p c).forget = s.forget.setCheck p c := rfl

@[simp] theorem forget_setLogout (s : State) (p : Nat) (l : Logout) :
    (s.setLogout p l).forget = s.forget.setLogout p l := rfl

@[simp] theorem forget_issue (s : State) (token : Token) : (s.issue token).forget = s.forget.issue token := rfl

@[simp] theorem forget_expire (s : State) (sessionId : Uuid) :
    (s.expire sessionId).forget = s.forget.expire sessionId := rfl

/-- A toggle writes the flag and nothing else. -/
theorem toggle_forget (sha256 : Token → Hash) (s : State) (userId : Uuid) (isActive : Bool) :
    (step sha256 s (.adminToggleUserStatus userId isActive)).map State.forget = some s.forget := by
  simp only [step]
  split
  · rename_i user hu
    simp only [Option.map_some, State.forget, Option.some.injEq, State.mk.injEq, and_true, true_and]
    funext id
    by_cases h : id = userId
    · subst h
      rw [Function.update_self, hu]
      rfl
    · rw [Function.update_of_ne h]
  · rfl

theorem signUp_forget (s : State) (userId : Uuid) (user : User) :
    (step sha256 s.forget (.signUp userId user)).map State.forget =
      (step sha256 s (.signUp userId user)).map State.forget := by
  simp only [step, forget_users, Option.map_eq_none_iff]
  by_cases hu : s.users userId = none
  · rw [if_pos hu, if_pos hu]
    simp only [Option.map_some, State.forget, Option.some.injEq, State.mk.injEq, and_true, true_and]
    funext id
    by_cases h : id = userId
    · subst h
      rw [Function.update_self, Function.update_self]
    · rw [Function.update_of_ne h, Function.update_of_ne h, Option.map_map]
      rfl
  · rw [if_neg hu, if_neg hu]

theorem validate_forget (s : State) (p : Nat) (payload : JwtPayload) :
    (step sha256 s.forget (.validate p payload)).map State.forget =
      (step sha256 s (.validate p payload)).map State.forget := by
  simp only [step, forget_checks]
  split
  · by_cases hb : (s.blacklist payload.jti).any (s.clock < ·) = true
    · rw [if_pos hb, if_pos (show (s.forget.blacklist payload.jti).any (s.forget.clock < ·) = true from hb)]
      simp
    · rw [if_neg hb, if_neg (show ¬ (s.forget.blacklist payload.jti).any (s.forget.clock < ·) = true from hb)]
      simp
  · rfl

theorem logout_forget (s : State) (p : Nat) (sessionId : Uuid) (decoded : Option JwtPayload) :
    (step sha256 s.forget (.logout p sessionId decoded)).map State.forget =
      (step sha256 s (.logout p sessionId decoded)).map State.forget := by
  simp only [step, forget_logouts]
  split
  · split
    · rename_i payload
      by_cases ht : payload.exp - s.clock / 1000 > 0
      · rw [if_pos ht, if_pos (show payload.exp - s.forget.clock / 1000 > 0 from ht)]
        have hf := forget_forget (State.setLogout { s with
          blacklist := Function.update s.blacklist payload.jti (some (s.clock + (payload.exp - s.clock / 1000) * 1000)) }
          p (.deactivating sessionId))
        exact congrArg some hf
      · rw [if_neg ht, if_neg (show ¬ payload.exp - s.forget.clock / 1000 > 0 from ht)]
        simp
    · simp
  · rfl

/-- No request reads the flag. -/
theorem step_forget (s : State) (a : Action) :
    (step sha256 s.forget a).map State.forget = (step sha256 s a).map State.forget := by
  cases a with
  | tick ms => exact congrArg some (forget_forget { s with clock := s.clock + ms })
  | signUp userId user => exact signUp_forget s userId user
  | adminToggleUserStatus userId isActive => rw [toggle_forget, toggle_forget, forget_forget]
  | login p userId valid => cases hl : s.logins p <;> cases hu : s.users userId <;> simp [step, hl, hu]
  | oauthLogin p userId => cases hl : s.logins p <;> cases hu : s.users userId <;> simp [step, hl, hu]
  | createSession p sessionId =>
    simp only [step, forget_logins, forget_sessions]
    split <;> simp_all
  | signLogin p refreshToken =>
    simp only [step, forget_logins, forget_fresh]
    split
    · split <;> simp_all
    · rfl
  | persistRefreshToken p =>
    simp only [step, forget_logins, forget_sessions]
    split
    · split <;> simp_all
    · rfl
  | refresh p refreshToken sessionId =>
    simp only [step, forget_refreshes, forget_sessions, forget_clock]
    split
    · split <;> simp_all
    · simp_all
    · rfl
  | expireRefresh p =>
    simp only [step, forget_refreshes]
    split <;> simp_all
  | signRefresh p newRefreshToken =>
    simp only [step, forget_refreshes, forget_users, forget_fresh, Option.map_eq_none_iff]
    split
    · split
      · simp_all
      · split <;> simp_all
    · rfl
  | compareAndSwap p =>
    simp only [step, forget_refreshes, forget_sessions, forget_clock]
    split
    · split
      · split <;> simp_all
      · simp_all
    · rfl
  | setDeviceToken userId sessionId token =>
    simp only [step, forget_sessions, forget_clock]
    split <;> simp_all
  | logout p sessionId decoded => exact logout_forget s p sessionId decoded
  | deactivateSession p =>
    simp only [step, forget_logouts, forget_sessions, forget_clock]
    split
    · split <;> simp_all
    · rfl
  | validate p payload => exact validate_forget s p payload
  | findSessionById p =>
    simp only [step, forget_checks, forget_sessions, forget_clock]
    split
    · split
      · rename_i row _
        by_cases hj : jwtAccepts s.clock row = true <;> split <;> simp_all
      · simp_all
    · rfl
  | expireCheck p =>
    simp only [step, forget_checks]
    split <;> simp_all

theorem run_forget (as : List Action) (s t : State) (h : s.forget = t.forget) :
    ((machine sha256).run s as).map State.forget = ((machine sha256).run t as).map State.forget := by
  induction as generalizing s t with
  | nil => exact congrArg some h
  | cons a as ih =>
    have hstep : (step sha256 s a).map State.forget = (step sha256 t a).map State.forget := by
      rw [← step_forget s, ← step_forget t, h]
    show ((step sha256 s a).bind _).map _ = ((step sha256 t a).bind _).map _
    cases hs : step sha256 s a with
    | none =>
      rw [hs] at hstep
      rw [Option.map_eq_none_iff.mp hstep.symm]
    | some s' =>
      rw [hs] at hstep
      obtain ⟨t', ht, hst⟩ := Option.map_eq_some_iff.mp hstep.symm
      rw [ht]
      exact ih s' t' hst.symm

/-- Whatever is done after a toggle ends as it would have ended without it,
but for the flags. -/
theorem toggle_forgotten {userId : Uuid} {isActive : Bool}
    (h : step sha256 s (.adminToggleUserStatus userId isActive) = some t) (as : List Action) :
    ((machine sha256).run t as).map State.forget = ((machine sha256).run s as).map State.forget := by
  have hf := toggle_forget sha256 s userId isActive
  rw [h] at hf
  exact run_forget as t s (Option.some.inj hf)

end

/-! ## Runs -/

def openSession : List Action :=
  [.signUp 5 ⟨true, true⟩, .login 0 5 true, .createSession 0 1, .signLogin 0 "a", .persistRefreshToken 0]

def afterToggle : List Action :=
  [.login 1 5 true, .createSession 1 2, .signLogin 1 "b", .persistRefreshToken 1, .refresh 0 "a" 1,
    .signRefresh 0 "c", .compareAndSwap 0, .validate 0 ⟨5, 1, 8, 900⟩, .findSessionById 0]

theorem toggle_forgotten_login :
    ∃ s t, (machine id).run init openSession = some s ∧ step id s (.adminToggleUserStatus 5 false) = some t ∧
      ((machine id).run t afterToggle).map State.forget = ((machine id).run s afterToggle).map State.forget := by
  have h0 : (((machine id).run init openSession).bind (step id · (.adminToggleUserStatus 5 false))).isSome = true := by
    decide +kernel
  obtain ⟨t, ht⟩ := Option.isSome_iff_exists.mp h0
  obtain ⟨s, hs, ht⟩ := Option.bind_eq_some_iff.mp ht
  exact ⟨s, t, hs, ht, toggle_forgotten ht afterToggle⟩

/-- A deactivated user logs in, refreshes an older session and is let through. -/
theorem deactivated_goes_on :
    ∃ s u, (machine id).run init (openSession ++ [.adminToggleUserStatus 5 false]) = some s ∧
      ((s.users 5).map (·.isActive), s.logins 1, s.refreshes 0, s.checks 0) = (some false, .idle, .idle, .idle) ∧
      (machine id).run s afterToggle = some u ∧
      ((u.users 5).map (·.isActive), u.logins 1, u.refreshes 0, u.checks 0) =
        (some false, .done 2 "b", .done "a" 1 "c", .accepted ⟨5, 1, 8, 900⟩) := by
  have h0 : ((machine id).run init (openSession ++ [.adminToggleUserStatus 5 false])).map
      (fun s => ((s.users 5).map (·.isActive), s.logins 1, s.refreshes 0, s.checks 0)) =
      some (some false, .idle, .idle, .idle) := by decide +kernel
  have h1 : (((machine id).run init (openSession ++ [.adminToggleUserStatus 5 false])).bind
      ((machine id).run · afterToggle)).map
      (fun u => ((u.users 5).map (·.isActive), u.logins 1, u.refreshes 0, u.checks 0)) =
      some (some false, .done 2 "b", .done "a" 1 "c", .accepted ⟨5, 1, 8, 900⟩) := by decide +kernel
  obtain ⟨s, hs, hbefore⟩ := Option.map_eq_some_iff.mp h0
  rw [hs] at h1
  obtain ⟨u, hu, hafter⟩ := Option.map_eq_some_iff.mp h1
  exact ⟨s, u, hs, hbefore, hu, hafter⟩

end IntellApi.Sessions
