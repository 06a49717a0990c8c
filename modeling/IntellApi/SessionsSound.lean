import IntellApi.Holders
import IntellApi.Sessions

/-!
# Refresh tokens are single use, closed sessions stay closed

A refresh token's hash sits in one place at a time: with the request that drew
the token, then in a session row, then with the request that exchanged it
(`held`). The compare-and-swap is the only move from a row to a request, so
tokens are exchanged at most once (`refreshTokens_single_use`). No statement
sets `isActive`, so a deactivated row refuses every later swap and look-up
(`closed_session_stays_closed`).
-/

namespace IntellApi.Sessions

open Function Holders Lts

/-! ## Where the hashes are -/

inductive Place
  | login (p : Nat)
  | refresh (p : Nat)
  | row (sessionId : Uuid)
  | spent (p : Nat)
  deriving DecidableEq

section
variable (sha256 : Token → Hash)

def Login.hash : Login → Option Hash
  | .signed _ refreshToken => some (sha256 refreshToken)
  | _ => none

def Refresh.newHash : Refresh → Option Hash
  | .signed _ _ _ newRefreshToken => some (sha256 newRefreshToken)
  | _ => none

def Refresh.oldHash : Refresh → Option Hash
  | .done refreshToken _ _ => some (sha256 refreshToken)
  | _ => none

def held (s : State) : Place → Option Hash
  | .login p => (s.logins p).hash sha256
  | .refresh p => (s.refreshes p).newHash sha256
  | .row sessionId => (s.sessions sessionId).bind (·.refreshTokenHash)
  | .spent p => (s.refreshes p).oldHash sha256

theorem held_setLogin (s : State) (p : Nat) (l : Login) :
    held sha256 (s.setLogin p l) = update (held sha256 s) (.login p) (l.hash sha256) := by
  funext q
  cases q with
  | login q => by_cases h : q = p <;> simp [held, State.setLogin, h]
  | _ => simp [held, State.setLogin]

theorem held_setRefresh (s : State) (p : Nat) (r : Refresh) :
    held sha256 (s.setRefresh p r) =
      update (update (held sha256 s) (.refresh p) (r.newHash sha256)) (.spent p) (r.oldHash sha256) := by
  funext q
  cases q with
  | refresh q => by_cases h : q = p <;> simp [held, State.setRefresh, h]
  | spent q => by_cases h : q = p <;> simp [held, State.setRefresh, h]
  | _ => simp [held, State.setRefresh]

theorem held_setSession (s : State) (sessionId : Uuid) (session : Session) :
    held sha256 (s.setSession sessionId session) =
      update (held sha256 s) (.row sessionId) session.refreshTokenHash := by
  funext q
  cases q with
  | row q => by_cases h : q = sessionId <;> simp [held, State.setSession, h]
  | _ => simp [held, State.setSession]

theorem held_expire (s : State) (sessionId : Uuid) : held sha256 (s.expire sessionId) = held sha256 s := by
  funext q
  cases q with
  | row q =>
    by_cases h : q = sessionId
    · subst h; cases hq : s.sessions q <;> simp [held, State.expire, hq, expireSession]
    · simp [held, State.expire, h]
  | _ => rfl

/-! ## What the statements do -/

theorem swap_row {now createdAt : Int} {e n : Hash} {row row' : Session}
    (h : compareAndSwapRefreshTokenHash now e n createdAt row = some row') :
    row.refreshTokenHash = some e ∧ row.isActive = true ∧ row'.refreshTokenHash = some n := by
  simp only [compareAndSwapRefreshTokenHash] at h
  split at h
  · rename_i hw
    simp only [Option.some.injEq] at h
    subst h; exact ⟨hw.1, hw.2.1, rfl⟩
  · cases h

theorem fid_row {now : Int} {userId : Uuid} {token : String} {row row' : Session}
    (h : atomicallySwapFid now userId token row = some row') :
    row.isActive = true ∧ row'.refreshTokenHash = row.refreshTokenHash ∧ row'.isActive = true := by
  unfold atomicallySwapFid at h
  split at h
  · rename_i hw
    simp only [Option.some.injEq] at h
    subst h; exact ⟨hw.2.1, rfl, hw.2.1⟩
  · cases h

/-- What a step does, with the tests it has passed. -/
inductive Event (s : State) : Action → State → Prop
  | tick (ms : Nat) : Event s (.tick ms) { s with clock := s.clock + ms }
  | signUp (userId : Uuid) (user : User) :
      Event s (.signUp userId user) { s with users := update s.users userId (some user) }
  | toggle (userId : Uuid) (isActive : Bool) (users : Uuid → Option User) :
      Event s (.adminToggleUserStatus userId isActive) { s with users }
  | login (p : Nat) (userId : Uuid) (valid : Bool) (l : Login) : l.hash sha256 = none →
      Event s (.login p userId valid) (s.setLogin p l)
  | oauthLogin (p : Nat) (userId : Uuid) : Event s (.oauthLogin p userId) (s.setLogin p (.verified userId))
  | createSession (p : Nat) (userId sessionId : Uuid) : s.sessions sessionId = none →
      Event s (.createSession p sessionId)
        ((s.setSession sessionId (createSession s.clock userId)).setLogin p (.created sessionId))
  | signLogin (p : Nat) (sessionId : Uuid) (token : Token) : s.fresh sha256 token →
      Event s (.signLogin p token) ((s.issue token).setLogin p (.signed sessionId token))
  | persist (p : Nat) (sessionId : Uuid) (token : Token) (session : Session) :
      s.logins p = .signed sessionId token → s.sessions sessionId = some session →
      Event s (.persistRefreshToken p)
        ((s.setSession sessionId (setRefreshTokenHash s.clock (some (sha256 token)) session)).setLogin p
          (.done sessionId token))
  | persistFails (p : Nat) : Event s (.persistRefreshToken p) (s.setLogin p .failed)
  | refresh (p : Nat) (token : Token) (sessionId : Uuid) (r : Refresh) : r.newHash sha256 = none →
      r.oldHash sha256 = none → Event s (.refresh p token sessionId) (s.setRefresh p r)
  | expireRefresh (p : Nat) (sessionId : Uuid) :
      Event s (.expireRefresh p) ((s.expire sessionId).setRefresh p .rejected)
  | signRefresh (p : Nat) (token new : Token) (sessionId : Uuid) (session : Session) :
      session.refreshTokenHash = some (sha256 token) → s.fresh sha256 new →
      Event s (.signRefresh p new) ((s.issue new).setRefresh p (.signed token sessionId session new))
  | signRejected (p : Nat) (new : Token) : Event s (.signRefresh p new) (s.setRefresh p .rejected)
  | swap (p : Nat) (token new : Token) (sessionId : Uuid) (session row row' : Session) (e : Hash) :
      s.refreshes p = .signed token sessionId session new → session.refreshTokenHash = some e →
      s.sessions sessionId = some row →
      compareAndSwapRefreshTokenHash s.clock e (sha256 new) session.createdAt row = some row' →
      Event s (.compareAndSwap p) ((s.setSession sessionId row').setRefresh p (.done token sessionId new))
  | swapRejected (p : Nat) : Event s (.compareAndSwap p) (s.setRefresh p .rejected)
  | setDeviceToken (userId sessionId : Uuid) (token : String) (row row' : Session) :
      s.sessions sessionId = some row → atomicallySwapFid s.clock userId token row = some row' →
      Event s (.setDeviceToken userId sessionId token) (s.setSession sessionId row')
  | noDevice (userId sessionId : Uuid) (token : String) : Event s (.setDeviceToken userId sessionId token) s
  | logout (p : Nat) (sessionId : Uuid) (decoded : Option JwtPayload) (blacklist : Uuid → Option Int) :
      Event s (.logout p sessionId decoded) ({ s with blacklist }.setLogout p (.deactivating sessionId))
  | deactivate (p : Nat) (sessionId : Uuid) (row : Session) : s.sessions sessionId = some row →
      Event s (.deactivateSession p)
        ((s.setSession sessionId (deactivateSession s.clock row)).setLogout p (.done sessionId))
  | noSession (p : Nat) : Event s (.deactivateSession p) (s.setLogout p .notFound)
  | validate (p : Nat) (payload : JwtPayload) (c : Check) : Event s (.validate p payload) (s.setCheck p c)
  | lookup (p : Nat) (c : Check) : Event s (.findSessionById p) (s.setCheck p c)
  | expireCheck (p : Nat) (sessionId : Uuid) :
      Event s (.expireCheck p) ((s.expire sessionId).setCheck p .rejected)

theorem event_of_step {s s' : State} {a : Action} (h : step sha256 s a = some s') : Event sha256 s a s' := by
  cases a with
  | tick ms => cases h; exact .tick ms
  | signUp userId user =>
    simp only [step] at h
    split at h <;> cases h
    exact .signUp userId user
  | adminToggleUserStatus userId isActive =>
    simp only [step] at h
    split at h <;> cases h <;> exact .toggle userId isActive _
  | login p userId valid =>
    simp only [step] at h
    split at h <;> cases h
    · exact .login p userId valid _ (by split <;> rfl)
    · exact .login p userId valid .failed rfl
  | oauthLogin p userId =>
    simp only [step] at h
    split at h <;> cases h
    exact .oauthLogin p userId
  | createSession p sessionId =>
    simp only [step] at h
    split at h <;> cases h
    rename_i userId _ hn
    exact .createSession p userId sessionId hn
  | signLogin p token =>
    simp only [step] at h
    split at h
    · split at h <;> cases h
      rename_i sessionId _ hf
      exact .signLogin p sessionId token hf
    · cases h
  | persistRefreshToken p =>
    simp only [step] at h
    split at h
    · rename_i sessionId token hl
      split at h <;> cases h
      · rename_i session hs
        exact .persist p sessionId token session hl hs
      · exact .persistFails p
    · cases h
  | refresh p token sessionId =>
    simp only [step] at h
    split at h
    · split at h <;> cases h <;> exact .refresh p token sessionId _ rfl rfl
    · cases h
      exact .refresh p token sessionId _ rfl rfl
    · cases h
  | expireRefresh p =>
    simp only [step] at h
    split at h <;> cases h
    exact .expireRefresh p _
  | signRefresh p new =>
    simp only [step] at h
    split at h
    · rename_i token sessionId session _
      split at h
      · cases h
        exact .signRejected p new
      · rename_i hn
        simp only [not_or, ne_eq, not_not] at hn
        split at h <;> cases h
        rename_i hf
        exact .signRefresh p token new sessionId session hn.2 hf
    · cases h
  | compareAndSwap p =>
    simp only [step] at h
    split at h
    · rename_i token sessionId session new hr
      split at h
      · rename_i e row he hrow
        split at h <;> cases h
        · rename_i row' hc
          exact .swap p token new sessionId session row row' e hr he hrow hc
        · exact .swapRejected p
      · cases h
        exact .swapRejected p
    · cases h
  | setDeviceToken userId sessionId token =>
    simp only [step] at h
    split at h <;> cases h
    · rename_i row' hb
      obtain ⟨row, hrow, hf⟩ := Option.bind_eq_some_iff.mp hb
      exact .setDeviceToken userId sessionId token row row' hrow hf
    · exact .noDevice userId sessionId token
  | logout p sessionId decoded =>
    simp only [step] at h
    split at h
    · split at h
      · split at h <;> cases h
        · exact .logout p sessionId _ _
        · exact .logout p sessionId _ s.blacklist
      · cases h
        exact .logout p sessionId none s.blacklist
    · cases h
  | deactivateSession p =>
    simp only [step] at h
    split at h
    · split at h <;> cases h
      · rename_i sessionId _ _ row hrow
        exact .deactivate p sessionId row hrow
      · exact .noSession p
    · cases h
  | validate p payload =>
    simp only [step] at h
    split at h
    · split at h <;> cases h <;> exact .validate p payload _
    · cases h
  | findSessionById p =>
    simp only [step] at h
    split at h
    · split at h
      · split at h <;> cases h <;> exact .lookup p _
      · cases h
        exact .lookup p _
    · cases h
  | expireCheck p =>
    simp only [step] at h
    split at h <;> cases h
    exact .expireCheck p _

/-! ## The ledger of hashes -/

/-- Each drawn hash has at most one holder, and a suspended swap expects the
hash of the token it was presented with. -/
structure Inv (s : State) : Prop where
  ledger : Ledger (s.issued.map sha256) (held sha256 s)
  expected : ∀ p token sessionId session new, s.refreshes p = .signed token sessionId session new →
    session.refreshTokenHash = some (sha256 token)

theorem inv_init : Inv sha256 init where
  ledger := by
    have : held sha256 init = fun _ => none := by funext q; cases q <;> rfl
    rw [this]; exact ledger_nil
  expected p token sessionId session new h := by cases h

theorem Inv.of_held {s s' : State} (h : Inv sha256 s) (hi : s'.issued = s.issued)
    (hr : s'.refreshes = s.refreshes) (hh : held sha256 s' = held sha256 s) : Inv sha256 s' :=
  ⟨by rw [hi, hh]; exact h.ledger, by rw [hr]; exact h.expected⟩

theorem Inv.setLogin {s : State} (h : Inv sha256 s) (p : Nat) {l : Login} (hl : l.hash sha256 = none) :
    Inv sha256 (s.setLogin p l) where
  ledger := by rw [held_setLogin, hl]; exact h.ledger.erase _
  expected := h.expected

theorem Inv.setRefresh {s : State} (h : Inv sha256 s) (p : Nat) {r : Refresh} (hn : r.newHash sha256 = none)
    (ho : r.oldHash sha256 = none) : Inv sha256 (s.setRefresh p r) where
  ledger := by rw [held_setRefresh, hn, ho]; exact (h.ledger.erase _).erase _
  expected q token sessionId session new hq := by
    by_cases e : q = p
    · subst e
      rw [show r = .signed token sessionId session new by simpa [State.setRefresh] using hq] at hn
      cases hn
    · exact h.expected q token sessionId session new (by simpa [State.setRefresh, e] using hq)

theorem Inv.setSession {s : State} (h : Inv sha256 s) (sessionId : Uuid) {session : Session}
    (hs : session.refreshTokenHash = none ∨ ∃ row, s.sessions sessionId = some row ∧
      session.refreshTokenHash = row.refreshTokenHash) : Inv sha256 (s.setSession sessionId session) where
  ledger := by
    rw [held_setSession]
    rcases hs with hs | ⟨row, hrow, hs⟩
    · rw [hs]; exact h.ledger.erase _
    · have : session.refreshTokenHash = held sha256 s (.row sessionId) := by simp [held, hrow, hs]
      rw [this, update_eq_self]; exact h.ledger
  expected := h.expected

theorem inv_sign_login {s : State} (h : Inv sha256 s) (p : Nat) (sessionId : Uuid) {token : Token}
    (hf : s.fresh sha256 token) :
    Inv sha256 ((s.issue token).setLogin p (.signed sessionId token)) where
  ledger := by rw [held_setLogin]; exact h.ledger.draw (.login p) hf
  expected := h.expected

theorem inv_persist {s : State} (h : Inv sha256 s) {p : Nat} {sessionId : Uuid} {token : Token}
    (hl : s.logins p = .signed sessionId token) (session : Session) :
    Inv sha256 ((s.setSession sessionId (setRefreshTokenHash s.clock (some (sha256 token)) session)).setLogin p
      (.done sessionId token)) where
  ledger := by
    have hp : held sha256 s (.login p) = some (sha256 token) := by simp [held, hl, Login.hash]
    have := h.ledger.moveTo (a := .login p) (b := .row sessionId) (by simp)
    rw [held_setLogin, held_setSession, update_comm (by simp)]
    rwa [hp] at this
  expected := h.expected

theorem inv_sign_refresh {s : State} (h : Inv sha256 s) (p : Nat) (sessionId : Uuid) {token new : Token}
    {session : Session} (he : session.refreshTokenHash = some (sha256 token)) (hf : s.fresh sha256 new) :
    Inv sha256 ((s.issue new).setRefresh p (.signed token sessionId session new)) where
  ledger := by rw [held_setRefresh]; exact (h.ledger.draw (.refresh p) hf).erase (.spent p)
  expected q token' sessionId' session' new' hq := by
    by_cases e : q = p
    · subst e
      simp only [State.setRefresh, update_self, Refresh.signed.injEq] at hq
      obtain ⟨rfl, -, rfl, -⟩ := hq; exact he
    · exact h.expected q token' sessionId' session' new' (by simpa [State.setRefresh, State.issue, e] using hq)

theorem inv_swap {s : State} (h : Inv sha256 s) {p : Nat} {sessionId : Uuid} {token new : Token}
    {session row row' : Session} (hr : s.refreshes p = .signed token sessionId session new)
    (hrow : s.sessions sessionId = some row) (ho : row.refreshTokenHash = some (sha256 token))
    (hn : row'.refreshTokenHash = some (sha256 new)) :
    Inv sha256 ((s.setSession sessionId row').setRefresh p (.done token sessionId new)) where
  ledger := by
    have hp : held sha256 s (.refresh p) = some (sha256 new) := by simp [held, hr, Refresh.newHash]
    have hb : held sha256 s (.row sessionId) = some (sha256 token) := by simp [held, hrow, ho]
    have := h.ledger.moveOn (a := .refresh p) (b := .row sessionId) (c := .spent p) (by simp) (by simp) (by simp)
    rw [hp, hb] at this
    rw [held_setRefresh, held_setSession, hn, update_comm (show Place.row sessionId ≠ .refresh p by simp)]
    exact this
  expected q token' sessionId' session' new' hq := by
    by_cases e : q = p
    · subst e; simp [State.setRefresh] at hq
    · exact h.expected q token' sessionId' session' new' (by simpa [State.setRefresh, State.setSession, e] using hq)

theorem inv_event {s s' : State} {a : Action} (h : Inv sha256 s) (he : Event sha256 s a s') : Inv sha256 s' := by
  cases he with
  | tick | signUp | toggle | validate | lookup | logout | noSession => exact h.of_held sha256 rfl rfl rfl
  | login p _ _ l hl => exact h.setLogin sha256 p hl
  | oauthLogin p => exact h.setLogin sha256 p rfl
  | createSession p userId sessionId => exact (h.setSession sha256 sessionId (.inl rfl)).setLogin sha256 p rfl
  | signLogin p sessionId token hf => exact inv_sign_login sha256 h p sessionId hf
  | persist p sessionId token session hl => exact inv_persist sha256 h hl session
  | persistFails p => exact h.setLogin sha256 p rfl
  | refresh p token sessionId r hn ho => exact h.setRefresh sha256 p hn ho
  | expireRefresh p sessionId =>
    have hx : Inv sha256 (s.expire sessionId) := h.of_held sha256 rfl rfl (held_expire sha256 s sessionId)
    exact hx.setRefresh sha256 p rfl rfl
  | signRefresh p token new sessionId session hh hf => exact inv_sign_refresh sha256 h p sessionId hh hf
  | signRejected p | swapRejected p => exact h.setRefresh sha256 p rfl rfl
  | swap p token new sessionId session row row' e hr hh hrow hc =>
    obtain ⟨ho, -, hn⟩ := swap_row hc
    rw [h.expected p token sessionId session new hr, Option.some.injEq] at hh
    exact inv_swap sha256 h hr hrow (hh ▸ ho) hn
  | setDeviceToken userId sessionId token row row' hrow hf =>
    exact h.setSession sha256 sessionId (.inr ⟨row, hrow, (fid_row hf).2.1⟩)
  | noDevice => exact h
  | deactivate p sessionId row =>
    exact (h.setSession sha256 sessionId (.inl rfl)).of_held sha256 rfl rfl rfl
  | expireCheck p sessionId => exact h.of_held sha256 rfl rfl (held_expire sha256 s sessionId)

theorem inv_step {s s' : State} {a : Action} (h : Inv sha256 s) (hs : step sha256 s a = some s') : Inv sha256 s' :=
  inv_event sha256 h (event_of_step sha256 hs)

theorem inv_reach {s : State} (h : (machine sha256).Reach Free s) : Inv sha256 s :=
  h.inv (inv_init sha256) fun _ _ _ hi _ hs => inv_step sha256 hi hs

/-! ## Single use -/

def State.Exchanged (s : State) (token : Token) (p : Nat) : Prop :=
  ∃ sessionId new, s.refreshes p = .done token sessionId new

/-- Some refresh request with `token`, new or suspended at any of its steps,
gets a new pair if it now runs to its end undisturbed. -/
def Exchangeable (s : State) (sessionId : Uuid) (token : Token) : Prop :=
  ∃ p new t, ∃ as ∈ [[.refresh p token sessionId, .signRefresh p new, .compareAndSwap p],
      [.signRefresh p new, .compareAndSwap p], [.compareAndSwap p]],
    (machine sha256).run s as = some t ∧ t.refreshes p = .done token sessionId new

theorem swap_done {s t : State} (h : Inv sha256 s) {p : Nat} {token new : Token} {sessionId : Uuid}
    (hs : step sha256 s (.compareAndSwap p) = some t) (ht : t.refreshes p = .done token sessionId new) :
    held sha256 s (.row sessionId) = some (sha256 token) := by
  cases event_of_step sha256 hs with
  | swapRejected => simp [State.setRefresh] at ht
  | swap _ token' new' sessionId' session row row' e hr he hrow hc =>
    simp only [State.setRefresh, update_self, Refresh.done.injEq] at ht
    obtain ⟨rfl, rfl, rfl⟩ := ht
    have := h.expected p token' sessionId' session new' hr
    rw [he, Option.some.injEq] at this
    simp [held, hrow, (swap_row hc).1, this]

theorem machine_step : (machine sha256).step = step sha256 := rfl

theorem sign_done {s t : State} (h : Inv sha256 s) {p : Nat} {token new : Token} {sessionId : Uuid}
    (hs : (machine sha256).run s [.signRefresh p new, .compareAndSwap p] = some t)
    (ht : t.refreshes p = .done token sessionId new) : held sha256 s (.row sessionId) = some (sha256 token) := by
  simp only [Machine.run, machine_step, Option.bind_eq_some_iff] at hs
  obtain ⟨u, hu, v, hv, hvt⟩ := hs
  simp only [Option.some.injEq] at hvt; subst hvt
  have := swap_done sha256 (inv_step sha256 h hu) hv ht
  cases event_of_step sha256 hu with
  | signRefresh => exact this
  | signRejected => exact this

theorem exchangeable_row {s : State} (h : Inv sha256 s) {sessionId : Uuid} {token : Token}
    (he : Exchangeable sha256 s sessionId token) : held sha256 s (.row sessionId) = some (sha256 token) := by
  obtain ⟨p, new, t, as, has, hr, ht⟩ := he
  simp only [List.mem_cons, List.not_mem_nil, or_false] at has
  rcases has with rfl | rfl | rfl
  · simp only [Machine.run, machine_step, Option.bind_eq_some_iff] at hr
    obtain ⟨u, hu, hr⟩ := hr
    have hr' : (machine sha256).run u [.signRefresh p new, .compareAndSwap p] = some t := by
      simpa only [Machine.run, machine_step, Option.bind_eq_some_iff] using hr
    have := sign_done sha256 (inv_step sha256 h hu) hr' ht
    cases event_of_step sha256 hu with
    | refresh => simpa [held_setRefresh] using this
  · exact sign_done sha256 h hr ht
  · simp only [Machine.run, machine_step, Option.bind_eq_some_iff] at hr
    obtain ⟨u, hu, hut⟩ := hr
    simp only [Option.some.injEq] at hut; subst hut
    exact swap_done sha256 h hu ht

theorem issued_inj {s : State} (h : Inv sha256 s) {t t' : Token} (ht : t ∈ s.issued) (ht' : t' ∈ s.issued)
    (he : sha256 t = sha256 t') : t = t' :=
  List.inj_on_of_nodup_map h.ledger.nodup ht ht' he

/-- Over any interleaving, an issued refresh token is exchanged by at most one
request, a session has at most one exchangeable issued token, and that one was
not exchanged yet. -/
theorem refreshTokens_single_use {s : State} (h : (machine sha256).Reach Free s) :
    (∀ token ∈ s.issued, ∀ p q, s.Exchanged token p → s.Exchanged token q → p = q) ∧
    (∀ sessionId, ∀ t ∈ s.issued, ∀ t' ∈ s.issued,
      Exchangeable sha256 s sessionId t → Exchangeable sha256 s sessionId t' → t = t') ∧
    (∀ sessionId, ∀ token ∈ s.issued, ∀ p, Exchangeable sha256 s sessionId token → ¬ s.Exchanged token p) := by
  have hi := inv_reach sha256 h
  have spent : ∀ {token p}, s.Exchanged token p → held sha256 s (.spent p) = some (sha256 token) := by
    intro token p hx
    obtain ⟨sessionId, new, hp⟩ := hx
    simp [held, hp, Refresh.oldHash]
  refine ⟨fun token _ p q hp hq => ?_, fun sessionId t ht t' ht' he he' => ?_, fun sessionId token _ p he hp => ?_⟩
  · have := hi.ledger.sole _ _ _ (spent hp) (spent hq)
    simpa using this
  · have hr := exchangeable_row sha256 hi he
    have hr' := exchangeable_row sha256 hi he'
    rw [hr, Option.some.injEq] at hr'
    exact issued_inj sha256 hi ht ht' hr'
  · have := hi.ledger.sole _ _ _ (exchangeable_row sha256 hi he) (spent hp)
    cases this

end

/-- One login, then two refreshes with its token that both pass every check:
the first swap wins, and the second request is turned away. -/
def racingRefreshes : List Action :=
  [.signUp 1 ⟨true, true⟩, .login 0 1 true, .createSession 0 7, .signLogin 0 "a", .persistRefreshToken 0,
    .refresh 0 "a" 7, .refresh 1 "a" 7, .signRefresh 0 "b", .signRefresh 1 "c", .compareAndSwap 0, .compareAndSwap 1]

theorem refreshTokens_single_use_race : ∃ s, (machine id).run init racingRefreshes = some s ∧
    s.refreshes 0 = .done "a" 7 "b" ∧ s.refreshes 1 = .rejected ∧ ∀ q, s.Exchanged "a" q → q = 0 := by
  have h0 : ((machine id).run init racingRefreshes).map (fun s => (s.refreshes 0, s.refreshes 1, s.issued)) =
      some (.done "a" 7 "b", .rejected, ["c", "b", "a"]) := by decide
  obtain ⟨s, hs, h0⟩ := Option.map_eq_some_iff.mp h0
  simp only [Prod.mk.injEq] at h0
  refine ⟨s, hs, h0.1, h0.2.1, fun q hq => ?_⟩
  exact (refreshTokens_single_use id (Machine.path_of_run hs)).1 "a" (by rw [h0.2.2]; simp) q 0 hq ⟨7, "b", h0.1⟩

/-! ## Closed sessions -/

def State.Closed (s : State) (sessionId : Uuid) : Prop :=
  ∃ row, s.sessions sessionId = some row ∧ row.isActive = false

section
variable {s s' : State} {sessionId sessionId' : Uuid}

theorem closed_of_eq (h : s.Closed sessionId) (hs : s'.sessions = s.sessions) : s'.Closed sessionId := by
  obtain ⟨row, hrow, ha⟩ := h
  exact ⟨row, by rw [hs]; exact hrow, ha⟩

theorem closed_setSession (h : s.Closed sessionId) {session : Session}
    (hw : ∀ row, s.sessions sessionId' = some row → row.isActive = false → session.isActive = false) :
    (s.setSession sessionId' session).Closed sessionId := by
  obtain ⟨row, hrow, ha⟩ := h
  by_cases e : sessionId = sessionId'
  · subst e; exact ⟨session, by simp [State.setSession], hw row hrow ha⟩
  · exact ⟨row, by simpa [State.setSession, e] using hrow, ha⟩

theorem closed_write (h : s.Closed sessionId) {row session : Session} (hrow : s.sessions sessionId' = some row)
    (hw : row.isActive = false → session.isActive = false) : (s.setSession sessionId' session).Closed sessionId := by
  refine closed_setSession h fun r hr ha => hw ?_
  rw [hrow, Option.some.injEq] at hr
  rw [hr]; exact ha

theorem closed_expire (h : s.Closed sessionId) : (s.expire sessionId').Closed sessionId := by
  obtain ⟨row, hrow, ha⟩ := h
  by_cases e : sessionId = sessionId'
  · subst e; exact ⟨expireSession row, by simp [State.expire, hrow], rfl⟩
  · exact ⟨row, by simpa [State.expire, e] using hrow, ha⟩

variable {sha256 : Token → Hash}

theorem closed_event {a : Action} (h : s.Closed sessionId) (he : Event sha256 s a s') : s'.Closed sessionId := by
  cases he with
  | createSession p userId sid hn => exact closed_of_eq (closed_setSession h (by simp [hn])) rfl
  | persist p sid token session _ hrow =>
    refine closed_of_eq (closed_write h hrow fun ha => ?_) rfl
    simpa [setRefreshTokenHash] using ha
  | swap p token new sid session row row' e _ _ hrow hc =>
    refine closed_of_eq (closed_write h hrow fun ha => ?_) rfl
    rw [(swap_row hc).2.1] at ha
    cases ha
  | setDeviceToken userId sid token row row' hrow hf =>
    refine closed_write h hrow fun ha => ?_
    rw [(fid_row hf).1] at ha
    cases ha
  | deactivate p sid row => exact closed_of_eq (closed_setSession h fun _ _ _ => rfl) rfl
  | expireRefresh | expireCheck => exact closed_of_eq (closed_expire h) rfl
  | _ => exact closed_of_eq h rfl

theorem closed_step {a : Action} (h : s.Closed sessionId) (hs : step sha256 s a = some s') :
    s'.Closed sessionId := closed_event h (event_of_step sha256 hs)

theorem closed_path (h : (machine sha256).Path Free s s') (hc : s.Closed sessionId) : s'.Closed sessionId :=
  h.keep (I := (·.Closed sessionId)) (fun _ _ _ hi _ hs => closed_step hi hs) hc

def LogoutsClosed (s : State) : Prop := ∀ p sessionId, s.logouts p = .done sessionId → s.Closed sessionId

theorem LogoutsClosed.set (h : LogoutsClosed s) {p : Nat} {l : Logout}
    (hl : ∀ sessionId, l = .done sessionId → s.Closed sessionId) : LogoutsClosed (s.setLogout p l) := by
  intro q sessionId hq
  by_cases e : q = p
  · subst e
    exact closed_of_eq (hl sessionId (by simpa [State.setLogout] using hq)) rfl
  · exact closed_of_eq (h q sessionId (by simpa [State.setLogout, e] using hq)) rfl

theorem logoutsClosed_step {a : Action} (h : LogoutsClosed s) (hs : step sha256 s a = some s') :
    LogoutsClosed s' := by
  have keep : s'.logouts = s.logouts → LogoutsClosed s' := fun hl p sessionId hp =>
    closed_step (h p sessionId (by rw [← hl]; exact hp)) hs
  cases event_of_step sha256 hs with
  | logout p sid decoded blacklist =>
    have hb : LogoutsClosed { s with blacklist } := fun q k hq => closed_of_eq (h q k hq) rfl
    exact hb.set nofun
  | noSession p => exact h.set nofun
  | deactivate p sid row =>
    have hw : LogoutsClosed (s.setSession sid (deactivateSession s.clock row)) := fun q k hq =>
      closed_setSession (h q k hq) fun _ _ _ => rfl
    refine hw.set fun k hk => ?_
    cases hk
    exact ⟨deactivateSession s.clock row, by simp [State.setSession], rfl⟩
  | _ => exact keep rfl

theorem swap_closed {t : State} (h : t.Closed sessionId) {q : Nat} {token new : Token} {session : Session}
    (hq : t.refreshes q = .signed token sessionId session new) :
    step sha256 t (.compareAndSwap q) = some (t.setRefresh q .rejected) := by
  obtain ⟨row, hrow, ha⟩ := h
  simp only [step, hq, hrow]
  cases session.refreshTokenHash with
  | none => rfl
  | some e => simp [compareAndSwapRefreshTokenHash, ha]

theorem lookup_closed {t : State} {q : Nat} {payload : JwtPayload} (h : t.Closed payload.sessionId)
    (hq : t.checks q = .lookup payload) :
    step sha256 t (.findSessionById q) = some (t.setCheck q .rejected) := by
  obtain ⟨row, hrow, ha⟩ := h
  simp [step, hq, hrow, validateSession, ha]

/-- Once a logout of a session has completed, its row stays inactive, and every
swap and every access-token look-up that runs later is refused. -/
theorem closed_session_stays_closed {t : State} {p : Nat} (h : (machine sha256).Reach Free s)
    (hd : s.logouts p = .done sessionId) (ht : (machine sha256).Path Free s t) :
    t.Closed sessionId ∧
    (∀ q token session new, t.refreshes q = .signed token sessionId session new →
      step sha256 t (.compareAndSwap q) = some (t.setRefresh q .rejected)) ∧
    (∀ q payload, t.checks q = .lookup payload → payload.sessionId = sessionId →
      step sha256 t (.findSessionById q) = some (t.setCheck q .rejected)) := by
  have hl : LogoutsClosed s := h.inv (I := LogoutsClosed) (fun p sid hp => by cases hp)
    fun _ _ _ hi _ hs => logoutsClosed_step hi hs
  have hc := closed_path ht (hl p sessionId hd)
  refine ⟨hc, fun q token session new hq => swap_closed hc hq, fun q payload hq he => ?_⟩
  subst he; exact lookup_closed hc hq

end

/-- A refresh that has passed every check is suspended across a logout, and so
is the look-up of an access token. -/
def logoutBetween : List Action :=
  [.signUp 1 ⟨true, true⟩, .login 0 1 true, .createSession 0 7, .signLogin 0 "a", .persistRefreshToken 0,
    .refresh 0 "a" 7, .signRefresh 0 "b", .validate 0 ⟨1, 7, 3, 900⟩, .logout 0 7 (some ⟨1, 7, 3, 900⟩),
    .deactivateSession 0]

theorem closed_session_refuses : ∃ s, (machine id).run init logoutBetween = some s ∧
    step id s (.compareAndSwap 0) = some (s.setRefresh 0 .rejected) ∧
    step id s (.findSessionById 0) = some (s.setCheck 0 .rejected) := by
  have h0 : ((machine id).run init logoutBetween).map (fun s => (s.refreshes 0, s.checks 0, s.logouts 0)) =
      some (.signed "a" 7 ⟨1, some "a", none, 0, some (7 * dayMs), true, 0⟩ "b", .lookup ⟨1, 7, 3, 900⟩, .done 7) := by
    decide
  obtain ⟨s, hs, h0⟩ := Option.map_eq_some_iff.mp h0
  simp only [Prod.mk.injEq] at h0
  have := closed_session_stays_closed (Machine.path_of_run hs) h0.2.2 .refl
  exact ⟨s, hs, this.2.1 0 _ _ _ h0.1, this.2.2 0 _ h0.2.1 rfl⟩

end IntellApi.Sessions
