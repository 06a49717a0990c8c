import IntellApi.SessionsSound

/-!
# The absolute life of a session

A refresh asks for seven more days and gets at most what is left of the thirty,
counted from the creation of the row it read. The first write after a login has
no such cap, so it must come in time (`Prompt`). Then no expiry lies beyond the
cap, and nothing is accepted after it (`expiry_capped`).
-/

namespace IntellApi.Sessions

open Function Lts

/-- Logins store their first token hash within 23 days. -/
def Prompt (s : State) : Action → Prop
  | .persistRefreshToken p =>
    match s.logins p with
    | .signed sessionId _ => ∀ row ∈ s.sessions sessionId, s.clock ≤ row.createdAt + 23 * dayMs
    | _ => True
  | _ => True

instance (s : State) (a : Action) : Decidable (Prompt s a) := by
  unfold Prompt
  split
  · split <;> infer_instance
  · infer_instance

def Session.capped (session : Session) : Prop :=
  ∀ e ∈ session.expiresAt, e ≤ session.createdAt + absoluteMs

/-- The row a suspended refresh has read. -/
def Refresh.read : Refresh → Option (Uuid × Session)
  | .validated _ sessionId session | .signed _ sessionId session _ => some (sessionId, session)
  | _ => none

structure Capped (s : State) : Prop where
  rows : ∀ sessionId row, s.sessions sessionId = some row → row.capped
  read : ∀ p sessionId session, (s.refreshes p).read = some (sessionId, session) →
    ∃ row, s.sessions sessionId = some row ∧ row.createdAt = session.createdAt

section
variable {sha256 : Token → Hash} {s s' : State} {a : Action} {p : Nat} {token new : Token} {sessionId : Uuid}
  {session : Session}

/-! ## What the steps read -/

theorem setRefresh_refreshes (s : State) (p : Nat) (r : Refresh) : (s.setRefresh p r).refreshes p = r := update_self ..

theorem refresh_read {sessionId' : Uuid} (h : step sha256 s (.refresh p token sessionId) = some s')
    (hv : (s'.refreshes p).read = some (sessionId', session)) :
    s.sessions sessionId' = some session ∧ validateSession s.clock session = .valid := by
  simp only [step] at h
  split at h
  · rename_i row _ hrow
    split at h <;> cases h <;> rw [setRefresh_refreshes] at hv <;> cases hv
    rename_i hval
    exact ⟨hrow, hval⟩
  · cases h
    rw [setRefresh_refreshes] at hv
    cases hv
  · cases h

theorem signRefresh_read (h : step sha256 s (.signRefresh p new) = some s')
    (hs : (s'.refreshes p).read = some (sessionId, session)) :
    (s.refreshes p).read = some (sessionId, session) := by
  simp only [step] at h
  split at h
  · rename_i hr
    split at h
    · cases h
      rw [setRefresh_refreshes] at hs
      cases hs
    · split at h <;> cases h
      rw [setRefresh_refreshes] at hs
      rw [hr]
      exact hs
  · cases h

theorem lookup_accepted {payload : JwtPayload} (h : step sha256 s (.findSessionById p) = some s')
    (ha : s'.checks p = .accepted payload) :
    ∃ row, s.sessions payload.sessionId = some row ∧ validateSession s.clock row = .valid := by
  simp only [step] at h
  split at h
  · split at h
    · rename_i row hrow
      split at h <;> cases h
      · rename_i hval
        simp only [State.setCheck, update_self] at ha
        split at ha <;> cases ha
        exact ⟨row, hrow, hval⟩
      · simp [State.setCheck] at ha
      · simp [State.setCheck] at ha
    · cases h
      simp [State.setCheck] at ha
  · cases h

theorem validateSession_cap {now : Int} (h : validateSession now session = .valid) :
    now ≤ session.createdAt + absoluteMs := by
  unfold validateSession at h
  split at h
  · cases h
  · split at h
    · cases h
    · rename_i hc
      simpa [sessionAbsoluteMaxMs, absoluteMs] using hc

theorem swap_cap {now createdAt : Int} {e n : Hash} {row row' : Session}
    (h : compareAndSwapRefreshTokenHash now e n createdAt row = some row') :
    now < row.createdAt + absoluteMs ∧ row'.createdAt = row.createdAt ∧
      ∀ x ∈ row'.expiresAt, x ≤ createdAt + absoluteMs := by
  simp only [compareAndSwapRefreshTokenHash] at h
  split at h
  · rename_i hw
    cases h
    refine ⟨by have := hw.2.2.2; omega, rfl, ?_⟩
    intro x he
    cases he
    split <;> omega
  · cases h

/-! ## The cap -/

theorem sessions_setSession (s : State) (sessionId sessionId' : Uuid) (session : Session) :
    (s.setSession sessionId' session).sessions sessionId =
      if sessionId = sessionId' then some session else s.sessions sessionId := by
  by_cases h : sessionId = sessionId'
  · subst h; simp [State.setSession]
  · simp [State.setSession, h]

theorem sessions_expire (s : State) (sessionId sessionId' : Uuid) :
    (s.expire sessionId').sessions sessionId =
      if sessionId = sessionId' then (s.sessions sessionId).map expireSession else s.sessions sessionId := by
  by_cases h : sessionId = sessionId'
  · subst h; simp [State.expire]
  · simp [State.expire, h]

/-- A row of the next state is new, or comes from a row with the same creation
date that was within its cap if this one is not. -/
inductive Origin (s : State) (sessionId : Uuid) (row' : Session) : Prop
  | created : s.sessions sessionId = none → row'.capped → Origin s sessionId row'
  | kept (row : Session) : s.sessions sessionId = some row → row'.createdAt = row.createdAt →
      (row.capped → row'.capped) → Origin s sessionId row'

theorem Origin.same (h : s.sessions sessionId = some session) : Origin s sessionId session :=
  .kept session h rfl id

theorem Origin.set {sessionId' : Uuid} (session : Session) {row : Session} (ho : Origin s sessionId' session)
    (h : (s.setSession sessionId' session).sessions sessionId = some row) : Origin s sessionId row := by
  rw [sessions_setSession] at h
  split at h
  · rename_i he
    cases h
    exact he ▸ ho
  · exact .same h

theorem Origin.expire {sessionId' : Uuid} {row : Session} (h : (s.expire sessionId').sessions sessionId = some row) :
    Origin s sessionId row := by
  rw [sessions_expire] at h
  split at h
  · obtain ⟨old, hold, rfl⟩ := Option.map_eq_some_iff.mp h
    exact .kept old hold rfl id
  · exact .same h

theorem origin_event (h : Event sha256 s a s') (hc : Capped s) (hp : Prompt s a) {row' : Session}
    (hrow : s'.sessions sessionId = some row') : Origin s sessionId row' := by
  cases h with
  | createSession p userId sid hn =>
    refine Origin.set (createSession s.clock userId) (.created hn ?_) hrow
    intro e he
    cases he
    simp only [createSession, slidingMs, absoluteMs, dayMs]
    omega
  | persist p sid token row hl hs =>
    refine Origin.set (setRefreshTokenHash s.clock (some (sha256 token)) row) (.kept row hs rfl fun _ => ?_) hrow
    simp only [Prompt, hl] at hp
    have := hp row hs
    intro e he
    cases he
    simp only [setRefreshTokenHash, slidingMs, absoluteMs, dayMs] at this ⊢
    omega
  | swap p token new sid session row row₁ e hr _ hs hsw =>
    obtain ⟨-, hcr, hx⟩ := swap_cap hsw
    obtain ⟨row₂, hs₂, hcr₂⟩ := hc.read p sid session (by rw [hr]; rfl)
    rw [hs, Option.some.injEq] at hs₂
    subst hs₂
    refine Origin.set row₁ (.kept row hs hcr fun _ x hx' => ?_) hrow
    rw [hcr, hcr₂]
    exact hx x hx'
  | setDeviceToken userId sid token row row₁ hs hf =>
    unfold atomicallySwapFid at hf
    split at hf <;> cases hf
    exact Origin.set { row with deviceToken := some token, lastActivityAt := s.clock } (.kept row hs rfl id) hrow
  | deactivate p sid row hs => exact Origin.set (deactivateSession s.clock row) (.kept row hs rfl id) hrow
  | expireRefresh | expireCheck => exact Origin.expire hrow
  | _ => exact .same hrow

theorem createdAt_event (h : Event sha256 s a s') {row : Session} (hrow : s.sessions sessionId = some row) :
    ∃ row', s'.sessions sessionId = some row' ∧ row'.createdAt = row.createdAt := by
  have write : ∀ {sid : Uuid} {old session : Session}, s.sessions sid = some old →
      session.createdAt = old.createdAt →
      ∃ row', (s.setSession sid session).sessions sessionId = some row' ∧ row'.createdAt = row.createdAt := by
    intro sid old session hold hc
    rw [sessions_setSession]
    split
    · rename_i he
      subst he
      rw [hold, Option.some.injEq] at hrow
      subst hrow
      exact ⟨session, rfl, hc⟩
    · exact ⟨row, hrow, rfl⟩
  have expire : ∀ sid, ∃ row', (s.expire sid).sessions sessionId = some row' ∧ row'.createdAt = row.createdAt := by
    intro sid
    rw [sessions_expire, hrow]
    split
    · exact ⟨_, rfl, rfl⟩
    · exact ⟨row, rfl, rfl⟩
  cases h with
  | createSession p userId sid hn =>
    refine ⟨row, ?_, rfl⟩
    have hne : sessionId ≠ sid := by
      intro he
      subst he
      rw [hn] at hrow
      cases hrow
    exact (sessions_setSession s sessionId sid _).trans (by rw [if_neg hne, hrow])
  | persist p sid token old hl hs => exact write hs rfl
  | swap p token new sid session old row₁ e hr _ hs hsw => exact write hs (swap_cap hsw).2.1
  | setDeviceToken userId sid token old row₁ hs hf =>
    unfold atomicallySwapFid at hf
    split at hf <;> cases hf
    exact write hs rfl
  | deactivate p sid old hs => exact write hs rfl
  | expireRefresh p sid => exact expire sid
  | expireCheck p sid => exact expire sid
  | _ => exact ⟨row, hrow, rfl⟩

/-- A suspended refresh had read its row before, or reads it now. -/
theorem read_step (h : step sha256 s a = some s') (hr : (s'.refreshes p).read = some (sessionId, session)) :
    (s.refreshes p).read = some (sessionId, session) ∨ s.sessions sessionId = some session := by
  have other : ∀ {q : Nat} {r : Refresh}, s'.refreshes = update s.refreshes q r → p ≠ q ∨ r.read = none →
      (s.refreshes p).read = some (sessionId, session) := by
    intro q r he hq
    by_cases hpq : p = q
    · rw [he, hpq, update_self, hq.resolve_left (not_not_intro hpq)] at hr
      cases hr
    · rwa [he, update_of_ne hpq] at hr
  cases event_of_step sha256 h with
  | refresh q token' sid r =>
    by_cases hq : p = q
    · subst hq
      exact .inr (refresh_read h hr).1
    · exact .inl (other rfl (.inl hq))
  | signRefresh q token' new' sid session' =>
    by_cases hq : p = q
    · subst hq
      exact .inl (signRefresh_read h hr)
    · exact .inl (other rfl (.inl hq))
  | signRejected | swapRejected | swap | expireRefresh => exact .inl (other rfl (.inr rfl))
  | _ => exact .inl hr

theorem capped_init : Capped init where
  rows sessionId row h := by cases h
  read p sessionId session h := by cases h

theorem capped_step (hc : Capped s) (hp : Prompt s a) (h : step sha256 s a = some s') : Capped s' where
  rows sessionId row' hrow := by
    cases origin_event (event_of_step sha256 h) hc hp hrow with
    | created _ hcap => exact hcap
    | kept row hrow _ hcap => exact hcap (hc.rows sessionId row hrow)
  read p sessionId session hr := by
    have he := event_of_step sha256 h
    rcases read_step h hr with hr | hrow
    · obtain ⟨row, hrow, hcr⟩ := hc.read p sessionId session hr
      obtain ⟨row', hrow', hcr'⟩ := createdAt_event he hrow
      exact ⟨row', hrow', hcr'.trans hcr⟩
    · exact createdAt_event he hrow

/-- However often and whenever a session is refreshed, it expires within thirty
days of its creation, and by then the last swap and the last validation of it
have been accepted. -/
theorem expiry_capped (h : (machine sha256).Reach Prompt s) :
    (∀ sessionId row, s.sessions sessionId = some row → ∀ e ∈ row.expiresAt, e ≤ row.createdAt + 30 * dayMs) ∧
    (∀ p t token sessionId new, step sha256 s (.compareAndSwap p) = some t →
      t.refreshes p = .done token sessionId new →
      ∃ row, s.sessions sessionId = some row ∧ s.clock ≤ row.createdAt + 30 * dayMs) ∧
    (∀ p token sessionId t session, step sha256 s (.refresh p token sessionId) = some t →
      t.refreshes p = .validated token sessionId session →
      s.sessions sessionId = some session ∧ s.clock ≤ session.createdAt + 30 * dayMs) ∧
    (∀ p t payload, step sha256 s (.findSessionById p) = some t → t.checks p = .accepted payload →
      ∃ row, s.sessions payload.sessionId = some row ∧ s.clock ≤ row.createdAt + 30 * dayMs) := by
  have hc : Capped s := h.inv capped_init fun _ _ _ hi ho hs => capped_step hi ho hs
  refine ⟨hc.rows, fun p t token sessionId new hs hd => ?_, fun p token sessionId t session hs hv => ?_,
    fun p t payload hs ha => ?_⟩
  · cases event_of_step sha256 hs with
    | swapRejected => simp [State.setRefresh] at hd
    | swap _ token' new' sessionId' session row row' e _ _ hrow hsw =>
      simp only [State.setRefresh, update_self, Refresh.done.injEq] at hd
      obtain ⟨-, rfl, -⟩ := hd
      exact ⟨row, hrow, Int.le_of_lt (swap_cap hsw).1⟩
  · obtain ⟨hrow, hval⟩ := refresh_read hs (by rw [hv]; rfl)
    exact ⟨hrow, validateSession_cap hval⟩
  · obtain ⟨row, hrow, hval⟩ := lookup_accepted hs ha
    exact ⟨row, hrow, validateSession_cap hval⟩

end

/-- Refreshed every six days; the fourth refresh gets six days instead of seven. -/
def sixDayRefreshes : List Action :=
  [.signUp 1 ⟨true, true⟩, .login 0 1 true, .createSession 0 7, .signLogin 0 "a", .persistRefreshToken 0,
    .tick 518400000, .refresh 0 "a" 7, .signRefresh 0 "b", .compareAndSwap 0,
    .tick 518400000, .refresh 1 "b" 7, .signRefresh 1 "c", .compareAndSwap 1,
    .tick 518400000, .refresh 2 "c" 7, .signRefresh 2 "d", .compareAndSwap 2,
    .tick 518400000, .refresh 3 "d" 7, .signRefresh 3 "e", .compareAndSwap 3]

theorem expiry_capped_refreshes : ∃ s row, ((machine id).only Prompt).run init sixDayRefreshes = some s ∧
    s.sessions 7 = some row ∧ row.expiresAt = some (30 * dayMs) ∧ ∀ e ∈ row.expiresAt, e ≤ row.createdAt + 30 * dayMs := by
  have h0 : (((machine id).only Prompt).run init sixDayRefreshes).bind (fun s => (s.sessions 7).map (·.expiresAt)) =
      some (some (30 * dayMs)) := by decide
  obtain ⟨s, hs, h0⟩ := Option.bind_eq_some_iff.mp h0
  obtain ⟨row, hrow, he⟩ := Option.map_eq_some_iff.mp h0
  exact ⟨s, row, hs, hrow, he, (expiry_capped (Machine.path_of_run_only hs)).1 7 row hrow⟩

end IntellApi.Sessions
