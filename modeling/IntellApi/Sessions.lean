import IntellApi.Basic
import IntellApi.Lts

/-!
# Sessions

The rows of `user_sessions` and the requests on them: login, refresh, device
token registration, logout, and the access-token check. One database
statement is one atomic step, and a request is suspended between its
statements, so the machine's runs are the interleavings of any number of
requests. All clocks are one clock.
-/

namespace IntellApi.Sessions

abbrev Token := String
abbrev Hash := String

structure Session where
  userId : Uuid
  refreshTokenHash : Option Hash
  deviceToken : Option String
  lastActivityAt : Int
  expiresAt : Option Int
  isActive : Bool
  createdAt : Int
  deriving DecidableEq, Repr

structure User where
  emailVerified : Bool
  isActive : Bool
  deriving DecidableEq, Repr

structure JwtPayload where
  sub : Uuid
  sessionId : Uuid
  jti : Uuid
  exp : Int
  deriving DecidableEq, Repr

/-! ## Statements on a session row -/

def slidingMs : Int := 7 * dayMs
def absoluteMs : Int := 30 * dayMs
def sessionAbsoluteMaxMs : Int := 30 * dayMs

def createSession (now : Int) (userId : Uuid) : Session :=
  { userId, refreshTokenHash := none, deviceToken := none, lastActivityAt := now,
    expiresAt := some (now + slidingMs), isActive := true, createdAt := now }

/-- `expired`: the row is deactivated before the error is thrown. -/
inductive Validation
  | valid
  | inactive
  | expired
  deriving DecidableEq, Repr

def validateSession (now : Int) (session : Session) : Validation :=
  if !session.isActive then .inactive
  else if now > session.createdAt + sessionAbsoluteMaxMs then .expired
  else if session.expiresAt.any (now > ·) then .expired
  else .valid

def expireSession (session : Session) : Session := { session with isActive := false }

def setRefreshTokenHash (now : Int) (hash : Option Hash) (session : Session) : Session :=
  { session with
    refreshTokenHash := hash
    lastActivityAt := now
    isActive := if hash = none then false else session.isActive
    expiresAt := if hash = none then session.expiresAt else some (now + slidingMs) }

/-- The row after the swap; `none` when the `WHERE` clause does not match it. -/
def compareAndSwapRefreshTokenHash (now : Int) (expectedHash newHash : Hash) (createdAt : Int)
    (session : Session) : Option Session :=
  let absoluteCap := createdAt + absoluteMs
  let slidingWindow := now + slidingMs
  let newExpiresAt := if slidingWindow < absoluteCap then slidingWindow else absoluteCap
  if session.refreshTokenHash = some expectedHash ∧ session.isActive = true ∧
      session.expiresAt.any (· > now) = true ∧ session.createdAt > now - absoluteMs then
    some { session with refreshTokenHash := some newHash, lastActivityAt := now, expiresAt := some newExpiresAt }
  else none

def atomicallySwapFid (now : Int) (userId : Uuid) (token : String) (session : Session) : Option Session :=
  if session.userId = userId ∧ session.isActive = true ∧ session.expiresAt.any (· > now) = true then
    some { session with deviceToken := some token, lastActivityAt := now }
  else none

def deactivateSession (now : Int) (session : Session) : Session :=
  { session with isActive := false, refreshTokenHash := none, lastActivityAt := now }

/-- The last test of `JwtStrategy.validate`, made after `findSessionById`. -/
def jwtAccepts (now : Int) (session : Session) : Bool :=
  !(!session.isActive && session.expiresAt.any (· < now))

/-! ## Requests -/

inductive Login
  | idle
  | verified (userId : Uuid)
  | created (sessionId : Uuid)
  | signed (sessionId : Uuid) (refreshToken : Token)
  | done (sessionId : Uuid) (refreshToken : Token)
  | failed
  deriving DecidableEq, Repr

/-- `session` is the row as `findSessionById` read it. -/
inductive Refresh
  | idle
  | expiring (sessionId : Uuid)
  | validated (refreshToken : Token) (sessionId : Uuid) (session : Session)
  | signed (refreshToken : Token) (sessionId : Uuid) (session : Session) (newRefreshToken : Token)
  | done (refreshToken : Token) (sessionId : Uuid) (newRefreshToken : Token)
  | rejected
  deriving DecidableEq, Repr

inductive Check
  | idle
  | lookup (payload : JwtPayload)
  | expiring (sessionId : Uuid)
  | accepted (payload : JwtPayload)
  | rejected
  deriving DecidableEq, Repr

inductive Logout
  | idle
  | deactivating (sessionId : Uuid)
  | done (sessionId : Uuid)
  | notFound
  deriving DecidableEq, Repr

/-- `issued` is a ghost: every refresh token `signTokens` ever drew. -/
structure State where
  clock : Int
  users : Uuid → Option User
  sessions : Uuid → Option Session
  blacklist : Uuid → Option Int
  logins : Nat → Login
  refreshes : Nat → Refresh
  checks : Nat → Check
  logouts : Nat → Logout
  issued : List Token

inductive Action
  | tick (ms : Nat)
  | signUp (userId : Uuid) (user : User)
  | adminToggleUserStatus (userId : Uuid) (isActive : Bool)
  | login (p : Nat) (userId : Uuid) (valid : Bool)
  | oauthLogin (p : Nat) (userId : Uuid)
  | createSession (p : Nat) (sessionId : Uuid)
  | signLogin (p : Nat) (refreshToken : Token)
  | persistRefreshToken (p : Nat)
  | refresh (p : Nat) (refreshToken : Token) (sessionId : Uuid)
  | expireRefresh (p : Nat)
  | signRefresh (p : Nat) (newRefreshToken : Token)
  | compareAndSwap (p : Nat)
  | setDeviceToken (userId sessionId : Uuid) (token : String)
  | logout (p : Nat) (sessionId : Uuid) (decoded : Option JwtPayload)
  | deactivateSession (p : Nat)
  | validate (p : Nat) (payload : JwtPayload)
  | findSessionById (p : Nat)
  | expireCheck (p : Nat)

def State.setSession (s : State) (sessionId : Uuid) (session : Session) : State :=
  { s with sessions := Function.update s.sessions sessionId (some session) }

def State.setLogin (s : State) (p : Nat) (l : Login) : State :=
  { s with logins := Function.update s.logins p l }

def State.setRefresh (s : State) (p : Nat) (r : Refresh) : State :=
  { s with refreshes := Function.update s.refreshes p r }

def State.setCheck (s : State) (p : Nat) (c : Check) : State :=
  { s with checks := Function.update s.checks p c }

def State.setLogout (s : State) (p : Nat) (l : Logout) : State :=
  { s with logouts := Function.update s.logouts p l }

def State.issue (s : State) (token : Token) : State := { s with issued := token :: s.issued }

def State.expire (s : State) (sessionId : Uuid) : State :=
  { s with sessions := Function.update s.sessions sessionId ((s.sessions sessionId).map expireSession) }

def init : State :=
  { clock := 0, users := fun _ => none, sessions := fun _ => none, blacklist := fun _ => none,
    logins := fun _ => .idle, refreshes := fun _ => .idle, checks := fun _ => .idle, logouts := fun _ => .idle,
    issued := [] }

section
variable (sha256 : Token → Hash)

/-- `signTokens` draws a token whose hash no earlier token has. -/
def State.fresh (s : State) (token : Token) : Prop := sha256 token ∉ s.issued.map sha256

instance (s : State) (token : Token) : Decidable (s.fresh sha256 token) :=
  inferInstanceAs (Decidable (_ ∉ _))

def step (s : State) : Action → Option State
  | .tick ms => some { s with clock := s.clock + ms }
  | .signUp userId user =>
    if s.users userId = none then some { s with users := Function.update s.users userId (some user) } else none
  | .adminToggleUserStatus userId isActive =>
    match s.users userId with
    | some user => some { s with users := Function.update s.users userId (some { user with isActive }) }
    | none => some s
  | .login p userId valid =>
    match s.logins p, s.users userId with
    | .idle, some user => some (s.setLogin p (if valid && user.emailVerified then .verified userId else .failed))
    | .idle, none => some (s.setLogin p .failed)
    | _, _ => none
  | .oauthLogin p userId =>
    match s.logins p, s.users userId with
    | .idle, some _ => some (s.setLogin p (.verified userId))
    | _, _ => none
  | .createSession p sessionId =>
    match s.logins p, s.sessions sessionId with
    | .verified userId, none =>
      some ((s.setSession sessionId (Sessions.createSession s.clock userId)).setLogin p (.created sessionId))
    | _, _ => none
  | .signLogin p refreshToken =>
    match s.logins p with
    | .created sessionId =>
      if s.fresh sha256 refreshToken then
        some ((s.issue refreshToken).setLogin p (.signed sessionId refreshToken))
      else none
    | _ => none
  | .persistRefreshToken p =>
    match s.logins p with
    | .signed sessionId refreshToken =>
      match s.sessions sessionId with
      | some session =>
        some ((s.setSession sessionId (setRefreshTokenHash s.clock (some (sha256 refreshToken)) session)).setLogin p
          (.done sessionId refreshToken))
      | none => some (s.setLogin p .failed)
    | _ => none
  | .refresh p refreshToken sessionId =>
    match s.refreshes p, s.sessions sessionId with
    | .idle, some session =>
      match validateSession s.clock session with
      | .valid => some (s.setRefresh p (.validated refreshToken sessionId session))
      | .inactive => some (s.setRefresh p .rejected)
      | .expired => some (s.setRefresh p (.expiring sessionId))
    | .idle, none => some (s.setRefresh p .rejected)
    | _, _ => none
  | .expireRefresh p =>
    match s.refreshes p with
    | .expiring sessionId => some ((s.expire sessionId).setRefresh p .rejected)
    | _ => none
  | .signRefresh p newRefreshToken =>
    match s.refreshes p with
    | .validated refreshToken sessionId session =>
      if s.users session.userId = none ∨ session.refreshTokenHash ≠ some (sha256 refreshToken) then
        some (s.setRefresh p .rejected)
      else if s.fresh sha256 newRefreshToken then
        some ((s.issue newRefreshToken).setRefresh p (.signed refreshToken sessionId session newRefreshToken))
      else none
    | _ => none
  | .compareAndSwap p =>
    match s.refreshes p with
    | .signed refreshToken sessionId session newRefreshToken =>
      match session.refreshTokenHash, s.sessions sessionId with
      | some expectedHash, some row =>
        match compareAndSwapRefreshTokenHash s.clock expectedHash (sha256 newRefreshToken) session.createdAt row with
        | some row' =>
          some ((s.setSession sessionId row').setRefresh p (.done refreshToken sessionId newRefreshToken))
        | none => some (s.setRefresh p .rejected)
      | _, _ => some (s.setRefresh p .rejected)
    | _ => none
  | .setDeviceToken userId sessionId token =>
    match (s.sessions sessionId).bind (atomicallySwapFid s.clock userId token) with
    | some row => some (s.setSession sessionId row)
    | none => some s
  | .logout p sessionId decoded =>
    match s.logouts p with
    | .idle =>
      match decoded with
      | some payload =>
        let ttl := payload.exp - s.clock / 1000
        if ttl > 0 then
          some ({ s with blacklist := Function.update s.blacklist payload.jti (some (s.clock + ttl * 1000)) }
            |>.setLogout p (.deactivating sessionId))
        else some (s.setLogout p (.deactivating sessionId))
      | none => some (s.setLogout p (.deactivating sessionId))
    | _ => none
  | .deactivateSession p =>
    match s.logouts p with
    | .deactivating sessionId =>
      match s.sessions sessionId with
      | some row =>
        some ((s.setSession sessionId (Sessions.deactivateSession s.clock row)).setLogout p (.done sessionId))
      | none => some (s.setLogout p .notFound)
    | _ => none
  | .validate p payload =>
    match s.checks p with
    | .idle =>
      if (s.blacklist payload.jti).any (s.clock < ·) then some (s.setCheck p .rejected)
      else some (s.setCheck p (.lookup payload))
    | _ => none
  | .findSessionById p =>
    match s.checks p with
    | .lookup payload =>
      match s.sessions payload.sessionId with
      | some session =>
        match validateSession s.clock session with
        | .valid => some (s.setCheck p (if jwtAccepts s.clock session then .accepted payload else .rejected))
        | .inactive => some (s.setCheck p .rejected)
        | .expired => some (s.setCheck p (.expiring payload.sessionId))
      | none => some (s.setCheck p .rejected)
    | _ => none
  | .expireCheck p =>
    match s.checks p with
    | .expiring sessionId => some ((s.expire sessionId).setCheck p .rejected)
    | _ => none

def machine : Lts.Machine State Action := ⟨init, step sha256⟩

end

end IntellApi.Sessions
