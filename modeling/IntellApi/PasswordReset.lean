import IntellApi.Basic
import IntellApi.Lts

/-!
# Password reset

The `resetPassword` requests for one address, the user of that address and the
key `password_reset_token` in Redis. The key may expire and the user may be
written by others at any time. A request is suspended at each call, which may
fail; its steps carry the answer. `compare` is bcrypt's: comparing touches
nothing else and belongs to the step that reads the hash. Of `forgotPassword`
only its last write is seen here; it stores the hash of a token that was drawn
for it and mailed before.
-/

namespace IntellApi.PasswordReset

/-! ## Tokens and requests -/

def isHexDigit (c : Char) : Bool := c.isDigit || c ∈ ['a', 'b', 'c', 'd', 'e', 'f']

/-- What `generateResetToken` draws: 32 bytes in hexadecimal. -/
def isResetToken (token : String) : Bool := token.toList.length = 64 && token.toList.all isHexDigit

def isVariationSelector (c : Char) : Bool := c.toNat = 0xfe0e || c.toNat = 0xfe0f

/-- The length that the validator counts: a selector belongs to the character before it. -/
def textLength : List Char → Nat
  | [] => 0
  | [_] => 1
  | c :: d :: cs => (if isVariationSelector d && !isVariationSelector c then 0 else 1) + textLength (d :: cs)

structure ResetPasswordDto where
  password : String
  token : String
  deriving DecidableEq, Repr

def checkLength (property : String) (least most : Nat) (value : String) : Except ServiceError Unit :=
  let len := textLength value.toList
  if len < least then
    throw (.badRequest (property ++ " must be longer than or equal to " ++ toString least ++ " characters"))
  else if most < len then
    throw (.badRequest (property ++ " must be shorter than or equal to " ++ toString most ++ " characters"))
  else return ()

def ResetPasswordDto.validate (dto : ResetPasswordDto) : Except ServiceError Unit := do
  checkLength "password" 8 128 dto.password
  checkLength "token" 32 64 dto.token

/-! ## State -/

structure User where
  emailVerified : Bool
  passwordHash : String
  deriving DecidableEq, Repr

/-- Where a `resetPassword` request is suspended. -/
inductive Phase
  | readingToken
  | findingByEmail
  | findingUser
  | updating
  | mailing
  | deletingToken
  | done
  | throwing (error : ServiceError)
  deriving DecidableEq, Repr

/-- `passwordHash` is what bcrypt makes of the new password. -/
structure Request where
  token : String
  passwordHash : String
  phase : Phase
  deriving DecidableEq, Repr

/-- Ghosts: the tokens ever drawn, and the tokens of the requests that have
changed the password, one entry for each change. -/
structure State where
  user : Option User
  tokenHash : Option String
  requests : List Request
  drawn : List String
  changes : List String
  deriving DecidableEq, Repr

inductive Action
  | setUser (user : User)
  | forgotPassword (token tokenHash : String)
  | tokenExpires
  | resetPassword (dto : ResetPasswordDto) (passwordHash : String)
  | execute (p : Nat) (answer : Answer)

def init : State := { user := none, tokenHash := none, requests := [], drawn := [], changes := [] }

def State.move (s : State) (p : Nat) (x : Request) (phase : Phase) : State :=
  { s with requests := s.requests.set p { x with phase } }

/-- The password of the user is changed by a request. -/
def State.change (s : State) (x : Request) : State :=
  { s with
    user := s.user.map fun user => { user with passwordHash := x.passwordHash }
    changes := x.token :: s.changes }

/-- A request whose body is refused never reaches the service. -/
def ResetPasswordDto.phase (dto : ResetPasswordDto) : Phase :=
  match dto.validate with
  | .ok _ => .readingToken
  | .error e => .throwing e

section
variable (compare : String → String → Bool)

def requestStep (s : State) (p : Nat) (x : Request) (answer : Answer) : Phase → Option State
  | .readingToken =>
    some (s.move p x (answer.orThrow
      (match s.tokenHash with
        | none => .throwing (.forbidden SysMsg.forbidden)
        | some tokenHash =>
          if compare x.token tokenHash then .findingByEmail else .throwing (.unauthorized SysMsg.invalidToken))
      .throwing))
  | .findingByEmail =>
    some (s.move p x (answer.orThrow
      (match s.user with
        | none => .throwing (.forbidden SysMsg.invalidCredentials)
        | some user => if user.emailVerified then .findingUser else .throwing (.forbidden SysMsg.unverifiedUser))
      .throwing))
  | .findingUser =>
    some (s.move p x (answer.orThrow
      (match s.user with
        | none => .throwing (.notFound SysMsg.notFound)
        | some _ => .updating)
      .throwing))
  | .updating =>
    match s.user with
    | none => some (s.move p x (answer.orThrow (.throwing (.internalServerError SysMsg.internalServerError)) .throwing))
    | some _ => some ((if answer.applied then s.change x else s).move p x (answer.orThrow .mailing .throwing))
  | .mailing => some (s.move p x (answer.orThrow .deletingToken .throwing))
  | .deletingToken =>
    some ({ s with tokenHash := if answer.applied then none else s.tokenHash }.move p x (answer.orThrow .done .throwing))
  | .done | .throwing _ => none

def step (s : State) : Action → Option State
  | .setUser user => some { s with user := some user }
  | .forgotPassword token tokenHash =>
    -- the token is new and this is a hash of it
    if token ∉ s.drawn ∧ isResetToken token = true ∧ compare token tokenHash = true then
      some { s with tokenHash := some tokenHash, drawn := token :: s.drawn }
    else none
  | .tokenExpires => some { s with tokenHash := none }
  | .resetPassword dto passwordHash =>
    some { s with requests := s.requests ++ [⟨dto.token, passwordHash, dto.phase⟩] }
  | .execute p answer => s.requests[p]?.bind fun x => requestStep compare s p x answer x.phase

def machine : Lts.Machine State Action := ⟨init, step compare⟩

end

end IntellApi.PasswordReset
