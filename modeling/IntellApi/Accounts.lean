import IntellApi.Entities
import IntellApi.Lts

/-!
# Accounts

The table `users` and the calls that write to it: registrations, Google
sign-ins, and the changes of one row. A call is suspended at each query, so
others run between what it has looked up and what it then writes. The column
`email` is of type `citext` and unique; `fold` is how it compares.
-/

namespace IntellApi.Accounts

open Lts

inductive UserRole
  | admin
  | superAdmin
  | user
  | installer
  deriving DecidableEq, Repr

inductive AdminStatus
  | active
  | invited
  | disabled
  deriving DecidableEq, Repr

/-- The columns an insert gives, with their defaults. -/
structure CreatePayload where
  email : Email
  passwordHash : Option String := none
  firstName : String
  lastName : String
  googleId : Option String := none
  emailVerified : Bool := false
  inverterBrand : Option InverterBrand := none
  onboardingStep : Option Nat := none
  onboardingComplete : Bool := false
  isInvitedUser : Bool := false
  isActive : Bool := false
  role : UserRole := .user
  adminStatus : Option AdminStatus := none
  phoneNumber : Option String := none
  deriving DecidableEq, Repr

structure User extends CreatePayload where
  id : Uuid
  deriving DecidableEq, Repr

/-! ## New accounts -/

structure CreateUserDto where
  email : Email
  password : String
  firstName : String
  lastName : String
  role : Option UserRole
  deriving DecidableEq, Repr

structure CreateAdminDto where
  firstName : String
  lastName : String
  email : Email
  role : UserRole
  deriving DecidableEq, Repr

def create (dto : CreateUserDto) (passwordHash : String) : CreatePayload where
  email := dto.email
  passwordHash := some passwordHash
  firstName := dto.firstName
  lastName := dto.lastName
  role := dto.role.getD .user
  onboardingStep := some 1
  onboardingComplete := false

def createTeamInvitedUser (dto : CreateUserDto) (passwordHash : String) : CreatePayload where
  email := dto.email
  passwordHash := some passwordHash
  firstName := dto.firstName
  lastName := dto.lastName
  role := dto.role.getD .user
  onboardingStep := some 2
  onboardingComplete := true
  isInvitedUser := true
  isActive := true
  emailVerified := true

def adminCreateAdmin (dto : CreateAdminDto) : CreatePayload where
  email := dto.email
  firstName := dto.firstName
  lastName := dto.lastName
  role := dto.role
  adminStatus := some .invited
  isActive := false
  emailVerified := false
  onboardingStep := some 1
  onboardingComplete := false

inductive Creation
  | user (dto : CreateUserDto)
  | teamInvitedUser (dto : CreateUserDto)
  | admin (dto : CreateAdminDto)
  deriving DecidableEq, Repr

def Creation.email : Creation → Email
  | .user dto | .teamInvitedUser dto => dto.email
  | .admin dto => dto.email

/-! ## Google accounts -/

structure GoogleOAuthDto where
  email : Email
  firstName : String
  lastName : String
  googleId : String
  deriving DecidableEq, Repr

structure TokenPayload where
  sub : String
  email : Option Email
  emailVerified : Bool
  givenName : Option String
  familyName : Option String
  name : Option String
  deriving DecidableEq, Repr

structure Profile where
  id : String
  displayName : String
  givenName : Option String
  familyName : Option String
  /-- each with whether it is verified -/
  emails : List (Email × Bool)
  deriving DecidableEq, Repr

namespace SysMsg

def invalidGoogleToken : String := "Invalid Google token payload"
def unverifiedGoogleAccountEmail : String := "Google account email is not verified"
def missingGoogleProfileInfo : String := "Google account did not provide required profile information"
def googleMobileAuthFailed : String := "Google authentication failed"
def conflictingGoogleAccount : String := "This email is already linked to a different Google account"

end SysMsg

def firstWord (text : String) : String := (text.splitOn " ").headD ""

def laterWords (text : String) : String := " ".intercalate (text.splitOn " ").tail

/-- The first half of `googleMobileLogin`; no ticket when the verification has thrown. -/
def verifyIdToken (ticket : Option (Option TokenPayload)) : Except ServiceError GoogleOAuthDto :=
  match ticket with
  | none => .error (.unauthorized SysMsg.googleMobileAuthFailed)
  | some none => .error (.unauthorized SysMsg.invalidGoogleToken)
  | some (some payload) =>
    match given payload.email with
    | none => .error (.unauthorized SysMsg.invalidGoogleToken)
    | some email =>
      if payload.emailVerified then
        .ok {
          email := email
          firstName := (payload.givenName.or (payload.name.map firstWord)).getD "User"
          lastName := payload.familyName.getD (laterWords email)
          googleId := payload.sub }
      else .error (.unauthorized SysMsg.unverifiedGoogleAccountEmail)

/-- `GoogleStrategy.validate`, up to the sign-in. -/
def validate (profile : Profile) : Except ServiceError GoogleOAuthDto :=
  match profile.emails with
  | [] => .error (.unauthorized SysMsg.missingGoogleProfileInfo)
  | (email, verified) :: _ =>
    if verified then
      .ok {
        email := email
        firstName := profile.givenName.getD (firstWord profile.displayName)
        lastName := profile.familyName.getD (laterWords profile.displayName)
        googleId := profile.id }
    else .error (.unauthorized SysMsg.unverifiedGoogleAccountEmail)

/-! ## Changes of one row -/

/-- Each change of a row by its id, under the function that makes it. -/
inductive Change
  | update (firstName lastName phoneNumber : Option String)
  | updatePersonalSettings (firstName lastName : Option String)
  | promoteUser (role : UserRole)
  /-- by `resetPassword` -/
  | updatePasswordHash (passwordHash : String)
  /-- by `verifyEmail`, with `true` -/
  | setEmailVerified
  | connectUserInverter (brand : InverterBrand)
  | adminToggleUserStatus (isActive : Bool)
  | adminUpdateAdminRole (role : UserRole)
  | adminUpdateAdminStatus (status : AdminStatus)
  /-- the first write of its transaction -/
  | createProfile
  | remove
  deriving DecidableEq, Repr

namespace Change

def isUser (user : User) : Bool := user.role = .user

def isAdmin (user : User) : Bool := user.role = .admin ∨ user.role = .superAdmin

def privilegedRoleMessage : String :=
  "This account has a privileged role and cannot be assigned an installer profile."

/-- What is looked up before the write, if anything is. -/
def check : Change → Option (Option User → Except ServiceError Unit)
  | .updatePersonalSettings .. | .setEmailVerified | .connectUserInverter _ => none
  | .update .. | .promoteUser _ | .updatePasswordHash _ | .remove => some fun user =>
    if user.isSome then .ok () else .error (.notFound IntellApi.SysMsg.notFound)
  | .adminToggleUserStatus _ => some fun user =>
    if user.any isUser then .ok () else .error (.notFound IntellApi.SysMsg.notFound)
  | .adminUpdateAdminRole _ | .adminUpdateAdminStatus _ => some fun user =>
    if user.any isAdmin then .ok () else .error (.notFound IntellApi.SysMsg.notFound)
  | .createProfile => some fun user =>
    match user with
    | none => .error (.notFound IntellApi.SysMsg.notFound)
    | some user =>
      if user.role = .user ∨ user.role = .installer then .ok () else .error (.conflict privilegedRoleMessage)

/-- What a write of no row throws. -/
def missing : Change → Option ServiceError
  | .update .. | .promoteUser _ | .updatePasswordHash _ | .updatePersonalSettings .. =>
    some (.internalServerError IntellApi.SysMsg.internalServerError)
  | .adminToggleUserStatus _ | .adminUpdateAdminRole _ | .adminUpdateAdminStatus _ =>
    some (.notFound IntellApi.SysMsg.notFound)
  | .setEmailVerified | .connectUserInverter _ | .createProfile | .remove => none

/-- The row afterwards, if it is kept. -/
def apply : Change → User → Option User
  | .update firstName lastName phoneNumber, user =>
    some { user with
      firstName := firstName.getD user.firstName
      lastName := lastName.getD user.lastName
      phoneNumber := phoneNumber.or user.phoneNumber }
  | .updatePersonalSettings firstName lastName, user =>
    some { user with firstName := firstName.getD user.firstName, lastName := lastName.getD user.lastName }
  | .promoteUser role, user | .adminUpdateAdminRole role, user => some { user with role }
  | .updatePasswordHash passwordHash, user => some { user with passwordHash := some passwordHash }
  | .setEmailVerified, user => some { user with emailVerified := true, onboardingStep := some 2 }
  | .connectUserInverter brand, user =>
    some { user with onboardingStep := some 3, onboardingComplete := true, inverterBrand := some brand }
  | .adminToggleUserStatus isActive, user => some { user with isActive }
  | .adminUpdateAdminStatus status, user => some { user with adminStatus := some status }
  | .createProfile, user => some { user with role := .installer }
  | .remove, _ => none

end Change

/-! ## The table -/

section
variable (fold : Email → Email)

def sameEmail (email : Email) (user : User) : Bool := fold user.email = fold email

def findByEmail (users : List User) (email : Email) : Option User := users.find? (sameEmail fold email)

/-- Refused by the unique index. -/
def insert (users : List User) (id : Uuid) (payload : CreatePayload) : Option (List User) :=
  if users.any (sameEmail fold payload.email) then none else some (users ++ [⟨payload, id⟩])

def googlePayload (dto : GoogleOAuthDto) : CreatePayload where
  email := dto.email
  firstName := dto.firstName
  lastName := dto.lastName
  googleId := some dto.googleId
  emailVerified := true
  onboardingStep := some 2
  onboardingComplete := false

def link (dto : GoogleOAuthDto) (user : User) : User :=
  if sameEmail fold dto.email user then { user with googleId := some dto.googleId, emailVerified := true } else user

/-- The table and the id that is returned. -/
def upsertByGoogle (users : List User) (id : Uuid) (dto : GoogleOAuthDto) : List User × Uuid :=
  match findByEmail fold users dto.email with
  | some user => (users.map (link fold dto), user.id)
  | none => (users ++ [⟨googlePayload dto, id⟩], id)

end

def applyAt (id : Uuid) (change : Change) (user : User) : Option User :=
  if user.id = id then change.apply user else some user

def applyChange (users : List User) (id : Uuid) (change : Change) : List User := users.filterMap (applyAt id change)

/-! ## Calls -/

/-- Where a call waits, or how it has ended. -/
inductive Call
  | findingByEmail (creation : Creation)
  | hashing (creation : Creation)
  | inserting (payload : CreatePayload)
  | created (user : User)
  | findingByGoogleId (dto : GoogleOAuthDto)
  | findingGoogleEmail (dto : GoogleOAuthDto)
  | upserting (dto : GoogleOAuthDto)
  | loading (dto : GoogleOAuthDto) (id : Uuid)
  | signedIn (dto : GoogleOAuthDto) (user : User)
  | findingUser (id : Uuid) (change : Change)
  | updating (id : Uuid) (change : Change)
  | changed
  | threw (error : ServiceError)
  deriving DecidableEq, Repr

def Change.done (change : Change) (user : Option User) : Call :=
  match user, change.missing with
  | none, some error => .threw error
  | _, _ => .changed

structure State where
  users : List User
  /-- the next id -/
  accounts : Uuid
  calls : List Call
  deriving DecidableEq, Repr

inductive Action
  | create (creation : Creation)
  | googleMobileLogin (ticket : Option (Option TokenPayload))
  | googleLogin (profile : Profile)
  | change (id : Uuid) (change : Change)
  /-- a look-up has returned; of several rows it takes the one at `choice` -/
  | found (c : Nat) (choice : Nat) (error : Option String)
  | hashed (c : Nat) (hash : Except String String)
  | written (c : Nat) (answer : Answer)
  deriving DecidableEq, Repr

def init : State := ⟨[], 0, []⟩

def State.ask (s : State) (call : Call) : State := { s with calls := s.calls ++ [call] }

def State.goOn (s : State) (c : Nat) (call : Call) : State := { s with calls := s.calls.set c call }

def State.findById (s : State) (id : Uuid) : Option User := s.users.find? fun user => user.id = id

def uniqueViolation : String :=
  "duplicate key value violates unique constraint \"UQ_97672ac88f789774dd47f7c8be3\""

def loadFailed : String := "Failed to load upserted user"

/-- What a new account waits for once its email is free. -/
def Creation.next : Creation → Call
  | .admin dto => .inserting (adminCreateAdmin dto)
  | creation => .hashing creation

def Creation.hashed (hash : String) : Creation → CreatePayload
  | .user dto => create dto hash
  | .teamInvitedUser dto => createTeamInvitedUser dto hash
  | .admin dto => adminCreateAdmin dto

def signIn (dto : Except ServiceError GoogleOAuthDto) : Call :=
  match dto with
  | .ok dto => .findingByGoogleId dto
  | .error error => .threw error

section
variable (fold : Email → Email)

/-- A look-up has returned without an error. -/
def look (s : State) (choice : Nat) : Call → Option Call
  | .findingByEmail creation =>
    some (if (findByEmail fold s.users creation.email).isSome then .threw (.conflict IntellApi.SysMsg.conflict)
      else creation.next)
  | .findingByGoogleId dto =>
    match s.users.filter fun user => user.googleId = some dto.googleId with
    | [] => some (.findingGoogleEmail dto)
    | user :: users => ((user :: users)[choice]?).map (.signedIn dto)
  -- an empty Google id counts as no link
  | .findingGoogleEmail dto =>
    some (match given ((findByEmail fold s.users dto.email).bind (·.googleId)) with
      | some linked =>
        if linked = dto.googleId then .upserting dto else .threw (.conflict SysMsg.conflictingGoogleAccount)
      | none => .upserting dto)
  | .loading dto id =>
    some (match s.findById id with
      | some user => .signedIn dto user
      | none => .threw (.internalServerError loadFailed))
  | .findingUser id change =>
    some (match change.check with
      | none => .updating id change
      | some check =>
        match check (s.findById id) with
        | .ok () => .updating id change
        | .error error => .threw error)
  | _ => none

/-- A write, done or not. -/
def write (s : State) (c : Nat) (answer : Answer) : Call → Option State
  | .inserting payload =>
    if answer.applied then
      match insert fold s.users s.accounts payload with
      | none => some (s.goOn c (.threw (.error uniqueViolation)))
      | some users =>
        let next := s.goOn c (answer.orThrow (.created ⟨payload, s.accounts⟩) .threw)
        some { next with users, accounts := s.accounts + 1 }
    else some (s.goOn c (answer.orThrow (.created ⟨payload, s.accounts⟩) .threw))
  | .upserting dto =>
    let (users, id) := upsertByGoogle fold s.users s.accounts dto
    let next := s.goOn c (answer.orThrow (.loading dto id) .threw)
    some (if answer.applied then { next with users, accounts := s.accounts + 1 } else next)
  | .updating id change =>
    let next := s.goOn c (answer.orThrow (change.done (s.findById id)) .threw)
    some (if answer.applied then { next with users := applyChange s.users id change } else next)
  | _ => none

def step (s : State) : Action → Option State
  | .create creation => some (s.ask (.findingByEmail creation))
  | .googleMobileLogin ticket => some (s.ask (signIn (verifyIdToken ticket)))
  | .googleLogin profile => some (s.ask (signIn (validate profile)))
  | .change id change =>
    some (s.ask (if change.check.isSome then .findingUser id change else .updating id change))
  | .found c choice error =>
    match s.calls[c]? with
    | some call => (look fold s choice call).map fun next =>
      s.goOn c (match error with
        | some message => .threw (.error message)
        | none => next)
    | none => none
  | .hashed c hash =>
    match s.calls[c]? with
    | some (.hashing creation) =>
      some (s.goOn c (match hash with
        | .ok hash => .inserting (creation.hashed hash)
        | .error message => .threw (.error message)))
    | _ => none
  | .written c answer =>
    match s.calls[c]? with
    | some call => write fold s c answer call
    | none => none

def machine : Machine State Action := ⟨init, step fold⟩

end

end IntellApi.Accounts
