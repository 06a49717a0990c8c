import IntellApi.Entities
import IntellApi.Lts

/-!
# Invites and memberships

The rows of `inverter_members` and the requests on them. Every ORM call is one
step, and a request is suspended between its calls; `found` and `existing` name
the row a `get` returned. The calls that touch no member row (the mailer, the
user and inverter tables) only decide whether a request goes on: `fail` is a
request in which anything at all throws. A unique index keeps one row in force
for an inverter and an address, and a statement that would break it throws.
-/

namespace IntellApi.TeamAccess

open Lts

def inviteTtlMs : Int := 7 * 24 * 60 * 60 * 1000

structure InviteMemberDto where
  email : Email
  role : InverterRole
  deriving DecidableEq, Repr

/-! ## Statements on a row -/

/-- The tests of `findInviteByTokenAndEmail` on the row it found. -/
def findInviteByTokenAndEmail (now : Int) (member : InverterMember) : Except ServiceError InverterMember :=
  if member.status ≠ .invited then throw (.conflict SysMsg.inviteAlreadyAccepted)
  else if member.inviteTokenExpiresAt.any (now > ·) then throw (.conflict SysMsg.inviteTokenExpired)
  else return member

def activateMembership (now : Int) (userId : Uuid) (member : InverterMember) : InverterMember :=
  { member with status := .active, inviteTokenExpiresAt := some now, userId := some userId }

def revokeMemberAccess (member : InverterMember) : InverterMember := { member with status := .deactivated }

def updateMemberRole (role : InverterRole) (member : InverterMember) : InverterMember := { member with role }

/-- The row after the conditional update; `none` when the `WHERE` clause does not match it. -/
def atomicReInviteExistingRecord (role : InverterRole) (inviteToken inviterId : Uuid) (expiry : Int)
    (member : InverterMember) : Option InverterMember :=
  if member.status = .deactivated then
    some { member with
      status := .invited, role, inviteToken, invitedById := some inviterId, inviteTokenExpiresAt := some expiry }
  else none

def refreshUserInvite (inverterId newToken : Uuid) (expiry : Int) (member : InverterMember) : Option InverterMember :=
  if member.status = .invited ∧ member.inverterId = inverterId then
    some { member with inviteToken := newToken, inviteTokenExpiresAt := some expiry }
  else none

def invite (now : Int) (dto : InviteMemberDto) (inverterId inviterId : Uuid) (existingUser : Option Uuid)
    (inviteToken : Uuid) : InverterMember :=
  { inverterId, userId := existingUser, email := dto.email, role := dto.role, status := .invited
    invitedById := some inviterId, inviteToken, inviteTokenExpiresAt := some (now + inviteTtlMs) }

/-! ## Requests -/

/-- Where a request is suspended. The two ways to accept an invite differ in
the account: `registering` has still to create it. -/
inductive Request
  | registering (memberId : Nat)
  | activating (memberId : Nat) (userId : Uuid)
  | accepted (memberId : Nat)
  | revoking (memberId : Nat)
  | revoked (memberId : Nat)
  | inviting (dto : InviteMemberDto) (inverterId inviterId : Uuid)
  | reInviting (memberId : Nat) (role : InverterRole) (inviterId : Uuid)
  | reloading (memberId : Nat)
  | invited (memberId : Nat)
  | updating (memberId : Nat) (role : InverterRole)
  | updated (memberId : Nat)
  | failed
  deriving DecidableEq, Repr

/-- Rows and requests are named by their places. -/
structure State where
  clock : Int
  members : List InverterMember
  requests : List Request
  deriving DecidableEq, Repr

/-- `request` takes the next step of a request; `drawn` is the token or the
account it creates, `user` the account `findByEmail` finds. -/
inductive Action
  | tick (ms : Nat)
  | registerFromInvite (inviteToken : Uuid) (email : Email) (found : Nat)
  | existingUserAcceptInvite (inviteToken : Uuid) (email : Email) (userId : Uuid) (found : Nat)
  | revokeMemberAccess (inverterId : Uuid) (memberId : Nat)
  | inviteMember (dto : InviteMemberDto) (inverterId inviterId : Uuid) (existing : Option Nat)
  | refreshUserInvite (inviteId : Nat) (inverterId newToken : Uuid)
  | updateMemberRole (inverterId : Uuid) (memberId : Nat) (role : InverterRole)
  | request (r : Nat) (drawn : Uuid) (user : Option Uuid)
  | fail (r : Nat)
  deriving DecidableEq, Repr

def init : State := { clock := 0, members := [], requests := [] }

def State.ask (s : State) (request : Request) : State := { s with requests := s.requests ++ [request] }

def State.respond (s : State) (r : Nat) (request : Request) : State :=
  { s with requests := s.requests.set r request }

def State.taken (s : State) (id : Nat) (member : InverterMember) : Bool :=
  s.members.zipIdx.any fun (q, i) =>
    i ≠ id ∧ q.status ≠ .deactivated ∧ q.inverterId = member.inverterId ∧ q.email = member.email

def State.write (s : State) (id : Nat) (member : InverterMember) : Option State :=
  if member.status ≠ .deactivated ∧ s.taken id member then none
  else some { s with members := s.members.set id member }

def State.insert (s : State) (member : InverterMember) : Option State :=
  if s.taken s.members.length member then none else some { s with members := s.members ++ [member] }

def State.findInvite (s : State) (inviteToken : Uuid) (email : Email) (found : Nat) : Except ServiceError Nat :=
  match s.members[found]? with
  | some member =>
    if member.inviteToken = inviteToken ∧ member.email = email then
      (findInviteByTokenAndEmail s.clock member).map fun _ => found
    else throw (.notFound SysMsg.inverterMembershipNotFound)
  | none => throw (.notFound SysMsg.inverterMembershipNotFound)

def State.getMember (s : State) (inverterId : Uuid) (memberId : Nat) : Except ServiceError Nat :=
  if s.members[memberId]?.any (·.inverterId = inverterId) then return memberId
  else throw (.notFound SysMsg.inverterMembershipNotFound)

def State.finds (s : State) (inverterId : Uuid) (email : Email) : Option Nat → Bool
  | some id => s.members[id]?.any fun m => m.inverterId = inverterId ∧ m.email = email
  | none => s.members.all fun m => ¬ (m.inverterId = inverterId ∧ m.email = email)

def State.commit (s : State) (r id : Nat) (next : Request) (f : InverterMember → Option InverterMember) : State :=
  match (s.members[id]?.bind f).bind (s.write id) with
  | some s' => s'.respond r next
  | none => s.respond r .failed

def requestStep (s : State) (r : Nat) (drawn : Uuid) (user : Option Uuid) : Request → Option State
  | .registering id => some (s.respond r (.activating id drawn))
  | .activating id userId => some (s.commit r id (.accepted id) fun m => some (activateMembership s.clock userId m))
  | .revoking id => some (s.commit r id (.revoked id) fun m => some (revokeMemberAccess m))
  | .inviting dto inverterId inviterId =>
    match s.insert (invite s.clock dto inverterId inviterId user drawn) with
    | some s' => some (s'.respond r (.invited s.members.length))
    | none => some (s.respond r .failed)
  | .reInviting id role inviterId =>
    match s.members[id]?.bind (atomicReInviteExistingRecord role drawn inviterId (s.clock + inviteTtlMs)) with
    | some member =>
      match s.write id member with
      | some s' => some (s'.respond r (.reloading id))
      | none => some (s.respond r .failed)
    -- no row updated: the row is read back all the same
    | none => some (s.respond r (.reloading id))
  | .reloading id =>
    some (s.respond r (if s.members[id]?.any (·.status = .invited) then .invited id else .failed))
  | .updating id role => some (s.commit r id (.updated id) fun m => some (updateMemberRole role m))
  | .accepted _ | .revoked _ | .invited _ | .updated _ | .failed => none

def orFailed (found : Except ServiceError Nat) (next : Nat → Request) : Request :=
  match found with
  | .ok id => next id
  | .error _ => .failed

def step (s : State) : Action → Option State
  | .tick ms => some { s with clock := s.clock + ms }
  | .registerFromInvite inviteToken email found =>
    some (s.ask (orFailed (s.findInvite inviteToken email found) .registering))
  | .existingUserAcceptInvite inviteToken email userId found =>
    some (s.ask (orFailed (s.findInvite inviteToken email found) (.activating · userId)))
  | .revokeMemberAccess inverterId memberId => some (s.ask (orFailed (s.getMember inverterId memberId) .revoking))
  | .inviteMember dto inverterId inviterId existing =>
    if s.finds inverterId dto.email existing then
      match existing with
      | none => some (s.ask (.inviting dto inverterId inviterId))
      | some id =>
        some (s.ask
          (if s.members[id]?.any (·.status = .deactivated) then .reInviting id dto.role inviterId else .failed))
    else none
  | .refreshUserInvite inviteId inverterId newToken =>
    some ((s.ask .failed).commit s.requests.length inviteId (.invited inviteId)
      (refreshUserInvite inverterId newToken (s.clock + inviteTtlMs)))
  | .updateMemberRole inverterId memberId role =>
    some (s.ask (orFailed (s.getMember inverterId memberId) (.updating · role)))
  | .request r drawn user => s.requests[r]?.bind (requestStep s r drawn user)
  | .fail r =>
    match s.requests[r]? with
    | none | some (.revoked _) | some (.updated _) | some .failed => none
    | some _ => some (s.respond r .failed)

def machine : Machine State Action := ⟨init, step⟩

end IntellApi.TeamAccess
