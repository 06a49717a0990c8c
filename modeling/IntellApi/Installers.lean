import IntellApi.Entities
import IntellApi.Lts
import IntellApi.RowLocks

/-!
# Installer profiles and assignments

A request is suspended between its statements. Suspending a profile and
creating an assignment are transactions that lock the profile row first; the
other updates commit by themselves, so they are a write and a commit. The bulk
revocation finds its rows when it starts and then takes them one after the
other, each with another look at the `WHERE` clause. A statement that waits for
a row has no step. The unique index on active assignments can only make an
insert throw, as anything can (`fail`).
-/

namespace IntellApi.Installers

open RowLocks

inductive InstallerStatus
  | active
  | pending
  | suspended
  deriving DecidableEq, Repr

inductive AssignmentStatus
  | active
  | revoked
  deriving DecidableEq, Repr

inductive AssignmentRole
  | viewer
  | technician
  deriving DecidableEq, Repr

structure InstallerProfile where
  userId : Uuid
  status : InstallerStatus
  deriving DecidableEq, Repr

structure InverterAssignment where
  inverterId : Uuid
  installerProfileId : Nat
  assignedByUserId : Option Uuid
  role : AssignmentRole
  status : AssignmentStatus
  assignedAt : Int
  revokedAt : Option Int
  deriving DecidableEq, Repr

structure CreateAssignmentDto where
  inverterId : Uuid
  installerProfileId : Nat
  role : AssignmentRole
  deriving DecidableEq, Repr

def notActiveMessage : String := "Installer profile is not active and cannot be assigned."
def alreadyRevokedMessage : String := "Assignment is already revoked."

/-! ## Checks and writes -/

def InverterAssignment.isActiveOf (profileId : Nat) (assignment : InverterAssignment) : Bool :=
  assignment.installerProfileId = profileId ∧ assignment.status = .active

def InverterAssignment.isActiveOn (inverterId : Uuid) (profileId : Nat) (assignment : InverterAssignment) : Bool :=
  assignment.inverterId = inverterId ∧ assignment.isActiveOf profileId

def revoke (now : Int) (assignment : InverterAssignment) : InverterAssignment :=
  { assignment with status := .revoked, revokedAt := some now }

def newAssignment (dto : CreateAssignmentDto) (requestingUserId : Uuid) (now : Int) : InverterAssignment :=
  { inverterId := dto.inverterId, installerProfileId := dto.installerProfileId
    assignedByUserId := some requestingUserId, role := dto.role, status := .active, assignedAt := now
    revokedAt := none }

/-- What `createAssignment` wants of the profile it has locked. -/
def checkAssignable (profile : Option InstallerProfile) : Except ServiceError InstallerProfile :=
  match profile with
  | none => throw (.notFound SysMsg.notFound)
  | some profile => if profile.status ≠ .active then throw (.conflict notActiveMessage) else return profile

section
variable (inverters : Uuid → Option Inverter)

def checkOwner (inverterId requestingUserId : Uuid) : Except ServiceError Inverter :=
  match inverters inverterId with
  | none => throw (.notFound SysMsg.notFound)
  | some inverter => if inverter.userId ≠ requestingUserId then throw (.forbidden SysMsg.forbidden) else return inverter

/-- What `revokeAssignment` wants of the row it has read. -/
def checkRevocable (assignment : Option InverterAssignment) (requestingUserId : Uuid)
    (expectedInverterId : Option Uuid) : Except ServiceError InverterAssignment :=
  match assignment with
  | none => throw (.notFound SysMsg.notFound)
  | some assignment => do
    if expectedInverterId.any (assignment.inverterId ≠ ·) then throw (.notFound SysMsg.notFound)
    let _ ← checkOwner inverters assignment.inverterId requestingUserId
    if assignment.status = .revoked then throw (.conflict alreadyRevokedMessage)
    return assignment

end

/-! ## Requests -/

inductive Request
  | lockingToSuspend (id : Nat)
  | revokingAll (id : Nat)
  | revokingRows (id : Nat) (revokedAt : Int) (todo : List Nat)
  | settingSuspended (id : Nat)
  | findingProfile (id : Nat) (status : InstallerStatus)
  | settingStatus (id : Nat) (status : InstallerStatus)
  | lockingToAssign (dto : CreateAssignmentDto) (requestingUserId : Uuid)
  | findingExisting (dto : CreateAssignmentDto) (requestingUserId : Uuid)
  | savingAssignment (dto : CreateAssignmentDto) (requestingUserId : Uuid)
  | gettingAssignment (assignmentId : Nat) (requestingUserId : Uuid) (expectedInverterId : Option Uuid)
  | revokingAssignment (assignmentId : Nat)
  | committing
  | rollingBack
  | done
  | failed
  deriving DecidableEq, Repr

/-- Rows and requests are named by their places, transactions by their requests. -/
structure State where
  clock : Int
  profiles : Table Nat InstallerProfile
  assignments : Table Nat InverterAssignment
  requests : List Request
  deriving DecidableEq, Repr

inductive Action
  | tick (ms : Nat)
  | createProfile (userId : Uuid)
  | updateStatus (id : Nat) (status : InstallerStatus)
  | createAssignment (dto : CreateAssignmentDto) (requestingUserId : Uuid)
  | revokeAssignment (assignmentId : Nat) (requestingUserId : Uuid) (expectedInverterId : Option Uuid)
  | statement (r : Nat)
  | fail (r : Nat)
  deriving DecidableEq, Repr

def init : State := { clock := 0, profiles := ⟨[]⟩, assignments := ⟨[]⟩, requests := [] }

def State.ask (s : State) (request : Request) : State := { s with requests := s.requests ++ [request] }

def State.goOn (s : State) (r : Nat) (request : Request) : State := { s with requests := s.requests.set r request }

def State.lockProfile (s : State) (r id : Nat) : State :=
  { s with profiles := s.profiles.put id ((s.profiles.row id).acquire r) }

def State.writeProfile (s : State) (r id : Nat) (profile : InstallerProfile) : State :=
  { s with profiles := s.profiles.put id ((s.profiles.row id).write r profile) }

def State.writeAssignment (s : State) (r i : Nat) (assignment : InverterAssignment) : State :=
  { s with assignments := s.assignments.put i ((s.assignments.row i).write r assignment) }

def State.insertAssignment (s : State) (r : Nat) (assignment : InverterAssignment) : State :=
  { s with assignments := s.assignments.insert r assignment }

def State.commit (s : State) (r : Nat) : State :=
  { s with profiles := s.profiles.commit r, assignments := s.assignments.commit r }

def State.rollback (s : State) (r : Nat) : State :=
  { s with profiles := s.profiles.rollback r, assignments := s.assignments.rollback r }

section
variable (inverters : Uuid → Option Inverter)

def State.updateProfile (s : State) (r id : Nat) (status : InstallerStatus) : Option State :=
  if (s.profiles.row id).free r then
    match (s.profiles.row id).seen r with
    | some profile => some ((s.writeProfile r id { profile with status }).goOn r .committing)
    | none => some (s.goOn r .rollingBack)
  else none

def requestStep (s : State) (r : Nat) : Request → Option State
  | .lockingToSuspend id =>
    if (s.profiles.row id).free r then
      match (s.profiles.row id).seen r with
      | some _ => some ((s.lockProfile r id).goOn r (.revokingAll id))
      | none => some (s.goOn r .rollingBack)
    else none
  | .revokingAll id =>
    some (s.goOn r (.revokingRows id s.clock (s.assignments.select r (·.isActiveOf id))))
  | .revokingRows id _ [] => some (s.goOn r (.settingSuspended id))
  | .revokingRows id revokedAt (i :: todo) =>
    if (s.assignments.row i).free r then
      match (s.assignments.row i).seen r with
      | some assignment =>
        if assignment.isActiveOf id then
          some ((s.writeAssignment r i (revoke revokedAt assignment)).goOn r (.revokingRows id revokedAt todo))
        else some (s.goOn r (.revokingRows id revokedAt todo))
      | none => some (s.goOn r (.revokingRows id revokedAt todo))
    else none
  | .settingSuspended id => s.updateProfile r id .suspended
  | .findingProfile id status =>
    some (s.goOn r (if ((s.profiles.row id).seen r).isSome then .settingStatus id status else .failed))
  | .settingStatus id status => s.updateProfile r id status
  | .lockingToAssign dto requestingUserId =>
    if (s.profiles.row dto.installerProfileId).free r then
      match checkAssignable ((s.profiles.row dto.installerProfileId).seen r) with
      | .ok _ => some ((s.lockProfile r dto.installerProfileId).goOn r (.findingExisting dto requestingUserId))
      | .error _ => some (s.goOn r .rollingBack)
    else none
  | .findingExisting dto requestingUserId =>
    some (s.goOn r
      (if s.assignments.select r (·.isActiveOn dto.inverterId dto.installerProfileId) = [] then
        .savingAssignment dto requestingUserId
      else .rollingBack))
  | .savingAssignment dto requestingUserId =>
    some ((s.insertAssignment r (newAssignment dto requestingUserId s.clock)).goOn r .committing)
  | .gettingAssignment assignmentId requestingUserId expectedInverterId =>
    match checkRevocable inverters ((s.assignments.row assignmentId).seen r) requestingUserId expectedInverterId with
    | .ok _ => some (s.goOn r (.revokingAssignment assignmentId))
    | .error _ => some (s.goOn r .failed)
  | .revokingAssignment assignmentId =>
    if (s.assignments.row assignmentId).free r then
      match (s.assignments.row assignmentId).seen r with
      | some assignment =>
        some ((s.writeAssignment r assignmentId (revoke s.clock assignment)).goOn r .committing)
      | none => some (s.goOn r .rollingBack)
    else none
  | .committing => some ((s.commit r).goOn r .done)
  | .rollingBack => some ((s.rollback r).goOn r .failed)
  | .done | .failed => none

def step (s : State) : Action → Option State
  | .tick ms => some { s with clock := s.clock + ms }
  | .createProfile userId =>
    -- one profile per user, by a unique index; its transaction shares no row with the others
    if s.profiles.rows.any (·.committed.any (·.userId = userId)) then none
    else some { s with profiles := s.profiles.add ⟨userId, .pending⟩ }
  | .updateStatus id status =>
    some (s.ask (if status = .suspended then .lockingToSuspend id else .findingProfile id status))
  | .createAssignment dto requestingUserId =>
    match checkOwner inverters dto.inverterId requestingUserId with
    | .ok _ => some (s.ask (.lockingToAssign dto requestingUserId))
    | .error _ => some (s.ask .failed)
  | .revokeAssignment assignmentId requestingUserId expectedInverterId =>
    some (s.ask (.gettingAssignment assignmentId requestingUserId expectedInverterId))
  | .statement r => s.requests[r]?.bind (requestStep inverters s r)
  | .fail r =>
    match s.requests[r]? with
    | none | some .done | some .failed => none
    | some _ => some (s.goOn r .rollingBack)

def machine : Lts.Machine State Action := ⟨init, step inverters⟩

end

end IntellApi.Installers
