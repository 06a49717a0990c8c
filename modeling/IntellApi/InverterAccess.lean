import IntellApi.Entities
import IntellApi.Paging

/-!
# Who may read an inverter

The guard of the inverter routes and the check the metric service makes again.
The guard asks for one row; the service scans a page of the member listing.
The ORM pages through the matching rows in an order of its own.
-/

namespace IntellApi.InverterAccess

open Paging

def activeIn (inverterId : Uuid) (m : InverterMember) : Bool :=
  m.inverterId = inverterId ∧ m.status = .active

def find (order : Order InverterMember) (rows : List InverterMember) (findOptions : InverterMember → Bool)
    (page limit : Nat) : List InverterMember :=
  order.page (rows.filter findOptions) page limit

def listMembers (order : Order InverterMember) (rows : List InverterMember) (inverterId : Uuid) (page limit : Option Nat) :
    List InverterMember :=
  find order rows (activeIn inverterId) (page.getD 1) (limit.getD 100)

def validateRequestingUser (order : Order InverterMember) (rows : List InverterMember) (inverter : Inverter)
    (requestingUserId : Uuid) : Except ServiceError Unit :=
  let members := listMembers order rows inverter.id none none
  let allowedUsers := members.filterMap (·.userId) ++ [inverter.userId]
  if allowedUsers.contains requestingUserId then return () else throw (.forbidden SysMsg.forbidden)

/-! ## The guard -/

structure Route where
  isInverterOutsider : Bool
  requiredRoles : Option (List InverterRole)
  deriving DecidableEq, Repr

def findOne (inverters : Uuid → Option Inverter) (id : Uuid) : Except ServiceError Inverter :=
  match inverters id with
  | some inverter => return inverter
  | none => throw (.notFound SysMsg.notFound)

/-- `user` is the subject of the access token. -/
def canActivate (inverters : Uuid → Option Inverter) (rows : List InverterMember) (route : Route)
    (inverterIdParam user : Option Uuid) : Except ServiceError Bool :=
  if route.isInverterOutsider then return true
  else
    match inverterIdParam, user with
    | some inverterId, some sub => do
      let inverter ← findOne inverters inverterId
      if sub = inverter.userId then return true
      else
        match rows.find? fun m => activeIn inverterId m && m.userId = some sub with
        | none => throw (.forbidden SysMsg.forbidden)
        | some inverterMember =>
          match route.requiredRoles with
          | none => return true
          | some requiredRoles =>
            return requiredRoles.any fun role => inverterRoleRank role ≤ inverterRoleRank inverterMember.role
    | _, _ => return false

end IntellApi.InverterAccess
