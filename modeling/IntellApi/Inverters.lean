import IntellApi.MetricsPoller

/-!
# Connecting and deactivating inverters

A request is suspended at the adapter's answer, at each statement and again
until its answer is there, so a write can be done and its call still fail. The
control message is handed to the publisher when the write is answered and nobody
waits for it. Outgoing messages reach Redis in any order, as there are several
processes.

`lowerCase` is what PostgreSQL makes of an id: a request may spell it in upper
case, and its control message spells it as the request does.
-/

namespace IntellApi.Inverters

open MetricsPoller

structure InverterRow extends Inverter where
  serialNumber : String
  deriving DecidableEq, Repr

structure VerifiedSystem where
  serialNumber : String
  ratedCapacityKwh : ℚ
  deriving DecidableEq, Repr

inductive Request
  | verifying (brand : InverterBrand) (userId : Uuid)
  | findingSerial (brand : InverterBrand) (systemData : VerifiedSystem) (userId : Uuid)
  | found (brand : InverterBrand) (existing : InverterRow)
  | creating (brand : InverterBrand) (systemData : VerifiedSystem) (userId : Uuid)
  | created (inverter : InverterRow)
  | connected (inverter : InverterRow) (created : Bool)
  | gettingInverter (inverterId userId : Uuid)
  | deactivating (inverterId : Uuid) (inverter : InverterRow)
  | updated (inverterId : Uuid) (inverter : InverterRow)
  | deactivated (inverter : InverterRow)
  | failed (error : ServiceError)
  deriving DecidableEq, Repr

structure Service where
  inverters : List InverterRow
  requests : List Request
  outgoing : List InverterControlMessage
  deriving DecidableEq, Repr

inductive Action
  | connectInverter (brand : InverterBrand) (userId : Uuid)
  | deactivateInverter (inverterId userId : Uuid)
  | verified (r : Nat) (systemData : VerifiedSystem)
  | statement (r : Nat) (newId : Uuid)
  | answered (r : Nat)
  | fail (r : Nat) (message : String)
  deriving DecidableEq, Repr

def brandText : InverterBrand → String
  | .victron => "VICTRON"
  | .growatt => "GROWATT"
  | .sunsynk => "SUNSYNK"
  | .deye => "DEYE"
  | .sandbox => "SANDBOX"

def alreadyInactiveMessage : String := "This inverter is already deactivated"

def alreadyConnectedMessage (brand : InverterBrand) : String :=
  "This " ++ brandText brand ++ " installation is already connected to an account."

def unsupportedMessage (brand : InverterBrand) : String := "Unsupported inverter brand: " ++ brandText brand

def controlMessage (event : InverterControlEvent) (inverterId : Uuid) (brand : InverterBrand) : InverterControlMessage :=
  ⟨event, inverterId, brandText brand⟩

/-- `persistSandboxInverter` gives each user an inverter of his own. -/
def serialFor (brand : InverterBrand) (systemData : VerifiedSystem) (userId : Uuid) : String :=
  if brand = .sandbox then systemData.serialNumber ++ "-" ++ toString userId else systemData.serialNumber

def newInverter (id : Uuid) (brand : InverterBrand) (systemData : VerifiedSystem) (userId : Uuid) : InverterRow :=
  { id, userId, brand, isActive := true, isOffline := false
    ratedCapacityKwh := systemData.ratedCapacityKwh, panelCapacityKw := 0
    serialNumber := serialFor brand systemData userId }

def checkDeactivatable (inverter : Option InverterRow) (requestingUserId : Uuid) : Except ServiceError InverterRow :=
  match inverter with
  | none => throw (.notFound SysMsg.notFound)
  | some inverter => do
    if inverter.userId ≠ requestingUserId then throw (.forbidden SysMsg.forbidden)
    if !inverter.isActive then throw (.conflict alreadyInactiveMessage)
    return inverter

def deactivateById (id : Uuid) (inverters : List InverterRow) : List InverterRow :=
  inverters.map fun inverter => if inverter.id = id then { inverter with isActive := false } else inverter

namespace Service

def init : Service := ⟨[], [], []⟩

def ask (s : Service) (request : Request) : Service := { s with requests := s.requests ++ [request] }

def goOn (s : Service) (r : Nat) (request : Request) : Service := { s with requests := s.requests.set r request }

def publish (s : Service) (msg : InverterControlMessage) : Service := { s with outgoing := s.outgoing ++ [msg] }

section
variable (lowerCase : Uuid → Uuid)

def requestStep (s : Service) (r : Nat) (newId : Uuid) : Request → Option Service
  | .findingSerial brand systemData userId =>
    match s.inverters.find? (·.serialNumber = serialFor brand systemData userId) with
    | none => some (s.goOn r (.creating brand systemData userId))
    | some existing => some (s.goOn r (.found brand existing))
  | .creating brand systemData userId =>
    let inverter := newInverter newId brand systemData userId
    if s.inverters.any (·.id = newId) ∨ lowerCase newId ≠ newId then none
    else if s.inverters.any (·.serialNumber = inverter.serialNumber) then
      -- the unique constraint on the serial number
      some (s.goOn r (.failed (.error "duplicate key value")))
    else some ({ s with inverters := s.inverters ++ [inverter] }.goOn r (.created inverter))
  | .gettingInverter inverterId userId =>
    match checkDeactivatable (s.inverters.find? (·.id = lowerCase inverterId)) userId with
    | .ok inverter => some (s.goOn r (.deactivating inverterId inverter))
    | .error e => some (s.goOn r (.failed e))
  | .deactivating inverterId inverter =>
    some ({ s with inverters := deactivateById (lowerCase inverterId) s.inverters }.goOn r (.updated inverterId inverter))
  | .verifying _ _ | .found _ _ | .created _ | .connected _ _ | .updated _ _ | .deactivated _ | .failed _ => none

def answerStep (s : Service) (r : Nat) : Request → Option Service
  | .found brand existing =>
    some (s.goOn r
      (if brand = .sandbox then .connected existing false else .failed (.conflict (alreadyConnectedMessage brand))))
  | .created inverter =>
    some ((s.publish (controlMessage .registered inverter.id inverter.brand)).goOn r (.connected inverter true))
  | .updated inverterId inverter =>
    some ((s.publish (controlMessage .deregistered inverterId inverter.brand)).goOn r
      (.deactivated { inverter with isActive := false }))
  | .verifying _ _ | .findingSerial _ _ _ | .creating _ _ _ | .connected _ _ | .gettingInverter _ _ | .deactivating _ _
  | .deactivated _ | .failed _ => none

def step (s : Service) : Action → Option Service
  | .connectInverter brand userId =>
    some (s.ask (if brand = .deye then .failed (.conflict (unsupportedMessage brand)) else .verifying brand userId))
  | .deactivateInverter inverterId userId => some (s.ask (.gettingInverter inverterId userId))
  | .verified r systemData =>
    match s.requests[r]? with
    | some (.verifying brand userId) => some (s.goOn r (.findingSerial brand systemData userId))
    | _ => none
  | .statement r newId => s.requests[r]?.bind (s.requestStep lowerCase r newId)
  | .answered r => s.requests[r]?.bind (s.answerStep r)
  | .fail r message =>
    match s.requests[r]? with
    | none | some (.connected _ _) | some (.deactivated _) | some (.failed _) => none
    | some _ => some (s.goOn r (.failed (.error message)))

end

end Service

end IntellApi.Inverters
