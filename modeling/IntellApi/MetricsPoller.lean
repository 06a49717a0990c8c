import IntellApi.Entities
import IntellApi.Lts

/-!
# The inverters the poller tracks

The poller loads its four arrays when the module starts and follows the control
channel from then on. A `registered` message starts a handler that nobody
awaits: it looks the inverter up, and tests and pushes when it is resumed. A
`deregistered` message is dealt with at once. `handled` only records what the
callback has been given.
-/

namespace IntellApi.MetricsPoller

open Function

/-! ## Control messages -/

inductive InverterControlEvent
  | registered
  | deregistered
  deriving DecidableEq, Repr

structure InverterControlMessage where
  event : InverterControlEvent
  inverterId : Uuid
  brand : String
  deriving DecidableEq, Repr

/-- The strings that are found in a parsed message, an empty id left out. -/
structure ParsedMessage where
  event : Option String
  inverterId : Option Uuid
  brand : Option String
  deriving DecidableEq, Repr

def isValidControlMessage (msg : ParsedMessage) : Option InverterControlMessage :=
  match msg.inverterId, msg.brand with
  | some inverterId, some brand =>
    if msg.event = some "registered" then some ⟨.registered, inverterId, brand⟩
    else if msg.event = some "deregistered" then some ⟨.deregistered, inverterId, brand⟩
    else none
  | _, _ => none

/-! ## The arrays -/

structure Tracked where
  victronInverters : List Inverter
  growattInverters : List Inverter
  sunsynkInverters : List Inverter
  sandboxInverters : List Inverter
  deriving DecidableEq, Repr

/-- `Object.values(InverterBrand)` -/
def brands : List InverterBrand := [.victron, .growatt, .sunsynk, .deye, .sandbox]

namespace Tracked

def empty : Tracked := ⟨[], [], [], []⟩

def getArrayForBrand (t : Tracked) : InverterBrand → List Inverter
  | .victron => t.victronInverters
  | .growatt => t.growattInverters
  | .sunsynk => t.sunsynkInverters
  | .sandbox => t.sandboxInverters
  | .deye => []

/-- The array `getArrayForBrand` returned is changed in place; nobody else has
that of the default case. -/
def setArrayForBrand (t : Tracked) (brand : InverterBrand) (inverters : List Inverter) : Tracked :=
  match brand with
  | .victron => { t with victronInverters := inverters }
  | .growatt => { t with growattInverters := inverters }
  | .sunsynk => { t with sunsynkInverters := inverters }
  | .sandbox => { t with sandboxInverters := inverters }
  | .deye => t

def ids (t : Tracked) : List Uuid :=
  (t.victronInverters ++ t.growattInverters ++ t.sunsynkInverters ++ t.sandboxInverters).map (·.id)

end Tracked

/-! ## The poller -/

inductive StartUp
  | loading (found : InverterBrand → Option (List Inverter))
  | subscribing
  | finished
  | failed

inductive Handler
  | lookingUp (inverterId : Uuid)
  | found (inverterId : Uuid) (inverter : Option Inverter)
  | finished
  | rejected
  deriving DecidableEq, Repr

structure Poller where
  startUp : StartUp
  tracked : Tracked
  failureCounts : Uuid → Option Nat
  handlers : List Handler
  handled : List InverterControlMessage

inductive Action
  | findSpecificBrand (brand : InverterBrand)
  | load
  | subscribe
  | startUpFails
  | deliver (raw : Option ParsedMessage)
  | get (h : Nat)
  | getFails (h : Nat)
  | resume (h : Nat)
  deriving DecidableEq, Repr

namespace Poller

def init : Poller := ⟨.loading fun _ => none, .empty, fun _ => none, [], []⟩

def handleInverterRegistered (p : Poller) (inverterId : Uuid) : Option Inverter → Poller
  | none => p
  | some inverter =>
    let arr := p.tracked.getArrayForBrand inverter.brand
    if arr.any (·.id = inverterId) then p
    else { p with tracked := p.tracked.setArrayForBrand inverter.brand (arr ++ [inverter]) }

def handleInverterDeregistered (p : Poller) (inverterId : Uuid) : Poller :=
  match brands.find? fun brand => (p.tracked.getArrayForBrand brand).any (·.id = inverterId) with
  | some brand =>
    let arr := (p.tracked.getArrayForBrand brand).eraseP (·.id = inverterId)
    { p with
      tracked := p.tracked.setArrayForBrand brand arr
      failureCounts := update p.failureCounts inverterId none }
  | none => p

/-- The callback of the control channel; `none` is a message that does not parse. -/
def onControlMessage (p : Poller) (raw : Option ParsedMessage) : Poller :=
  match raw.bind isValidControlMessage with
  | none => p
  | some msg =>
    let p := { p with handled := p.handled ++ [msg] }
    match msg.event with
    | .registered => { p with handlers := p.handlers ++ [.lookingUp msg.inverterId] }
    | .deregistered => p.handleInverterDeregistered msg.inverterId

def setHandler (p : Poller) (h : Nat) (handler : Handler) : Poller :=
  { p with handlers := p.handlers.set h handler }

/-- One step of the poller while the table is `rows`. -/
def step (rows : List Inverter) (p : Poller) : Action → Option Poller
  | .findSpecificBrand brand =>
    match p.startUp with
    | .loading found =>
      if brand ≠ .deye ∧ (found brand).isNone then
        some { p with startUp := .loading (update found brand (some (rows.filter (·.brand = brand)))) }
      else none
    | _ => none
  | .load =>
    match p.startUp with
    | .loading found =>
      match found .victron, found .growatt, found .sunsynk, found .sandbox with
      | some victron, some growatt, some sunsynk, some sandbox =>
        some { p with startUp := .subscribing, tracked := ⟨victron, growatt, sunsynk, sandbox⟩ }
      | _, _, _, _ => none
    | _ => none
  | .subscribe =>
    match p.startUp with
    | .subscribing => some { p with startUp := .finished }
    | _ => none
  | .startUpFails =>
    match p.startUp with
    | .loading _ | .subscribing => some { p with startUp := .failed }
    | _ => none
  | .deliver raw =>
    match p.startUp with
    | .finished => some (p.onControlMessage raw)
    | _ => none
  | .get h =>
    match p.handlers[h]? with
    | some (.lookingUp inverterId) => some (p.setHandler h (.found inverterId (rows.find? (·.id = inverterId))))
    | _ => none
  | .getFails h =>
    match p.handlers[h]? with
    | some (.lookingUp _) => some (p.setHandler h .rejected)
    | _ => none
  | .resume h =>
    match p.handlers[h]? with
    | some (.found inverterId inverter) => some ((p.handleInverterRegistered inverterId inverter).setHandler h .finished)
    | _ => none

end Poller

/-! ## The poller and the table -/

structure State where
  inverters : List Inverter
  poller : Poller

inductive Event
  | write (inverters : List Inverter)
  | poller (a : Action)
  deriving DecidableEq, Repr

section
variable (brandOf : Uuid → InverterBrand)

def step (s : State) : Event → Option State
  | .write inverters =>
    -- ids are a primary key, and no statement changes a brand
    if (inverters.map (·.id)).Nodup ∧ ∀ inverter ∈ inverters, inverter.brand = brandOf inverter.id then
      some { s with inverters }
    else none
  | .poller a => (s.poller.step s.inverters a).map fun poller => { s with poller }

def machine : Lts.Machine State Event := ⟨⟨[], .init⟩, step brandOf⟩

end

end IntellApi.MetricsPoller
