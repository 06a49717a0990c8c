import IntellApi.Inverters

/-!
# The table, the control channel and the poller

Requests write the table and publish, the poller loads the table and then
follows the channel. A message that Redis has before the subscription is gone,
and so is one that comes before `subscribe` has added the callback.
-/

namespace IntellApi.PolledInverters

open MetricsPoller Inverters

structure State where
  service : Service
  subscribed : Bool
  wire : List InverterControlMessage
  poller : Poller

inductive Action
  | request (a : Inverters.Action)
  | publish (k : Nat)
  | publishFails (k : Nat)
  | redisSubscribe
  | deliver
  | poller (a : MetricsPoller.Action)
  deriving DecidableEq, Repr

def eventText : InverterControlEvent → String
  | .registered => "registered"
  | .deregistered => "deregistered"

/-- A published message, as the callback parses it. -/
def parsed (msg : InverterControlMessage) : ParsedMessage := ⟨some (eventText msg.event), some msg.inverterId, some msg.brand⟩

def init : State := ⟨.init, false, [], .init⟩

namespace State

def table (s : State) : List Inverter := s.service.inverters.map (·.toInverter)

def sent (s : State) (k : Nat) : State :=
  { s with service := { s.service with outgoing := s.service.outgoing.eraseIdx k } }

def pollerStep (s : State) (a : MetricsPoller.Action) : Option State :=
  (s.poller.step s.table a).map fun poller => { s with poller }

end State

section
variable (lowerCase : Uuid → Uuid)

def step (s : State) : Action → Option State
  | .request a => (s.service.step lowerCase a).map fun service => { s with service }
  | .publish k =>
    match s.service.outgoing[k]? with
    | none => none
    | some msg => some { s.sent k with wire := if s.subscribed then s.wire ++ [msg] else s.wire }
  | .publishFails k => if k < s.service.outgoing.length then some (s.sent k) else none
  | .redisSubscribe =>
    match s.poller.startUp with
    | .subscribing => if s.subscribed then none else some { s with subscribed := true }
    | _ => none
  | .deliver =>
    match s.wire, s.poller.startUp with
    | [], _ => none
    | msg :: wire, .finished => { s with wire }.pollerStep (.deliver (some (parsed msg)))
    | _ :: wire, _ => some { s with wire }
  | .poller (.deliver _) => none
  | .poller .subscribe => if s.subscribed then s.pollerStep .subscribe else none
  | .poller a => s.pollerStep a

def machine : Lts.Machine State Action := ⟨init, step lowerCase⟩

end

end IntellApi.PolledInverters
