import IntellApi.Alerts
import IntellApi.MetricEvents
import IntellApi.MetricsPoller

/-!
# The polls

A poll of a brand starts one poll for every inverter that is tracked then. Each
of them is suspended at the adapter, at the status update, and at the calls of
`persistAndPublish` or `fireInverterOfflineAlert`; it keeps the inverter it was
started with, whatever the arrays hold when it is resumed.
-/

namespace IntellApi.MetricsPolls

open Function Alerts MetricEvents MetricsPoller

/-! ## What the four polls do not share -/

/-- The reading a poll goes on with: two adapters do not know the inverter's id. -/
structure PollOne where
  reading : Uuid → NormalisedMetric → NormalisedMetric

def pollVictronOne : PollOne := ⟨fun _ metric => metric⟩

def pollSandboxOne : PollOne := ⟨fun _ metric => metric⟩

def pollGrowattOne : PollOne := ⟨fun inverterId metric => { metric with inverterId }⟩

def pollSunsynkOne : PollOne := ⟨fun inverterId metric => { metric with inverterId }⟩

def pollOne : InverterBrand → PollOne
  | .victron => pollVictronOne
  | .growatt => pollGrowattOne
  | .sunsynk => pollSunsynkOne
  | .sandbox | .deye => pollSandboxOne

/-! ## The state -/

/-- Where a poll is suspended. One that waits in `findingRecentAlert` or further
on has returned; nobody awaits the alert. -/
inductive Phase
  | fetching
  | markingOnline (metric : NormalisedMetric)
  | saving (metric : NormalisedMetric)
  | publishing (metric : NormalisedMetric)
  | markingOffline
  | findingRecentAlert (now : Int)
  | savingAlert (now : Int)
  | addingJob (alertId : Nat)
  | finished
  deriving DecidableEq, Repr

structure Poll where
  brand : InverterBrand
  inverter : Inverter
  phase : Phase
  deriving DecidableEq, Repr

/-- Of the inverter an alert is about the row has the name only, in its texts. -/
structure OfflineAlert where
  inverterId : Uuid
  alert : Alert
  deriving DecidableEq, Repr

structure State extends MetricsPoller.State where
  clock : Int
  polls : List Poll
  metrics : List InvertersMetrics
  published : List NormalisedMetric
  alerts : List OfflineAlert
  jobs : List Nat

inductive Action
  | tick (us : Nat)
  | base (e : MetricsPoller.Event)
  | poll (brand : InverterBrand) (decrypted : Uuid → Bool)
  | fetchMetrics (k : Nat) (answer : Option NormalisedMetric)
  | markOnline (k : Nat) (ok : Bool)
  | markOffline (k : Nat) (ok : Bool)
  | save (k : Nat) (ok : Bool)
  | publish (k : Nat) (ok : Bool)
  | findRecentAlert (k : Nat) (ok : Bool)
  | saveAlert (k : Nat) (ok : Bool)
  | add (k : Nat) (ok : Bool)

namespace State

def init : State :=
  { inverters := [], poller := .init, clock := 0, polls := [], metrics := [], published := [], alerts := [], jobs := [] }

def now (s : State) : Int := getTime s.clock

def setPhase (s : State) (k : Nat) (poll : Poll) (phase : Phase) : State :=
  { s with polls := s.polls.set k { poll with phase } }

def setFailureCount (s : State) (inverterId : Uuid) (n : Nat) : State :=
  { s with poller := { s.poller with failureCounts := update s.poller.failureCounts inverterId (some n) } }

/-- `markOnline` and `markOffline` -/
def setOffline (s : State) (inverterId : Uuid) (isOffline : Bool) : State :=
  { s with inverters := s.inverters.map fun row => if row.id = inverterId then { row with isOffline } else row }

/-- The catch block of the four polls. -/
def fetchFailed (s : State) (k : Nat) (poll : Poll) : State :=
  let fetchInverterFailures := (s.poller.failureCounts poll.inverter.id).getD 0
  (s.setFailureCount poll.inverter.id (fetchInverterFailures + 1)).setPhase k poll
    (if fetchInverterFailures ≥ 2 then .markingOffline else .finished)

def recentAlert (s : State) (userId : Uuid) : Option Alert :=
  latestAlert (s.alerts.map (·.alert)) userId .inverterFault

end State

def cooldownMinutes : Int := 60

def offlineAlert (inverter : Inverter) (now createdAt : Int) : OfflineAlert where
  inverterId := inverter.id
  alert :=
    { userId := inverter.userId, type := .inverterFault, severity := .critical, resolutionStatus := some .unresolved
      triggeredAt := now, deliverable := true, createdAt }

section
variable (brandOf : Uuid → InverterBrand)

def step (s : State) : Action → Option State
  | .tick us => some { s with clock := s.clock + us }
  | .base e => (MetricsPoller.step brandOf s.toState e).map fun base => { s with toState := base }
  | .poll brand decrypted =>
    let started := (s.poller.tracked.getArrayForBrand brand).map fun inverter =>
      Poll.mk brand inverter (if decrypted inverter.id then .fetching else .finished)
    some { s with polls := s.polls ++ started }
  | .fetchMetrics k answer =>
    match s.polls[k]? with
    | some poll =>
      match poll.phase, answer with
      | .fetching, some metric =>
        let metric := (pollOne poll.brand).reading poll.inverter.id metric
        some ((s.setFailureCount poll.inverter.id 0).setPhase k poll (.markingOnline metric))
      | .fetching, none => some (s.fetchFailed k poll)
      | _, _ => none
    | none => none
  | .markOnline k ok =>
    match s.polls[k]? with
    | some poll =>
      match poll.phase with
      | .markingOnline metric =>
        if ok then some ((s.setOffline poll.inverter.id false).setPhase k poll (.saving metric))
        -- still inside the try block of the fetch
        else some (s.fetchFailed k poll)
      | _ => none
    | none => none
  | .markOffline k ok =>
    match s.polls[k]? with
    | some poll =>
      match poll.phase with
      | .markingOffline =>
        if ok then some ((s.setOffline poll.inverter.id true).setPhase k poll (.findingRecentAlert s.now))
        else some (s.setPhase k poll .finished)
      | _ => none
    | none => none
  | .save k ok =>
    match s.polls[k]? with
    | some poll =>
      match poll.phase with
      | .saving metric =>
        match ok, MetricEvents.save metric with
        | true, some row => some ({ s with metrics := row :: s.metrics }.setPhase k poll (.publishing metric))
        | _, _ => some (s.setPhase k poll .finished)
      | _ => none
    | none => none
  | .publish k ok =>
    match s.polls[k]? with
    | some poll =>
      match poll.phase with
      | .publishing metric =>
        if ok then some ({ s with published := s.published ++ [viaJson metric] }.setPhase k poll .finished)
        else some (s.setPhase k poll .finished)
      | _ => none
    | none => none
  | .findRecentAlert k ok =>
    match s.polls[k]? with
    | some poll =>
      match poll.phase with
      | .findingRecentAlert now =>
        let cooldownCutoff := now - cooldownMinutes * 60 * 1000
        let suppressed := (s.recentAlert poll.inverter.userId).any fun a => decide (getTime a.createdAt > cooldownCutoff)
        some (s.setPhase k poll (if !ok || suppressed then .finished else .savingAlert now))
      | _ => none
    | none => none
  | .saveAlert k ok =>
    match s.polls[k]? with
    | some poll =>
      match poll.phase with
      | .savingAlert now =>
        if ok then
          let saved := { s with
            alerts := offlineAlert poll.inverter now s.clock :: s.alerts
            clock := s.clock + 1 }
          some (saved.setPhase k poll (.addingJob s.alerts.length))
        else some (s.setPhase k poll .finished)
      | _ => none
    | none => none
  | .add k ok =>
    match s.polls[k]? with
    | some poll =>
      match poll.phase with
      | .addingJob alertId =>
        if ok then some ({ s with jobs := alertId :: s.jobs }.setPhase k poll .finished)
        else some (s.setPhase k poll .finished)
      | _ => none
    | none => none

def machine : Lts.Machine State Action := ⟨.init, step brandOf⟩

end

end IntellApi.MetricsPolls
