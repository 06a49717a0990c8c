import IntellApi.MetricEvents
import IntellApi.MetricsPubSub

/-!
# Streams of readings

A call of `streamMetrics` waits three times: for the latest row, for the
inverter and for the subscription. The client may close the connection at any
of these, but its `close` is listened to only after the last. Readings are saved
and published in two steps of another call, and reach the stream through the
subscriptions of the process. What a stream has been told is kept with the
number of the message it came from.

A stream listens to the channel of the id as its URL spells it, a reading is
published on that of the row's id. PostgreSQL compares both as `lowerCase` makes
them.
-/

namespace IntellApi.MetricsStream

open MetricEvents

/-- Who subscribes: `onMessage` of a stream, or somebody else. -/
inductive Callback
  | onMessage (stream : Nat)
  | other (n : Nat)
  deriving DecidableEq, Repr

abbrev PubSub := MetricsPubSub.State Callback NormalisedMetric

def channel (inverterId : Uuid) : String := s!"inverter:{inverterId}"

/-! ## Calls -/

inductive Chunk
  | snapshot (event : MetricEvent)
  | live (message : Nat) (event : MetricEvent)
  | heartbeat
  | streamError
  deriving DecidableEq, Repr

/-- Where a call of `streamMetrics` waits, or how it has ended. -/
inductive Stage
  | findingLatest
  | findingInverter (latest : Option InvertersMetrics)
  | subscribing (call : Nat)
  | returned
  | threw
  deriving DecidableEq, Repr

structure Stream where
  inverterId : Uuid
  stage : Stage
  /-- The number of rows when the latest one was looked for. -/
  rowsSeen : Option Nat
  heartbeat : Bool
  onRedisError : Bool
  closed : Bool
  ended : Bool
  written : List Chunk
  deriving DecidableEq, Repr

/-- A reading whose row is saved: it waits to be published, or its message has
this number, or Redis refused it. -/
inductive Publication
  | waiting
  | message (m : Nat)
  | failed
  deriving DecidableEq, Repr

structure Reading where
  metric : NormalisedMetric
  row : Nat
  publication : Publication
  deriving DecidableEq, Repr

structure State where
  pubSub : PubSub
  rows : List InvertersMetrics
  readings : List Reading
  streams : List Stream

inductive Action
  | persist (metric : NormalisedMetric) (ok : Bool)
  | publish (k : Nat) (ok : Bool)
  | streamMetrics (inverterId : Uuid)
  | latest (p : Nat) (answer : Option (Option InvertersMetrics))
  | inverter (p : Nat) (inverterBrand : Option InverterBrand)
  | subscribed (p : Nat)
  | deliver
  | heartbeat (p : Nat)
  | redisError
  | close (p : Nat)
  | pubSub (a : MetricsPubSub.Action Callback NormalisedMetric)
  deriving DecidableEq, Repr

def init : State := ⟨MetricsPubSub.init, [], [], []⟩

def Stream.new (inverterId : Uuid) : Stream := ⟨inverterId, .findingLatest, none, false, false, false, false, []⟩

def Stream.Connected (stream : Stream) : Prop := stream.closed = false ∧ stream.ended = false

instance (stream : Stream) : Decidable stream.Connected := by
  unfold Stream.Connected
  infer_instance

/-- `res.write` -/
def Stream.write (stream : Stream) (chunk : Chunk) : Stream :=
  if stream.Connected then { stream with written := stream.written ++ [chunk] } else stream

/-- What `findOne` may give back: a row of the inverter with the last timestamp. -/
def IsLatest (rows : List InvertersMetrics) (inverterId : Uuid) : Option InvertersMetrics → Prop
  | none => ∀ row ∈ rows, row.inverterId ≠ inverterId
  | some latest => latest ∈ rows ∧ latest.inverterId = inverterId ∧
    ∀ row ∈ rows, row.inverterId = inverterId → row.metricTimestamp ≤ latest.metricTimestamp

instance (rows : List InvertersMetrics) (inverterId : Uuid) (latest : Option InvertersMetrics) :
    Decidable (IsLatest rows inverterId latest) := by
  unfold IsLatest
  split <;> infer_instance

/-- Steps of Redis and of the other users of the subscriptions. -/
def isOther : MetricsPubSub.Action Callback NormalisedMetric → Bool
  | .subscribe _ (.other _) | .unsubscribe _ (.other _) | .psubscribe _ (.other _) | .punsubscribe _ (.other _) => true
  | .reply _ | .resume _ => true
  | _ => false

namespace State

def setStream (s : State) (p : Nat) (stream : Stream) : State := { s with streams := s.streams.set p stream }

def setPublication (s : State) (k : Nat) (publication : Publication) : State :=
  { s with readings := s.readings.modify k ({ · with publication }) }

def subscribe (s : State) (p : Nat) (stream : Stream) : State :=
  { s.setStream p { stream with stage := .subscribing s.pubSub.calls.length } with
    pubSub := s.pubSub.subscribe (channel stream.inverterId) (.onMessage p) }

/-- What `streamMetrics` does after its `subscribe` has returned. -/
def listen (s : State) (p : Nat) (stream : Stream) : State :=
  s.setStream p { stream with stage := .returned, heartbeat := true, onRedisError := true }

/-- The listener of the client's `close`, if it is there yet. -/
def close (s : State) (p : Nat) (stream : Stream) : State :=
  match stream.stage with
  | .returned =>
    { s.setStream p { stream with closed := true, heartbeat := false, onRedisError := false } with
      pubSub := s.pubSub.unsubscribe (channel stream.inverterId) (.onMessage p) }
  | _ => s.setStream p { stream with closed := true }

end State

def Stream.redisError (stream : Stream) : Stream :=
  if stream.onRedisError then { stream.write .streamError with ended := true, onRedisError := false } else stream

/-- The callbacks of a topic are called with a reading. -/
def told (callbacks : List Callback) (m : Nat) (metric : NormalisedMetric) (p : Nat) (stream : Stream) : Stream :=
  if .onMessage p ∈ callbacks then stream.write (.live m (liveEvent metric)) else stream

section
variable (lowerCase : Uuid → Uuid) (glob : String → String → Bool)

def step (s : State) : Action → Option State
  | .persist metric ok =>
    -- a reading has the id of its inverter's row
    if lowerCase metric.inverterId ≠ metric.inverterId then none else
    match save metric with
    | some row => some (if ok then
        { s with rows := s.rows ++ [row], readings := s.readings ++ [⟨metric, s.rows.length, .waiting⟩] } else s)
    | none => some s
  | .publish k ok =>
    match s.readings[k]? with
    | some ⟨metric, _, .waiting⟩ => some (if ok then
        { s.setPublication k (.message s.pubSub.published.length) with
          pubSub := s.pubSub.publish glob (channel metric.inverterId) metric } else s.setPublication k .failed)
    | _ => none
  | .streamMetrics inverterId => some { s with streams := s.streams ++ [.new inverterId] }
  | .latest p answer =>
    match s.streams[p]? with
    | some stream =>
      if stream.stage ≠ .findingLatest then none else
      let stream := { stream with rowsSeen := some s.rows.length }
      match answer with
      | some latest =>
        if IsLatest s.rows (lowerCase stream.inverterId) latest then
          some (s.setStream p { stream with stage := .findingInverter latest })
        else none
      | none => some (s.subscribe p stream)
    | none => none
  | .inverter p inverterBrand =>
    match s.streams[p]? with
    | some stream =>
      match stream.stage, inverterBrand with
      | .findingInverter (some latest), some inverterBrand =>
        some (s.subscribe p (stream.write (.snapshot (snapshotEvent latest inverterBrand))))
      | .findingInverter _, _ => some (s.subscribe p stream)
      | _, _ => none
    | none => none
  | .subscribed p =>
    match s.streams[p]? with
    | some stream =>
      match stream.stage with
      | .subscribing c =>
        match s.pubSub.calls[c]? with
        | some .returned => some (s.listen p stream)
        | some .rejected | some .typeError => some (s.setStream p { stream with stage := .threw })
        | _ => none
      | _ => none
    | none => none
  | .deliver =>
    match s.pubSub.wire with
    | [] => none
    | (topic, m) :: wire =>
      match s.pubSub.published[m]? with
      | some (_, metric) =>
        some { s with
          pubSub := { s.pubSub with wire }.onMessage topic m
          streams := s.streams.mapIdx (told ((s.pubSub.subscriptions topic).getD []) m metric) }
      | none => none
  | .heartbeat p =>
    match s.streams[p]? with
    | some stream => if stream.heartbeat then some (s.setStream p (stream.write .heartbeat)) else none
    | none => none
  | .redisError =>
    -- without a listener the emitter throws, and the process is gone
    if s.streams.any (·.onRedisError) then some { s with streams := s.streams.map (·.redisError) } else none
  | .close p =>
    match s.streams[p]? with
    | some stream => if stream.closed then none else some (s.close p stream)
    | none => none
  | .pubSub a =>
    if isOther a then (MetricsPubSub.step glob s.pubSub a).map fun pubSub => { s with pubSub } else none

def machine : Lts.Machine State Action := ⟨init, step lowerCase glob⟩

end

end IntellApi.MetricsStream
