import IntellApi.Basic
import IntellApi.Lts

/-!
# Subscriptions of one process

Channels and patterns are treated alike, in two maps that are one function of
the topic here. A call is suspended while Redis has its command; commands are
carried out in the order they were issued, or refused, and the call goes on at
some time after the answer. `since`, `published` and `received` record what
happened: the messages that were published before a subscription returned, all
messages, and which callback has been given which of them.
-/

namespace IntellApi.MetricsPubSub

open Function

inductive Topic
  | channel (name : String)
  | pattern (name : String)
  deriving DecidableEq, Repr

def Topic.accepts (glob : String → String → Bool) (topic : Topic) (channel : String) : Bool :=
  match topic with
  | .channel name => name = channel
  | .pattern name => glob name channel

inductive CommandName
  | subscribe
  | unsubscribe
  deriving DecidableEq, Repr

structure Command where
  name : CommandName
  topic : Topic
  call : Nat
  deriving DecidableEq, Repr

/-- A call that waits has no answer yet. -/
inductive Call (κ : Type)
  | subscribing (topic : Topic) (callback : κ) (answer : Option Bool)
  | unsubscribing (answer : Option Bool)
  | returned
  | rejected
  | typeError
  deriving DecidableEq, Repr

structure State (κ μ : Type) where
  subscriptions : Topic → Option (List κ)
  calls : List (Call κ)
  commands : List Command
  redis : List Topic
  wire : List (Topic × Nat)
  published : List (String × μ)
  since : Topic → κ → Option Nat
  received : List (Topic × κ × Nat)

inductive Action (κ μ : Type)
  | subscribe (channel : String) (callback : κ)
  | unsubscribe (channel : String) (callback : κ)
  | psubscribe (pattern : String) (callback : κ)
  | punsubscribe (pattern : String) (callback : κ)
  | publish (channel : String) (message : μ)
  | reply (ok : Bool)
  | resume (c : Nat)
  | deliver
  deriving DecidableEq, Repr

variable {κ μ : Type}

def init : State κ μ := ⟨fun _ => none, [], [], [], [], [], fun _ _ => none, []⟩

def Call.answered (ok : Bool) : Call κ → Call κ
  | .subscribing topic callback none => .subscribing topic callback (some ok)
  | .unsubscribing none => .unsubscribing (some ok)
  | call => call

/-- What Redis does when it carries a command out. -/
def Command.perform (command : Command) (redis : List Topic) : List Topic :=
  match command.name with
  | .subscribe => if command.topic ∈ redis then redis else redis ++ [command.topic]
  | .unsubscribe => redis.filter (· ≠ command.topic)

namespace State

variable [DecidableEq κ]

/-- A call that ends at once. -/
def call (s : State κ μ) (call : Call κ) : State κ μ := { s with calls := s.calls ++ [call] }

/-- A call that waits for the answer to a command. -/
def command (s : State κ μ) (name : CommandName) (topic : Topic) (call : Call κ) : State κ μ :=
  { s with calls := s.calls ++ [call], commands := s.commands ++ [⟨name, topic, s.calls.length⟩] }

def setCallbacks (s : State κ μ) (topic : Topic) (callbacks : Option (List κ)) : State κ μ :=
  { s with subscriptions := update s.subscriptions topic callbacks }

def setSince (s : State κ μ) (topic : Topic) (callback : κ) (n : Option Nat) : State κ μ :=
  { s with since := update s.since topic (update (s.since topic) callback n) }

/-- The call of `subscribe` returns: the callback is in the set. -/
def add (s : State κ μ) (topic : Topic) (callback : κ) (callbacks : List κ) : State κ μ :=
  (s.setCallbacks topic (some (if callback ∈ callbacks then callbacks else callbacks ++ [callback]))).setSince topic
    callback ((s.since topic callback).or (some s.published.length))

/-- `subscribe` and `psubscribe` -/
def subscribeTo (s : State κ μ) (topic : Topic) (callback : κ) : State κ μ :=
  match s.subscriptions topic with
  | none => (s.setCallbacks topic (some [])).command .subscribe topic (.subscribing topic callback none)
  | some callbacks => (s.add topic callback callbacks).call .returned

/-- `unsubscribe` and `punsubscribe` -/
def unsubscribeFrom (s : State κ μ) (topic : Topic) (callback : κ) : State κ μ :=
  match s.subscriptions topic with
  | none => s.call .returned
  | some callbacks =>
    let rest := callbacks.filter (· ≠ callback)
    let s := s.setSince topic callback none
    if rest = [] then (s.setCallbacks topic none).command .unsubscribe topic (.unsubscribing none)
    else (s.setCallbacks topic (some rest)).call .returned

def subscribe (s : State κ μ) (channel : String) (callback : κ) : State κ μ := s.subscribeTo (.channel channel) callback

def unsubscribe (s : State κ μ) (channel : String) (callback : κ) : State κ μ :=
  s.unsubscribeFrom (.channel channel) callback

def psubscribe (s : State κ μ) (pattern : String) (callback : κ) : State κ μ := s.subscribeTo (.pattern pattern) callback

def punsubscribe (s : State κ μ) (pattern : String) (callback : κ) : State κ μ :=
  s.unsubscribeFrom (.pattern pattern) callback

/-- What a call does when it goes on after Redis's answer. -/
def resume (s : State κ μ) (c : Nat) : Option (State κ μ) :=
  match s.calls[c]? with
  | some (.subscribing topic callback (some true)) =>
    match s.subscriptions topic with
    | some callbacks => some { s.add topic callback callbacks with calls := s.calls.set c .returned }
    | none => some { s with calls := s.calls.set c .typeError }
  | some (.unsubscribing (some true)) => some { s with calls := s.calls.set c .returned }
  | some (.subscribing _ _ (some false)) | some (.unsubscribing (some false)) =>
    some { s with calls := s.calls.set c .rejected }
  | _ => none

/-- The handlers of `message` and `pmessage`. -/
def onMessage (s : State κ μ) (topic : Topic) (m : Nat) : State κ μ :=
  match s.subscriptions topic with
  | some callbacks => { s with received := s.received ++ callbacks.map (topic, ·, m) }
  | none => s

end State

section
variable [DecidableEq κ] (glob : String → String → Bool)

def State.publish (s : State κ μ) (channel : String) (message : μ) : State κ μ :=
  { s with
    published := s.published ++ [(channel, message)]
    wire := s.wire ++ (s.redis.filter (·.accepts glob channel)).map (·, s.published.length) }

def step (s : State κ μ) : Action κ μ → Option (State κ μ)
  | .subscribe channel callback => some (s.subscribe channel callback)
  | .unsubscribe channel callback => some (s.unsubscribe channel callback)
  | .psubscribe pattern callback => some (s.psubscribe pattern callback)
  | .punsubscribe pattern callback => some (s.punsubscribe pattern callback)
  | .publish channel message => some (s.publish glob channel message)
  | .reply ok =>
    match s.commands with
    | [] => none
    | command :: commands =>
      some { s with
        commands
        redis := if ok then command.perform s.redis else s.redis
        calls := s.calls.modify command.call (·.answered ok) }
  | .resume c => s.resume c
  | .deliver =>
    match s.wire with
    | [] => none
    | (topic, m) :: wire => some ({ s with wire }.onMessage topic m)

def machine : Lts.Machine (State κ μ) (Action κ μ) := ⟨init, step glob⟩

end

end IntellApi.MetricsPubSub
