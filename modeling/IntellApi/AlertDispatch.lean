import IntellApi.Basic
import IntellApi.JobQueue
import IntellApi.Lts

/-!
# Delivery of an alert

The job of one alert, its row, and the executions of the job. An execution is
suspended at each database call and at each send; its steps carry the answer.
The row is read once and saved as a whole afterwards. A worker may be handed
the queued job at any time, a second time as well; an execution that crashes
answers nothing. The user and the settings may change at any time.
-/

namespace IntellApi.AlertDispatch

open JobQueue

inductive ProcessingStatus
  | pending
  | processing
  | failed
  | successful
  deriving DecidableEq, Repr

inductive DeliveryStatus
  | pending
  | delivered
  | failed
  | partialSuccess
  deriving DecidableEq, Repr

inductive Channel
  | whatsapp
  | email
  | sms
  deriving DecidableEq, Repr

structure Alert where
  deliveryProcessingStatus : ProcessingStatus
  deliveryStatus : DeliveryStatus
  deliveryChannel : Option Channel
  deriving DecidableEq, Repr

structure User where
  phoneNumber : Option String
  deriving DecidableEq, Repr

structure UserSettings where
  whatsappAlerts : Bool
  emailAlerts : Bool
  deriving DecidableEq, Repr

/-! ## The fallback chain -/

structure ChannelSettings where
  whatsappAlerts : Bool
  emailAlerts : Bool
  smsNotification : Bool
  deriving DecidableEq, Repr

structure DeliveryResult where
  status : DeliveryStatus
  channelUsed : Option Channel
  audit : List String
  deriving DecidableEq, Repr

def Channel.name : Channel → String
  | .whatsapp => "whatsapp"
  | .email => "email"
  | .sms => "sms"

def ChannelSettings.disabled (settings : ChannelSettings) : Channel → Bool
  | .whatsapp => !settings.whatsappAlerts
  | .email => !settings.emailAlerts
  | .sms => !settings.smsNotification

/-- A delivery waits for a channel or has come to its result. -/
inductive Delivery
  | trying (channel : Channel) (channels : List Channel) (audit : List String) (lastError : Option String)
  | finished (result : DeliveryResult)
  deriving DecidableEq, Repr

def deliverWithFallback (settings : ChannelSettings) (audit : List String) (lastError : Option String) :
    List Channel → Delivery
  | [] =>
    -- an empty message counts as no error
    .finished {
      status := if lastError.any (· ≠ "") then .failed else .partialSuccess, channelUsed := none, audit }
  | channel :: channels =>
    if settings.disabled channel then
      deliverWithFallback settings (audit ++ [channel.name ++ ": skipped (user disabled)"]) lastError channels
    else .trying channel channels audit lastError

/-- The channel has answered, with an error if there is one. -/
def afterSend (settings : ChannelSettings) (channel : Channel) (channels : List Channel) (audit : List String) :
    Option String → Delivery
  | none =>
    .finished {
      status := .delivered, channelUsed := some channel, audit := audit ++ [channel.name ++ ": delivered"] }
  | some error =>
    deliverWithFallback settings (audit ++ [channel.name ++ ": failed - " ++ error]) (some error) channels

def channelSettings (user : User) (settings : Option UserSettings) : ChannelSettings :=
  { whatsappAlerts := user.phoneNumber.any (· ≠ "") && settings.any (·.whatsappAlerts)
    emailAlerts := (settings.map (·.emailAlerts)).getD true
    smsNotification := false }

/-! ## State -/

inductive JobName
  | dispatch
  | deferredDelivery
  deriving DecidableEq, Repr

structure JobData where
  name : JobName
  alertId : Uuid
  userId : Uuid
  deriving DecidableEq, Repr

/-- Where an execution is suspended. -/
inductive Phase
  | findingDeferred
  | finding
  | loading (alert : Alert)
  | starting (alert : Alert) (settings : ChannelSettings)
  | sending (alert : Alert) (settings : ChannelSettings) (channel : Channel) (channels : List Channel)
      (audit : List String) (lastError : Option String)
  | recording (alert : Alert) (result : DeliveryResult)
  | returning
  | throwing (error : ServiceError)
  | gone
  deriving DecidableEq, Repr

structure Execution where
  job : Nat
  data : JobData
  phase : Phase
  deriving DecidableEq, Repr

/-- `attempts` are the calls of a channel and whether they succeeded. -/
structure State where
  alert : Option Alert
  user : Option User
  settings : Option UserSettings
  jobs : List (Job JobData)
  executions : List Execution
  attempts : List (Channel × Bool)

inductive Action
  | updateUser (user : Option User)
  | updateSettings (settings : Option UserSettings)
  | deliver (j : Nat)
  | execute (e : Nat) (answer : Answer)
  | crash (e : Nat)

def State.move (s : State) (e : Nat) (x : Execution) (phase : Phase) : State :=
  { s with executions := s.executions.set e { x with phase } }

def process : JobName → Phase
  | .dispatch => .finding
  | .deferredDelivery => .findingDeferred

/-- `alertRepo.save` of an alert read before, and the phase after it. -/
def State.save (s : State) (e : Nat) (x : Execution) (alert : Alert) (phase : Phase) : Answer → State
  | .done => { s with alert := some alert }.move e x phase
  | .failed message => s.move e x (.throwing (.error message))
  | .unanswered message => { s with alert := some alert }.move e x (.throwing (.error message))

def sendingPhase (alert : Alert) (settings : ChannelSettings) : Delivery → Phase
  | .trying channel channels audit lastError => .sending alert settings channel channels audit lastError
  | .finished result => .recording alert result

def recordDelivery (alert : Alert) (result : DeliveryResult) : Alert :=
  if result.status = .delivered then
    { deliveryProcessingStatus := .successful, deliveryStatus := .delivered, deliveryChannel := result.channelUsed }
  else { alert with deliveryProcessingStatus := .failed, deliveryStatus := .failed }

def executionStep (s : State) (e : Nat) (x : Execution) (answer : Answer) : Phase → Option State
  | .findingDeferred =>
    match answer.error, s.alert with
    | some message, _ => some (s.move e x (.throwing (.error message)))
    | none, none => some (s.move e x (.throwing (.notFound SysMsg.alertNotFound)))
    | none, some _ => some (s.move e x .finding)
  | .finding =>
    match answer.error, s.alert with
    | some message, _ => some (s.move e x (.throwing (.error message)))
    | none, none => some (s.move e x (.throwing (.error ("Alert not found: " ++ toString x.data.alertId))))
    | none, some alert => some (s.move e x (.loading alert))
  | .loading alert =>
    match answer.error, s.user with
    | some message, _ => some (s.move e x (.throwing (.error message)))
    | none, none => some (s.move e x (.throwing (.error ("User not found: " ++ toString x.data.userId))))
    | none, some user =>
      some (s.move e x
        (.starting { alert with deliveryProcessingStatus := .processing } (channelSettings user s.settings)))
  | .starting alert settings =>
    some (s.save e x alert
      (sendingPhase alert settings (deliverWithFallback settings [] none [.whatsapp, .email])) answer)
  | .sending alert settings channel channels audit _ =>
    some ({ s with attempts := s.attempts ++ [(channel, answer.error.isNone)] }.move e x
      (sendingPhase alert settings (afterSend settings channel channels audit answer.error)))
  | .recording alert result =>
    some (s.save e x (recordDelivery alert result)
      (if result.status = .delivered then .returning
        else .throwing (.error ("Delivery failed for alert " ++ toString x.data.alertId))) answer)
  | .returning => some ({ s with jobs := finish s.jobs x.job }.move e x .gone)
  | .throwing _ => some ({ s with jobs := fail s.jobs x.job }.move e x .gone)
  | .gone => none

def step (s : State) : Action → Option State
  | .updateUser user => some { s with user }
  | .updateSettings settings => some { s with settings }
  | .deliver j =>
    match s.jobs[j]? with
    | some job =>
      if job.queued then some { s with executions := s.executions ++ [⟨j, job.data, process job.data.name⟩] }
      else none
    | none => none
  | .execute e answer => s.executions[e]?.bind fun x => executionStep s e x answer x.phase
  | .crash e => s.executions[e]?.bind fun x => if x.phase = .gone then none else some (s.move e x .gone)

/-- The alert has just been saved and its job enqueued. -/
def init (data : JobData) : State :=
  { alert := some { deliveryProcessingStatus := .pending, deliveryStatus := .pending, deliveryChannel := none }
    user := none, settings := none, jobs := [⟨data, 3, 0, true⟩], executions := [], attempts := [] }

def machine (data : JobData) : Lts.Machine State Action := ⟨init data, step⟩

end IntellApi.AlertDispatch
