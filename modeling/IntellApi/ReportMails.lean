import IntellApi.IsoDate
import IntellApi.JobRelay
import IntellApi.Reports

/-!
# Mails of reports

A user asks for a report to be mailed. The request leaves a job in the queue of
reports, whose handler leaves one in the queue of mails, whose handler reads the
report once more, renders it and hands it to the mail service. The table of
reports moves on meanwhile with the steps of its own machine, and the users may
change in any way. What is added or sent may be so although the answer is an
error, and a handler may die between any two of its steps; a job may then be
handed over again, or even while a handler has it.
-/

namespace IntellApi.ReportMails

open Reports JobQueue

structure User where
  id : Uuid
  email : String
  firstName : String
  deriving DecidableEq, Repr

inductive QueueName
  | reportDispatch
  | email
  deriving DecidableEq, Repr

/-- `recipient` is its `to`. -/
structure SendReportJobData where
  recipient : String
  firstName : String
  clientUrl : String
  reportId : Nat
  deriving DecidableEq, Repr

/-- A job of either queue. The program does not keep the request it comes from. -/
structure SendReportJob where
  queue : QueueName
  data : SendReportJobData
  request : Nat
  deriving DecidableEq, Repr

inductive Stage
  | findingUser
  | adding
  | returned
  | failed (error : ServiceError)
  deriving DecidableEq, Repr

/-- A call of `triggerReportEmail` with what its variables hold. -/
structure Request where
  reportId : Nat
  userId : Uuid
  report : Option Report
  user : Option User
  stage : Stage
  deriving DecidableEq, Repr

inductive Phase
  | forwarding
  | reading
  | sending (report : Report) (dateDelivered : Int)
  | returning
  | throwing
  | gone
  deriving DecidableEq, Repr

structure Handler where
  job : Nat
  phase : Phase
  deriving DecidableEq, Repr

structure Attachment where
  content : Report
  filename : String
  deriving DecidableEq, Repr

/-- `content` of the attachment is the row that the document is made of. -/
structure Mail where
  recipient : String
  subject : String
  firstName : String
  clientUrl : String
  reportName : String
  reportDate : Int
  attachment : Attachment
  request : Nat
  deriving DecidableEq, Repr

structure State where
  store : Reports.State
  users : List User
  requests : List Request
  jobs : List (Job SendReportJob)
  handlers : List Handler
  sent : List Mail

/-- An `error` comes from the database. The answer `failed` to `mailed` stands for
a document that cannot be rendered as well. -/
inductive Action
  | reports (a : Reports.Action)
  | setUsers (users : List User)
  | triggerReportEmail (reportId : Nat) (userId : Uuid) (error : Option String)
  | userFound (r : Nat) (error : Option String)
  | added (r : Nat) (answer : Answer)
  | deliver (j : Nat)
  | forwarded (h : Nat) (answer : Answer)
  | reportRead (h : Nat) (error : Option String)
  | mailed (h : Nat) (answer : Answer)
  | ended (h : Nat)
  | crash (h : Nat)

def init : State := ⟨Reports.init, [], [], [], [], []⟩

def failedToTriggerMessage : String := "Failed to trigger report email. Try again"

def typeText : ReportType → String
  | .general => "GENERAL"
  | .solar => "SOLAR"
  | .alert => "ALERT"
  | .csc => "COSTS_AND_SAVINGS"

/-! ## `triggerReportEmail` -/

def checkReport (found : Option Report) (userId : Uuid) : Except ServiceError Report :=
  match found with
  | none => throw (.notFound SysMsg.notFound)
  | some report =>
    if report.userId ≠ userId then throw (.forbidden SysMsg.forbidden)
    else if report.status ≠ .ready then throw (.conflict SysMsg.conflict)
    else return report

def jobData (clientUrl : String) (user : User) (reportId : Nat) : SendReportJobData :=
  ⟨user.email, user.firstName, clientUrl ++ "/dashboard/report", reportId⟩

namespace State

def setRequest (s : State) (r : Nat) (request : Request) : State := { s with requests := s.requests.set r request }

/-- The jobs of both queues have the attempts that `defaultJobOptions` gives them. -/
def addJob (s : State) (job : SendReportJob) : State := { s with jobs := s.jobs ++ [⟨job, 3, 0, true⟩] }

def move (s : State) (h : Nat) (x : Handler) (phase : Phase) : State :=
  { s with handlers := s.handlers.set h { x with phase } }

end State

def trigger (s : State) (reportId : Nat) (userId : Uuid) : Option String → Request
  | some message => ⟨reportId, userId, none, none, .failed (.error message)⟩
  | none =>
    match checkReport (s.store.report reportId) userId with
    | .error e => ⟨reportId, userId, none, none, .failed e⟩
    | .ok report => ⟨reportId, userId, some report, none, .findingUser⟩

/-- `findOne` of the report's user. -/
def findUser (s : State) (request : Request) (report : Report) : Option String → Request
  | some _ => { request with stage := .failed (.serviceUnavailable failedToTriggerMessage) }
  | none =>
    match s.users.find? (·.id = report.userId) with
    | none => { request with stage := .failed (.notFound SysMsg.notFound) }
    | some user => { request with user := some user, stage := .adding }

def finishRequest (request : Request) (answer : Answer) : Request :=
  match answer.error with
  | none => { request with stage := .returned }
  | some _ => { request with stage := .failed (.serviceUnavailable failedToTriggerMessage) }

/-! ## The handlers -/

def startPhase : QueueName → Phase
  | .reportDispatch => .forwarding
  | .email => .reading

/-- What `handleSendReport` goes on with once it has read the report. -/
def readPhase (found : Option Report) : Phase :=
  match found with
  | none => .throwing
  | some report =>
    if report.status ≠ .ready then .throwing
    else
      match report.dateDelivered with
      | none => .throwing
      | some dateDelivered => .sending report dateDelivered

def reportMail (job : SendReportJob) (report : Report) (dateDelivered : Int) : Mail :=
  let reportName := typeText report.type ++ "_" ++ IsoDate.toISOString dateDelivered
  { recipient := job.data.recipient
    subject := "Intell " ++ typeText report.type ++ " Report"
    firstName := job.data.firstName
    clientUrl := job.data.clientUrl
    reportName
    reportDate := dateDelivered
    attachment := ⟨report, reportName ++ ".pdf"⟩
    request := job.request }

/-- The phase after a call that has passed the work on, or has not. -/
def passedPhase (answer : Answer) : Phase :=
  match answer.error with
  | none => .returning
  | some _ => .throwing

def passOn (s : State) (job : SendReportJob) (answer : Answer) : State :=
  if answer.applied then s.addJob job else s

def send (s : State) (mail : Mail) (answer : Answer) : State :=
  if answer.applied then { s with sent := s.sent ++ [mail] } else s

section
variable (tza : Int) (clientUrl : String)

def handlerStep (s : State) (h : Nat) (x : Handler) (job : SendReportJob) : Action → Option State
  | .forwarded _ answer =>
    if x.phase = .forwarding then some ((passOn s { job with queue := .email } answer).move h x (passedPhase answer))
    else none
  | .reportRead _ error =>
    if x.phase = .reading then
      some (s.move h x (if error = none then readPhase (s.store.report job.data.reportId) else .throwing))
    else none
  | .mailed _ answer =>
    match x.phase with
    | .sending report dateDelivered =>
      some ((send s (reportMail job report dateDelivered) answer).move h x (passedPhase answer))
    | _ => none
  | .ended _ =>
    match x.phase with
    | .returning => some ({ s with jobs := finish s.jobs x.job }.move h x .gone)
    | .throwing => some ({ s with jobs := fail s.jobs x.job }.move h x .gone)
    | _ => none
  | .crash _ => some (s.move h x .gone)
  | _ => none

def State.handle (s : State) (h : Nat) (a : Action) : Option State :=
  s.handlers[h]?.bind fun x => s.jobs[x.job]?.bind fun job => handlerStep s h x job.data a

def requestStep (s : State) (r : Nat) (request : Request) : Action → Option State
  | .userFound _ error =>
    match request.stage, request.report with
    | .findingUser, some report => some (s.setRequest r (findUser s request report error))
    | _, _ => none
  | .added _ answer =>
    match request.stage, request.user with
    | .adding, some user =>
      some ((passOn s ⟨.reportDispatch, jobData clientUrl user request.reportId, r⟩ answer).setRequest r
        (finishRequest request answer))
    | _, _ => none
  | _ => none

def step (s : State) : Action → Option State
  | .reports a => (Reports.step tza s.store a).map fun store => { s with store }
  | .setUsers users => some { s with users }
  | .triggerReportEmail reportId userId error =>
    some { s with requests := s.requests ++ [trigger s reportId userId error] }
  | .userFound r error => s.requests[r]?.bind fun x => requestStep clientUrl s r x (.userFound r error)
  | .added r answer => s.requests[r]?.bind fun x => requestStep clientUrl s r x (.added r answer)
  | .deliver j =>
    s.jobs[j]?.bind fun job =>
      if job.queued then some { s with handlers := s.handlers ++ [⟨j, startPhase job.data.queue⟩] } else none
  | .forwarded h answer => s.handle h (.forwarded h answer)
  | .reportRead h error => s.handle h (.reportRead h error)
  | .mailed h answer => s.handle h (.mailed h answer)
  | .ended h => s.handle h (.ended h)
  | .crash h => s.handle h (.crash h)

def machine : Lts.Machine State Action := ⟨init, step tza clientUrl⟩

end

end IntellApi.ReportMails
