import IntellApi.JobQueue
import IntellApi.Lts
import IntellApi.ReportPeriods

/-!
# The report subsystem

Requests, compute-report executions and the cron over the report table and the
queue. A request or execution is suspended at each database or queue call.
Every `UPDATE` is one step and touches `updatedAt`. A worker may be handed a
queued job at any time, so redelivery after a crash and overlapping executions
of one job are both runs of the machine. The database is reliable; a
computation may fail, and `reportQueue.add` takes the `ok` of its step to be
false when it fails. A deleted row leaves `none` behind.
-/

namespace IntellApi.Reports

open Calendar JobQueue

/-! ## Creation -/

/-- What the request asks for, after `validateDtoDates`. -/
inductive ReportRange
  | weekly (referenceDate : Int)
  | monthly (referenceDate : Int)
  | custom (startDate endDate : Int)
  deriving DecidableEq, Repr

structure ReportsDto where
  inverterId : Uuid
  type : ReportType
  name : String
  recurring : Bool
  range : ReportRange
  deriving DecidableEq, Repr

/-- The row `generateReport` creates; custom ranges do not recur. -/
def generateReport (dto : ReportsDto) (userId seriesId : Uuid) (now : Int) : Report :=
  let base : Report :=
    { userId, inverterId := dto.inverterId, type := dto.type, name := dto.name, period := .custom
      referenceDate := none, startDate := none, endDate := none, dateDelivered := none, status := .pending
      seriesId := none, occurrence := none, recurring := false, createdAt := now, updatedAt := now }
  let recurring (period : ReportPeriod) (referenceDate : Int) : Report :=
    { base with
      period
      referenceDate := some referenceDate
      recurring := dto.recurring
      occurrence := if dto.recurring then some 1 else none
      seriesId := if dto.recurring then some seriesId else none }
  match dto.range with
  | .weekly referenceDate => recurring .weekly referenceDate
  | .monthly referenceDate => recurring .monthly referenceDate
  | .custom startDate endDate => { base with startDate := some startDate, endDate := some endDate }

def generateNewSeriesReport (old : Report) (newReferenceDate now : Int) : Option Report :=
  match old.seriesId, old.occurrence with
  | some seriesId, some occurrence =>
    some
      { old with
        referenceDate := some newReferenceDate, startDate := none, endDate := none, dateDelivered := none
        status := .pending, occurrence := some (occurrence + 1), seriesId := some seriesId
        createdAt := now, updatedAt := now }
  | _, _ => none

/-- The range of the report service; it has no custom period. -/
def serviceRangeEnd (tza : Int) (period : ReportPeriod) (d : Int) : Option Int :=
  match period with
  | .weekly =>
    let dayOfWeek := getDay tza d
    let mondayOffset := if dayOfWeek = 0 then -6 else 1 - dayOfWeek
    let rangeStart := startOfDay tza (setDate tza d (getDate tza d + mondayOffset))
    some (setDate tza rangeStart (getDate tza rangeStart + 7))
  | .monthly => some (newDate tza (getFullYear tza d) (getMonth tza d + 1) 1)
  | .custom => none

def computeReportDelay (tza : Int) (report : Report) (now : Int) : Except ServiceError Int :=
  match report.period with
  | .custom =>
    match report.startDate, report.endDate with
    | some _, some dueTime => return max (dueTime - now) 0
    | _, _ => throw (.badRequest "startDate and endDate compulsory for custom period")
  | period =>
    match report.referenceDate with
    | none => throw (.badRequest "referenceDate must be defined when period is not custom")
    | some referenceDate =>
      match serviceRangeEnd tza period referenceDate with
      | some rangeEnd => return max (rangeEnd - now) 0
      | none => throw (.error "Unsupported report period: custom")

/-! ## State -/

structure ComputeReportJobData where
  reportId : Nat
  delay : Int
  deriving DecidableEq, Repr

/-- Where an execution of `handleComputeReport` is suspended. `report` is the
row as `getReportById` read it. -/
inductive Phase
  | reading
  | claiming (report : Report)
  | computing (report : Report)
  | writing (report : Report) (dateDelivered : Int)
  | scheduling (report : Report) (dateDelivered : Int)
  | enqueuing (renewed : Nat) (delay : Int)
  | returning
  | throwing
  | gone
  deriving DecidableEq, Repr

/-- `attemptsMade` and `attempts` are the job's when it was handed over. -/
structure Execution where
  job : Nat
  reportId : Nat
  attemptsMade : Nat
  attempts : Nat
  phase : Phase
  deriving DecidableEq, Repr

inductive Request
  | enqueuing (reportId : Nat) (delay : Int)
  | cancelling (reportId : Nat)
  | deleting (reportId : Nat)
  | done
  | failed
  deriving DecidableEq, Repr

/-- Rows, jobs, executions and requests are named by their places. -/
structure State where
  clock : Int
  reports : List (Option Report)
  jobs : List (Job ComputeReportJobData)
  executions : List Execution
  requests : List Request

/-- `request` and `execute` take the next step of a request or an execution. -/
inductive Action
  | tick (ms : Nat)
  | generateReport (dto : ReportsDto) (userId seriesId : Uuid)
  | cancelReports (id : Nat) (userId : Uuid)
  | deleteReports (id : Nat) (userId : Uuid)
  | request (r : Nat) (ok : Bool)
  | deliver (j : Nat)
  | execute (e : Nat)
  | computationFails (e : Nat)
  | addRenewed (e : Nat) (ok : Bool)
  | crash (e : Nat)
  | resetStalledReports

def init : State := { clock := 0, reports := [], jobs := [], executions := [], requests := [] }

def State.report (s : State) (id : Nat) : Option Report := s.reports[id]?.join

def State.update (s : State) (id : Nat) (f : Report → Report) : State :=
  { s with reports := s.reports.modify id (Option.map fun r => { f r with updatedAt := s.clock }) }

def setStatus (status : ReportStatus) (r : Report) : Report := { r with status }

def deliverReport (dateDelivered : Int) (r : Report) : Report :=
  { r with status := .ready, dateDelivered := some dateDelivered }

def State.updateReportStatus (s : State) (id : Nat) (status : ReportStatus) : Option State :=
  if (s.report id).any (·.status = .pending) then some (s.update id (setStatus status)) else none

def State.move (s : State) (e : Nat) (x : Execution) (phase : Phase) : State :=
  { s with executions := s.executions.set e { x with phase } }

def State.respond (s : State) (r : Nat) (request : Request) : State :=
  { s with requests := s.requests.set r request }

def State.insert (s : State) (report : Report) : State := { s with reports := s.reports ++ [some report] }

def staleProcessingThresholdMinutes : Int := 30

def stalled (now : Int) (r : Report) : Bool :=
  r.status = .processing ∧ r.updatedAt < now - staleProcessingThresholdMinutes * 60 * 1000

/-- A series has one row for each occurrence. -/
def State.occurrenceTaken (s : State) (r : Report) : Bool :=
  s.reports.any (·.any fun q => q.seriesId.isSome ∧ q.seriesId = r.seriesId ∧ q.occurrence = r.occurrence)

def Execution.isLastAttempt (x : Execution) : Bool := x.attempts ≤ x.attemptsMade + 1

def recurs (r : Report) : Bool := r.period ≠ .custom ∧ r.recurring ∧ r.seriesId.isSome

def State.addJob (s : State) (reportId : Nat) (delay : Int) : State :=
  { s with jobs := s.jobs ++ [⟨⟨reportId, delay⟩, 3, 0, true⟩] }

section
variable (tza : Int)

def requestStep (s : State) (r : Nat) (ok : Bool) : Request → Option State
  | .enqueuing reportId delay => some (if ok then (s.addJob reportId delay).respond r .done else s.respond r .failed)
  | .cancelling reportId =>
    match s.updateReportStatus reportId .cancelled with
    | some s' => some (s'.respond r .done)
    | none => some (s.respond r .failed)
  | .deleting reportId => some ({ s with reports := s.reports.set reportId none }.respond r .done)
  | .done | .failed => none

def executionStep (s : State) (e : Nat) (x : Execution) : Phase → Option State
  | .reading =>
    match s.report x.reportId with
    | some report => some (s.move e x (if report.status = .pending then .claiming report else .throwing))
    | none => some (s.move e x .throwing)
  | .claiming report =>
    match s.updateReportStatus x.reportId .processing with
    | some s' => some (s'.move e x (.computing report))
    -- another worker won the race
    | none => some (s.move e x .returning)
  | .computing report => some (s.move e x (.writing report s.clock))
  | .writing report dateDelivered =>
    some ((s.update x.reportId (deliverReport dateDelivered)).move e x
      (if recurs report then .scheduling report dateDelivered else .returning))
  | .scheduling report dateDelivered =>
    match generateNewSeriesReport report dateDelivered s.clock with
    | none => some (s.move e x .returning)
    | some renewed =>
      if s.occurrenceTaken renewed then some (s.move e x .returning)
      else
        match computeReportDelay tza renewed s.clock with
        | .ok delay => some ((s.insert renewed).move e x (.enqueuing s.reports.length delay))
        | .error _ => some ((s.insert renewed).move e x .returning)
  | .returning => some ({ s with jobs := finish s.jobs x.job }.move e x .gone)
  | .throwing => some ({ s with jobs := fail s.jobs x.job }.move e x .gone)
  | .enqueuing _ _ | .gone => none

def step (s : State) : Action → Option State
  | .tick ms => some { s with clock := s.clock + ms }
  | .generateReport dto userId seriesId =>
    let created := generateReport dto userId seriesId s.clock
    if s.occurrenceTaken created then none
    else
      match computeReportDelay tza created s.clock with
      | .ok delay => some { s.insert created with requests := s.requests ++ [.enqueuing s.reports.length delay] }
      | .error _ => some { s.insert created with requests := s.requests ++ [.failed] }
  | .cancelReports id userId =>
    let own := (s.report id).any (·.userId = userId)
    some { s with requests := s.requests ++ [if own then .cancelling id else .failed] }
  | .deleteReports id userId =>
    let own := (s.report id).any fun r => r.userId = userId ∧ r.status ≠ .processing
    some { s with requests := s.requests ++ [if own then .deleting id else .failed] }
  | .request r ok => s.requests[r]?.bind (requestStep s r ok)
  | .deliver j =>
    match s.jobs[j]? with
    | some job =>
      if job.queued then
        some { s with
          executions := s.executions ++ [⟨j, job.data.reportId, job.attemptsMade, job.attempts, .reading⟩] }
      else none
    | none => none
  | .execute e => s.executions[e]?.bind fun x => executionStep tza s e x x.phase
  | .computationFails e =>
    s.executions[e]?.bind fun x =>
      match x.phase with
      | .computing _ | .writing _ _ =>
        some ((s.update x.reportId (setStatus (if x.isLastAttempt then .failed else .pending))).move e x .throwing)
      | _ => none
  | .addRenewed e ok =>
    s.executions[e]?.bind fun x =>
      match x.phase with
      | .enqueuing renewed delay => some ((if ok then s.addJob renewed delay else s).move e x .returning)
      | _ => none
  | .crash e => s.executions[e]?.map fun x => s.move e x .gone
  | .resetStalledReports =>
    some { s with
      reports := s.reports.map (Option.map fun r =>
        if stalled s.clock r then { r with status := .pending, updatedAt := s.clock } else r) }

def machine : Lts.Machine State Action := ⟨init, step tza⟩

end

end IntellApi.Reports
