import IntellApi.AlertReader
import IntellApi.Dashboard
import IntellApi.Purge
import IntellApi.SavingsAgreement

/-!
# The tools of the assistant

A tool is made for one user and asked by the language model, with arguments its
schema lets through. It queries the database several times, and each of its
queries may see another state: `reads q` is what query `q` sees. The model is
any function of the calls and replies so far; it may ask for several calls at
once.
-/

namespace IntellApi.AgentTools

open AlertReader Calendar Dashboard IsoDate Metrics Reports Savings

/-! ## The tables -/

structure InverterRow extends Inverter where
  createdAt : Int
  deriving DecidableEq, Repr

/-- `issued` is no table: an id is never given to a second inverter, even if the first is gone. -/
@[ext]
structure Database where
  inverters : List InverterRow
  issued : List (Uuid × Uuid)
  settings : Uuid → Option UserSettings
  metrics : List InvertersMetrics
  alerts : List AlertRow

def Database.empty : Database := ⟨[], [], fun _ => none, [], []⟩

/-- Oldest first. Rows of one age come in an order of their own. -/
structure ByAge extends Paging.Order InverterRow where
  byAge : ∀ rows, (sort rows).Pairwise fun a b => a.createdAt ≤ b.createdAt

def Database.inverter (db : Database) (id : Uuid) : Option Inverter :=
  (db.inverters.find? (·.id = id)).map (·.toInverter)

def findFirstIdByUserId (order : ByAge) (db : Database) (userId : Uuid) : Option Uuid :=
  (order.sort (db.inverters.filter (·.userId = userId))).head?.map (·.id)

/-- The inverter, the settings and the readings that three queries in a row see. -/
def tables (reads : Nat → Database) (q : Nat) : Tables where
  inverters := (reads q).inverter
  settings := (reads (q + 1)).settings
  metrics := (reads (q + 2)).metrics
  members := []

/-! ## The tools -/

inductive MetricsMode
  | current
  | history
  deriving DecidableEq, Repr

inductive SavingsMode
  | cumulative
  | period
  | custom
  deriving DecidableEq, Repr

structure MetricsInput where
  mode : MetricsMode
  inverterId : Option Uuid
  period : Option Period
  deriving DecidableEq, Repr

structure SavingsInput where
  mode : SavingsMode
  period : Option Period
  date : Option CalendarDate
  startDate : Option CalendarDate
  endDate : Option CalendarDate

inductive ToolCall
  | readAlerts (filters : Filters)
  | readMetrics (input : MetricsInput)
  | readSavings (input : SavingsInput)
  | readSystemInsights

inductive ToolReply
  | text (message : String)
  | alerts (reply : AlertReader.Reply)
  | current (inverterId : Uuid) (data : CurrentReadings)
  | history (inverterId : Uuid) (usage : EnergyUsage)
  | savings (savings : AgentSavings)
  | cumulative (savings : AgentCumulativeSavings)
  | insights (insights : SystemInsights)
  deriving DecidableEq, Repr

/-- What the answer depends on besides the rows: the order of inverters of one age, the zones of the
database session and of the server, and the clock. -/
structure Env where
  order : ByAge
  zone : SessionZone
  sessionTza : Int
  tza : Int
  now : Int

section
variable (env : Env) (reads : Nat → Database) (userId : Uuid)

def noInverters : ToolReply := .text "No inverters found for your account."

/-- `getMetricsForAgent`, without a reading if there is none. -/
def getMetricsForAgent (q : Nat) (inverterId : Uuid) (input : MetricsInput) : ToolReply :=
  match input.mode with
  | .current =>
    match latestReading (reads q).metrics inverterId with
    | none => .text "No metrics data is available for your inverter yet."
    | some latest => .current inverterId (currentReadings latest)
  | .history =>
    .history inverterId
      (getEnergyUsage (reads q).inverter (reads (q + 1)).metrics env.sessionTza (env.now * 1000) inverterId
        (input.period.getD .daily))

def readMetrics (input : MetricsInput) : ToolReply :=
  match findFirstIdByUserId env.order (reads 0) userId with
  | none => noInverters
  | some firstId =>
    match input.inverterId with
    | some inverterId =>
      if firstId ≠ inverterId then .text "Only your primary inverter can be queried."
      else getMetricsForAgent env reads 1 inverterId input
    | none =>
      -- the first inverter is looked up a second time
      match findFirstIdByUserId env.order (reads 1) userId with
      | none => noInverters
      | some inverterId => getMetricsForAgent env reads 2 inverterId input

def dateOr (now : Int) (date : Option CalendarDate) : Int := (date.map fun d => d.day * msPerDay).getD now

/-- `getSavingsForAgent`. The two halves of the cumulative mode query the database each on its own. -/
def getSavingsForAgent (inverterId : Uuid) (input : SavingsInput) : Except ServiceError ToolReply :=
  match input.mode with
  | .cumulative => do
    let cumulative ← agentCumulativeSavings (tables reads 1) inverterId
    let today ← agentPeriodSavings env.tza (tables reads 4) inverterId .daily env.now
    return .cumulative { cumulative, today := today.map (·.results.today env.now) }
  | .period =>
    (fun savings => .savings (.ofPeriod savings)) <$>
      agentPeriodSavings env.tza (tables reads 1) inverterId (input.period.getD .daily) (dateOr env.now input.date)
  | .custom =>
    match input.startDate, input.endDate with
    | some start, some stop =>
      .savings <$> Savings.getSavingsForAgent env.tza (tables reads 1) inverterId
        (.custom (start.day * msPerDay) (stop.day * msPerDay))
    | _, _ => return .savings (.error "startDate and endDate are required for custom mode.")

def readSavings (input : SavingsInput) : ToolReply :=
  match findFirstIdByUserId env.order (reads 0) userId with
  | none => noInverters
  | some inverterId =>
    match getSavingsForAgent env reads inverterId input with
    | .ok reply => reply
    | .error _ => .text "Unable to retrieve savings data at this time. Please try again."

def readInsights : ToolReply :=
  match findFirstIdByUserId env.order (reads 0) userId with
  | none => noInverters
  | some inverterId =>
    match getSystemInsights (tables reads 1) env.now inverterId with
    | .ok insights => .insights insights
    | .error _ => .text "Unable to compute system insights at this time. Please try again."

/-- A tool that throws hands the error to the agent. -/
def callTool : ToolCall → Except ServiceError ToolReply
  | .readAlerts filters => .alerts <$> readAlert env.zone (reads 0).alerts filters userId
  | .readMetrics input => return readMetrics env reads userId input
  | .readSavings input => return readSavings env reads userId input
  | .readSystemInsights => return readInsights env reads userId

end

/-! ## A turn -/

inductive Move
  | ask (calls : List ToolCall)
  | answer (content : String)

abbrev Transcript := List (ToolCall × Except ServiceError ToolReply)

/-- The calls of a turn are counted from 0. A turn of too many rounds ends without an answer. -/
def turn (agent : Transcript → Move) (serve : Nat → ToolCall → Except ServiceError ToolReply) :
    Nat → Transcript → Transcript × Option String
  | 0, log => (log, none)
  | rounds + 1, log =>
    match agent log with
    | .answer content => (log, some content)
    | .ask calls => turn agent serve rounds (log ++ calls.mapIdx fun i call => (call, serve (log.length + i) call))

end IntellApi.AgentTools
