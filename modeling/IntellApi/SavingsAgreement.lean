import IntellApi.LagosDays
import IntellApi.SavingsSound

/-!
# The savings of the chatbot and of the pages

Each function of the agent repeats one of an endpoint without the check of the
user. Periods and lifetimes agree. A custom range has the same instants and
totals in both, but the endpoint prints the day after its last one
(`customRange_end_differs`). `parse` is what `new Date` makes of a text.
-/

namespace IntellApi.Savings

open Calendar InverterAccess JsNumber Metrics Reports

/-! ## Requests with texts -/

structure SavingsQuery where
  period : Option Period
  date : Option String
  startDate : Option String
  endDate : Option String
  deriving DecidableEq, Repr

section
variable (parse : String → Option Int) (order : Paging.Order InverterMember) (tza : Int) (db : Tables)

def parseDateOrThrow (value field : String) : Except ServiceError Int :=
  match parse value with
  | some d => return d
  | none => throw (.badRequest (field ++ " must be a valid date"))

/-- `getPeriodSavings` of the controller. -/
def savingsEndpoint (now : Int) (inverterId userId : Uuid) (query : SavingsQuery) :
    Except ServiceError (PeriodSavings ⊕ CustomRangeSavings) :=
  match given query.startDate, given query.endDate with
  | some startDate, some endDate => do
    let start ← parseDateOrThrow parse startDate "startDate"
    let stop ← parseDateOrThrow parse endDate "endDate"
    getSavings order tza db inverterId userId (.custom start stop)
  | none, none => do
    let referenceDate ← (given query.date).elim (.ok now) (parseDateOrThrow parse · "date")
    .inl <$> getPeriodSavings order tza db inverterId userId (query.period.getD .daily) referenceDate
  | _, _ => throw (.badRequest "startDate and endDate must be provided together")

/-- `getSavingsForAgent` in custom mode. The database refuses a date that is not one. -/
def agentCustomMode (inverterId : Uuid) (startDate endDate : Option String) : Except ServiceError AgentSavings :=
  match given startDate, given endDate with
  | some startDate, some endDate =>
    match parse startDate, parse endDate with
    | some start, some stop => getSavingsForAgent tza db inverterId (.custom start stop)
    | _, _ => throw (.error "invalid input syntax for type timestamp with time zone")
  | _, _ => return .error "startDate and endDate are required for custom mode."

end

structure TodaySavings where
  date : Int
  totalCostSavedNgn : JsNumber
  fuelSavedLitres : ℚ
  co2AvoidedKg : ℚ
  deriving DecidableEq, Repr

structure AgentCumulativeSavings where
  cumulative : Option CumulativeSavings
  today : Option TodaySavings
  deriving DecidableEq, Repr

def SavingsResults.today (results : SavingsResults) (now : Int) : TodaySavings where
  date := day now
  totalCostSavedNgn := results.totalCostSavedNgn
  fuelSavedLitres := results.fuelSavedLitres
  co2AvoidedKg := results.co2AvoidedKg

/-- `getSavingsForAgent` in cumulative mode. -/
def agentCumulativeMode (tza : Int) (db : Tables) (now : Int) (inverterId : Uuid) :
    Except ServiceError AgentCumulativeSavings := do
  let cumulative ← agentCumulativeSavings db inverterId
  let today ← agentPeriodSavings tza db inverterId .daily now
  return { cumulative, today := today.map (·.results.today now) }

/-! ## Periods and lifetimes -/

/-- What the agent returns of the savings of a period, too. -/
def PeriodSavings.shared (savings : PeriodSavings) : AgentPeriodSavings where
  period := savings.period
  results := savings.results.toSavingsResults
  summary := savings.summary
  info := savings.info

section
variable {order : Paging.Order InverterMember} {tza : Int} {db : Tables} {inverterId userId : Uuid} {inverter : Inverter}

theorem authorize_found (h : db.authorize order inverterId userId = .ok inverter) :
    db.inverters inverterId = some inverter := by
  unfold Tables.authorize at h
  obtain ⟨i, hi, h⟩ := bind_eq_ok.mp h
  obtain ⟨_, _, h⟩ := bind_eq_ok.mp h
  cases h
  unfold findOne at hi
  split at hi
  · rename_i i' hi'
    cases hi
    exact hi'
  · cases hi

theorem agentPeriodSavings_eq (h : db.authorize order inverterId userId = .ok inverter) (period : Period) (date : Int) :
    agentPeriodSavings tza db inverterId period date =
      (getPeriodSavings order tza db inverterId userId period date).map fun r => some r.shared := by
  unfold agentPeriodSavings getPeriodSavings
  rw [authorize_found h, h]
  cases hr : fuelRule .strict (db.settings inverter.userId) with
  | error e => simp only [bind, Except.bind, hr, Except.map]
  | ok rule => simp only [bind, Except.bind, hr, Except.map, pure, Except.pure]; rfl

theorem agentCumulativeSavings_eq (h : db.authorize order inverterId userId = .ok inverter) :
    agentCumulativeSavings db inverterId = (getCumulativeSavings order db inverterId userId).map some := by
  unfold agentCumulativeSavings getCumulativeSavings
  rw [authorize_found h, h]
  cases hr : fuelRule .strict (db.settings inverter.userId) with
  | error e => simp only [bind, Except.bind, hr, Except.map]
  | ok rule => simp only [bind, Except.bind, hr, Except.map, pure, Except.pure]

theorem agentCumulativeMode_today (h : db.authorize order inverterId userId = .ok inverter) {now : Int}
    {r : AgentCumulativeSavings} {page : PeriodSavings}
    (hr : agentCumulativeMode tza db now inverterId = .ok r)
    (hp : getPeriodSavings order tza db inverterId userId .daily now = .ok page) :
    r.today = some (page.results.today now) := by
  unfold agentCumulativeMode at hr
  obtain ⟨_, _, hr⟩ := bind_eq_ok.mp hr
  rw [agentPeriodSavings_eq h, hp] at hr
  cases hr
  rfl

end

/-! ## Custom ranges -/

/-- The two report one range in the same way. -/
structure SameRange (r : CustomRangeSavings) (a : AgentCustomRangeSavings) : Prop where
  startDate : a.startDate = r.startDate
  endDate : a.endDate = r.endDate
  spanDays : a.spanDays = r.spanDays
  granularity : a.granularity = r.granularity
  results : a.results = r.results.toSavingsResults
  summary : a.summary = r.summary.toSavingsSummary
  info : a.info = r.info

section
variable {parse : String → Option Int} {order : Paging.Order InverterMember} {tza now start stop : Int} {db : Tables}
  {inverterId userId : Uuid} {r : CustomRangeSavings} {a : AgentCustomRangeSavings} {startDate endDate : Option String}

theorem savingsEndpoint_custom {query : SavingsQuery}
    (h : savingsEndpoint parse order tza db now inverterId userId query = .ok (.inr r)) :
    ∃ startDate endDate start stop, given query.startDate = some startDate ∧ given query.endDate = some endDate ∧
      parse startDate = some start ∧ parse endDate = some stop ∧
      getSavings order tza db inverterId userId (.custom start stop) = .ok (.inr r) := by
  have hparse : ∀ {value field : String} {d : Int}, parseDateOrThrow parse value field = .ok d →
      parse value = some d := by
    intro value field d hd
    unfold parseDateOrThrow at hd
    split at hd
    · rename_i hp
      cases hd
      exact hp
    · cases hd
  unfold savingsEndpoint at h
  split at h
  · rename_i startDate endDate hs he
    obtain ⟨start, hstart, h⟩ := bind_eq_ok.mp h
    obtain ⟨stop, hstop, h⟩ := bind_eq_ok.mp h
    exact ⟨startDate, endDate, start, stop, hs, he, hparse hstart, hparse hstop, h⟩
  · obtain ⟨date, _, h⟩ := bind_eq_ok.mp h
    cases hp : getPeriodSavings order tza db inverterId userId (query.period.getD .daily) date with
    | error e => rw [hp] at h; cases h
    | ok savings => rw [hp] at h; cases h
  · cases h

theorem agentCustomMode_custom (h : agentCustomMode parse tza db inverterId startDate endDate = .ok (.custom a)) :
    ∃ startDate' endDate' start stop, given startDate = some startDate' ∧ given endDate = some endDate' ∧
      parse startDate' = some start ∧ parse endDate' = some stop ∧
      getSavingsForAgent tza db inverterId (.custom start stop) = .ok (.custom a) := by
  unfold agentCustomMode at h
  split at h
  · rename_i startDate' endDate' hs he
    split at h
    · rename_i start stop hstart hstop
      exact ⟨startDate', endDate', start, stop, hs, he, hstart, hstop, h⟩
    · cases h
  · cases h

theorem day_sub (d : Int) : day (d - msPerDay) = day d - 1 := by
  simp only [day, msPerDay]
  omega

theorem map_eq_ok {ε α β : Type} {x : Except ε α} {f : α → β} {b : β} :
    f <$> x = .ok b ↔ ∃ a, x = .ok a ∧ f a = b := by
  constructor
  · intro h
    cases x with
    | error e => cases h
    | ok a => exact ⟨a, rfl, Except.ok.inj h⟩
  · rintro ⟨a, rfl, rfl⟩
    rfl

/-- Given one range, the two differ in the last date, by a day. -/
theorem customRange_same (h : getSavings order tza db inverterId userId (.custom start stop) = .ok (.inr r))
    (ha : getSavingsForAgent tza db inverterId (.custom start stop) = .ok (.custom a)) :
    SameRange { r with endDate := r.endDate - 1 } a := by
  obtain ⟨r', hr, hrr⟩ := map_eq_ok.mp h
  cases hrr
  unfold getCustomRangeSavings at hr
  obtain ⟨inverter, hauth, hr⟩ := bind_eq_ok.mp hr
  have hfound := authorize_found hauth
  split at hr
  · cases hr
  · rename_i hlt
    obtain ⟨rule, hrule, hr⟩ := bind_eq_ok.mp hr
    cases hr
    unfold getSavingsForAgent at ha
    simp only [if_neg hlt] at ha
    obtain ⟨a', ha, haa⟩ := map_eq_ok.mp ha
    cases haa
    unfold agentCustomRangeSavings at ha
    rw [hfound] at ha
    obtain ⟨rule', hrule', ha⟩ := bind_eq_ok.mp ha
    cases hrule.symm.trans hrule'
    cases ha
    exact ⟨rfl, day_sub _, rfl, rfl, rfl, rfl, rfl⟩

/-- Whenever both accept the dates, the endpoint names a later end than the agent, and nothing else differs. -/
theorem customRange_end_differs {query : SavingsQuery}
    (h : savingsEndpoint parse order tza db now inverterId userId query = .ok (.inr r))
    (ha : agentCustomMode parse tza db inverterId query.startDate query.endDate = .ok (.custom a)) :
    ¬SameRange r a ∧ SameRange { r with endDate := r.endDate - 1 } a := by
  obtain ⟨startDate, endDate, start, stop, hs, he, hstart, hstop, h⟩ := savingsEndpoint_custom h
  obtain ⟨startDate', endDate', start', stop', hs', he', hstart', hstop', ha⟩ := agentCustomMode_custom ha
  cases hs.symm.trans hs'
  cases he.symm.trans he'
  cases hstart.symm.trans hstart'
  cases hstop.symm.trans hstop'
  have hsame := customRange_same h ha
  refine ⟨fun hr => ?_, hsame⟩
  have := hr.endDate.symm.trans hsame.endDate
  dsimp only at this
  omega

/-- What `new Date` makes of two days of May 2026. -/
def readMay (text : String) : Option Int :=
  if text = "2026-05-14" then some 1778716800000 else if text = "2026-05-26" then some 1779753600000 else none

def mayQuery : SavingsQuery := ⟨none, none, some "2026-05-14", some "2026-05-26"⟩

theorem may_end_differs : ∃ r a,
    savingsEndpoint readMay Paging.asStored 0 (tables none) 0 1 5 mayQuery = .ok (.inr r) ∧
    agentCustomMode readMay 0 (tables none) 1 mayQuery.startDate mayQuery.endDate = .ok (.custom a) ∧
    ¬SameRange r a ∧ SameRange { r with endDate := r.endDate - 1 } a :=
  ⟨_, _, rfl, rfl, @customRange_end_differs readMay Paging.asStored 0 0 (tables none) 1 5 _ _ mayQuery rfl rfl⟩

/-- From 14 to 26 May: up to the 27th, says the endpoint. -/
theorem custom_ranges_differ : ¬ ∀ parse order tza db now inverterId userId (query : SavingsQuery) r a,
    savingsEndpoint parse order tza db now inverterId userId query = .ok (.inr r) →
    agentCustomMode parse tza db inverterId query.startDate query.endDate = .ok (.custom a) → SameRange r a := by
  intro h
  have := h readMay Paging.asStored 0 (tables none) 0 1 5 mayQuery _ _ rfl rfl
  exact absurd this.endDate (by decide +kernel)

end

end IntellApi.Savings
