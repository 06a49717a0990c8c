import IntellApi.Dashboard
import Mathlib.Tactic.FieldSimp
import Mathlib.Tactic.Ring

/-!
# One price

`moneySaved` is the rule every path means to follow. The cost-and-savings
reports and the system insights always follow it. The other seven paths test the
custom price with `!== null`, so without a settings row they compute with
`Number(undefined)` (`one_rule_iff`).
-/

namespace IntellApi.Savings

open Dashboard Fuel JsNumber Metrics Reports

/-! ## The rule -/

def tablePrice (type : GeneratorFuelType) : ℚ :=
  match getLatestFuelPrice type with
  | .ok entry => entry.pricePerLitreNaira
  | .error _ => 0

/-- The custom price when there is one, otherwise the latest price of the table. -/
def fuelPrice (settings : Option UserSettings) : ℚ :=
  (settings.bind (·.customFuelPriceNaira)).getD (tablePrice (fuelTypeOf settings))

def litresSaved (settings : Option UserSettings) (energyKwh : ℚ) : ℚ :=
  if ratedPowerOf settings > 0 then
    energyKwh / ratedPowerOf settings * estimateFuelConsumptionRate (fuelTypeOf settings) (ratedPowerOf settings)
  else 0

def moneySaved (settings : Option UserSettings) (energyKwh : ℚ) : ℚ := litresSaved settings energyKwh * fuelPrice settings

def shown (k : Nat) (q : ℚ) : JsNumber := num (toFixedRat k q)

structure FuelRule.Right (settings : Option UserSettings) (rule : FuelRule) : Prop where
  price : rule.fuelPricePerLitreNaira = num (fuelPrice settings)
  litres : ∀ energyKwh, rule.fuelSaved energyKwh = litresSaved settings energyKwh

section
variable {settings : Option UserSettings} {rule : FuelRule} {test : NullTest} {rows : List SavingsRow}

/-- The two tests differ only where there is no row. -/
theorem price_right {entry : FuelPriceEntry} (he : getLatestFuelPrice (fuelTypeOf settings) = .ok entry)
    (h : settings.isSome ∨ test = .loose) : test.price settings entry = num (fuelPrice settings) := by
  have ht : tablePrice (fuelTypeOf settings) = entry.pricePerLitreNaira := by rw [tablePrice, he]
  unfold fuelPrice NullTest.price
  rw [ht]
  cases settings with
  | none =>
    rcases h with h | rfl
    · cases h
    · rfl
  | some row =>
    cases hc : row.customFuelPriceNaira with
    | none => simp [hc]
    | some price => simp [hc]

theorem fuelRule_right (hr : fuelRule test settings = .ok rule) (h : settings.isSome ∨ test = .loose) :
    rule.Right settings := by
  obtain ⟨entry, he, hr⟩ := bind_eq_ok.mp hr
  cases hr
  exact ⟨price_right he h, fun _ => rfl⟩

theorem fuelRule_ok (test : NullTest) (settings : Option UserSettings) : ∃ rule, fuelRule test settings = .ok rule := by
  obtain ⟨entry, he⟩ := getLatestFuelPrice_ok (fuelTypeOf settings)
  exact ⟨_, bind_eq_ok.mpr ⟨entry, he, rfl⟩⟩

theorem cost_nan (hr : fuelRule .strict none = .ok rule) (energyKwh : ℚ) : rule.costAvoided energyKwh = nan := by
  obtain ⟨entry, _, hr⟩ := bind_eq_ok.mp hr
  cases hr
  exact mul_nan _

/-- Without a settings row the total, the average and every bucket are not numbers. -/
theorem unsettled_nan (hr : fuelRule .strict none = .ok rule) (rows : List SavingsRow) :
    (rule.results rows).totalCostSavedNgn = nan ∧ rule.averageCost rows = nan ∧
      ∀ b ∈ (rule.results rows).breakdown, b.generatorCostSavedNgn = nan := by
  refine ⟨?_, ?_, ?_⟩
  · simp only [FuelRule.results, FuelRule.generatorCostAvoidedNgn, cost_nan hr, toFixed_nan]
  · simp only [FuelRule.averageCost, FuelRule.generatorCostAvoidedNgn, cost_nan hr, nan_div, toFixed_nan]
  · intro b hb
    obtain ⟨row, _, rfl⟩ := List.mem_map.mp hb
    simp only [FuelRule.breakdown, cost_nan hr, toFixed_nan]

theorem FuelRule.Right.cost (h : rule.Right settings) (energyKwh : ℚ) :
    rule.costAvoided energyKwh = num (moneySaved settings energyKwh) := by
  rw [FuelRule.costAvoided, h.price, h.litres, num_mul, moneySaved]

theorem litresSaved_mul (energyKwh h : ℚ) :
    litresSaved settings energyKwh * h = litresSaved settings (energyKwh * h) := by
  unfold litresSaved
  split
  · ring
  · ring

theorem moneySaved_mul (energyKwh h : ℚ) : moneySaved settings energyKwh * h = moneySaved settings (energyKwh * h) := by
  unfold moneySaved
  rw [← litresSaved_mul]
  ring

theorem orOne_ne_zero (n : Nat) : (orOne n : ℚ) ≠ 0 := by
  unfold orOne
  split
  · norm_num
  · rename_i h
    exact_mod_cast h

end

/-! ## Amounts that follow the rule -/

def total (settings : Option UserSettings) (rows : List SavingsRow) : JsNumber :=
  shown 2 (moneySaved settings (totalEnergyKwh rows))

def average (settings : Option UserSettings) (rows : List SavingsRow) : JsNumber :=
  shown 2 (moneySaved settings (totalEnergyKwh rows) / bucketsWithData rows)

structure RightSavings (settings : Option UserSettings) (rows : List SavingsRow) (results : SavingsResults)
    (summary : SavingsSummary) (info : SavingsMeta) : Prop where
  price : info.fuelPricePerLitreNgn = num (fuelPrice settings)
  resultsTotal : results.totalCostSavedNgn = total settings rows
  summaryTotal : summary.totalCostSavedNgn = total settings rows
  breakdown : results.breakdown.map (·.generatorCostSavedNgn) =
    rows.map fun r => shown 2 (moneySaved settings r.energyKwh)

structure RightHttp (settings : Option UserSettings) (rows : List SavingsRow) (results : HttpResults)
    (chart : List (Int × JsNumber)) : Prop where
  avoided : results.generatorCostAvoidedNgn = total settings rows
  chart : chart = rows.map fun r => (r.bucket, shown 2 (moneySaved settings r.energyKwh))

def lifetime (settings : Option UserSettings) (rows : List MonthRow) : ℚ :=
  (rows.map fun r => toFixedRat 2 (moneySaved settings r.energyKwh)).sum

structure RightCumulative (settings : Option UserSettings) (rows : List MonthRow) (r : CumulativeSavings) :
    Prop where
  price : r.info.fuelPricePerLitreNgn = num (fuelPrice settings)
  chart : r.chart = rows.map fun r => (r.month, shown 2 (moneySaved settings r.energyKwh))
  lifetime : r.lifetimeSavingsNgn = shown 2 (lifetime settings rows)
  toDate : r.totalSavingsToDateNgn = shown 2 (Savings.lifetime settings rows)
  average : r.averageMonthlySavingsNgn = shown 2 (Savings.lifetime settings rows / orOne rows.length)

structure RightReport (settings : Option UserSettings) (rows : List SavingsRow) (r : CostSavingsReport) : Prop where
  price : r.keyMetrics.fuelPricePerLitreNgn = num (fuelPrice settings)
  total : r.keyMetrics.totalCostSavedNgn = shown 3 (moneySaved settings (totalEnergyKwh rows))
  avoided : r.keyMetrics.generatorCostAvoidedNgn = shown 3 (moneySaved settings (totalEnergyKwh rows))

structure RightDashboard (settings : Option UserSettings) (today month : ℚ) (r : DashboardMetrics) : Prop where
  today : r.nairaSavedToday = shown 2 (moneySaved settings today)
  month : r.nairaSavedThisMonth = shown 2 (moneySaved settings month)

def drawnKw (latest : InvertersMetrics) : ℚ := max (netDischargeKw latest) 0

structure RightInsights (settings : Option UserSettings) (inverter : Inverter) (latest : InvertersMetrics)
    (r : Insights) : Prop where
  price : r.fuelPricePerLitreNgn = num (fuelPrice settings)
  perHour : r.savingsAtRisk.savingsPerHourNgn = shown 2 (moneySaved settings (drawnKw latest))
  atRisk : r.savingsAtRisk.ngnAtRisk =
    (depletionHours inverter latest).map fun h => shown 2 (moneySaved settings (drawnKw latest * h))
  shed : r.loadReduction.additionalSavingsNgn =
    (depletionHours inverter latest).map fun h => shown 2 (moneySaved settings (drawnKw latest * h))

section
variable {settings : Option UserSettings} {rule : FuelRule} {rows : List SavingsRow}

theorem FuelRule.Right.shown (h : rule.Right settings) (k : Nat) (energyKwh : ℚ) :
    (rule.costAvoided energyKwh).toFixed k = shown k (moneySaved settings energyKwh) := by
  rw [h.cost, toFixed_num]
  rfl

theorem FuelRule.Right.savings (h : rule.Right settings) :
    RightSavings settings rows (rule.results rows) (rule.summary rows) rule.info where
  price := h.price
  resultsTotal := h.shown 2 _
  summaryTotal := h.shown 2 _
  breakdown := by
    simp only [FuelRule.results, List.map_map]
    apply List.map_congr_left
    intro r _
    exact h.shown 2 r.energyKwh

theorem FuelRule.Right.http (h : rule.Right settings) :
    RightHttp settings rows (rule.httpResults rows) (chart (rule.results rows).breakdown) where
  avoided := h.shown 2 _
  chart := by
    simp only [chart, FuelRule.results, List.map_map]
    apply List.map_congr_left
    intro r _
    exact congrArg (Prod.mk r.bucket) (h.shown 2 r.energyKwh)

theorem FuelRule.Right.average (h : rule.Right settings) : rule.averageCost rows = average settings rows := by
  have hn : (bucketsWithData rows : ℚ) ≠ 0 := orOne_ne_zero _
  unfold FuelRule.averageCost FuelRule.generatorCostAvoidedNgn
  rw [h.cost, num_div _ _ hn, toFixed_num]
  rfl

theorem addAll_num (l : List ℚ) : addAll (l.map num) = num l.sum := by
  have key : ∀ (l : List ℚ) (q : ℚ), (l.map num).foldl (· + ·) (num q) = num (q + l.sum) := by
    intro l
    induction l with
    | nil => intro q; simp
    | cons a l ih =>
      intro q
      simp only [List.map_cons, List.foldl_cons, num_add, List.sum_cons]
      rw [ih, add_assoc]
  exact (key l 0).trans (by rw [zero_add])

theorem FuelRule.Right.cumulative (h : rule.Right settings) (rows : List MonthRow) :
    RightCumulative settings rows (rule.cumulative rows) := by
  have hmonths : addAll ((rows.map rule.month).map (·.savingsNgn)) = num (lifetime settings rows) := by
    rw [lifetime, ← addAll_num, List.map_map, List.map_map]
    congr 1
    apply List.map_congr_left
    intro r _
    exact h.shown 2 r.energyKwh
  exact {
    price := h.price
    chart := by
      simp only [FuelRule.cumulative, List.map_map]
      apply List.map_congr_left
      intro r _
      exact congrArg (Prod.mk r.month) (h.shown 2 r.energyKwh)
    lifetime := by
      simp only [FuelRule.cumulative, hmonths]
      rfl
    toDate := by
      simp only [FuelRule.cumulative, hmonths]
      rfl
    average := by
      simp only [FuelRule.cumulative, hmonths, List.length_map]
      rw [num_div _ _ (orOne_ne_zero _)]
      rfl }

/-- A guard before the formula changes nothing: without power or without a rated power no fuel is saved. -/
theorem FuelRule.Right.guarded (h : rule.Right settings) {c : Prop} [Decidable c] {energyKwh : ℚ}
    (hc : ¬ c → rule.fuelSaved energyKwh = 0) :
    (if c then rule.costAvoided energyKwh else 0) = num (moneySaved settings energyKwh) := by
  split
  · exact h.cost energyKwh
  · rename_i hn
    rw [moneySaved, ← h.litres, hc hn, zero_mul]
    rfl

theorem fuelSaved_zero : rule.fuelSaved 0 = 0 := by
  unfold FuelRule.fuelSaved
  split
  · simp
  · rfl

theorem FuelRule.Right.perHour (h : rule.Right settings) (latest : InvertersMetrics) :
    savingsPerHour rule latest = num (moneySaved settings (drawnKw latest)) := by
  refine h.guarded fun hn => ?_
  by_cases hr : rule.ratedPowerKw > 0
  · have hz : max (netDischargeKw latest) 0 = 0 :=
      le_antisymm (not_lt.mp fun hd => hn ⟨hr, hd⟩) (le_max_right _ _)
    rw [hz, fuelSaved_zero]
  · exact if_neg hr

theorem FuelRule.Right.shedPerHour (h : rule.Right settings) (latest : InvertersMetrics) :
    shedSavingsPerHour rule latest = num (moneySaved settings (drawnKw latest)) :=
  h.guarded fun hn => if_neg hn

theorem FuelRule.Right.insights (h : rule.Right settings) (inverter : Inverter) (latest : InvertersMetrics)
    (dataAgeSeconds : Int) :
    RightInsights settings inverter latest (insights rule inverter latest dataAgeSeconds) where
  price := h.price
  perHour := by
    simp only [Dashboard.insights, h.perHour, toFixed_num]
    rfl
  atRisk := by
    simp only [Dashboard.insights, h.perHour, num_mul, moneySaved_mul, toFixed_num]
    rfl
  shed := by
    simp only [Dashboard.insights, h.shedPerHour, num_mul, moneySaved_mul, toFixed_num]
    split
    · rfl
    · rename_i hn
      have hd : depletionHours inverter latest = none :=
        if_neg fun hd => hn (lt_max_of_lt_left hd.1)
      rw [hd]
      rfl

end

/-! ## Every path -/

/-- Every amount that the owner of `inverter` is shown follows the rule. -/
structure OneRule (order : Paging.Order InverterMember) (env : Env) (tza : Int) (db : Tables) (inverter : Inverter) :
    Prop where
  dashboard : ∀ now userId r, getDashboardMetrics order env tza db now inverter.id userId = .ok r →
    RightDashboard (db.settings inverter.userId) (energySince db inverter inverter.id (todayStart tza now))
      (energySince db inverter inverter.id (monthStart tza now)) r
  agentPeriod : ∀ period date r, agentPeriodSavings tza db inverter.id period date = .ok (some r) →
    let rows := db.savingsRows inverter.brand inverter.id (periodWindow tza period date) (chartGroup period)
    RightSavings (db.settings inverter.userId) rows r.results r.summary.toSavingsSummary r.info ∧
      r.summary.averageCostSavedNgn = average (db.settings inverter.userId) rows
  period : ∀ userId period date r, getPeriodSavings order tza db inverter.id userId period date = .ok r →
    let rows := db.savingsRows inverter.brand inverter.id (periodWindow tza period date) (chartGroup period)
    RightSavings (db.settings inverter.userId) rows r.results.toSavingsResults r.summary.toSavingsSummary r.info ∧
      r.summary.averageCostSavedNgn = average (db.settings inverter.userId) rows ∧
      RightHttp (db.settings inverter.userId) rows r.results r.chart
  agentCustomRange : ∀ start stop r, agentCustomRangeSavings db inverter.id start stop = .ok r →
    let rows := db.savingsRows inverter.brand inverter.id (.halfOpen start stop) (customGroup (spanDays start stop))
    RightSavings (db.settings inverter.userId) rows r.results r.summary r.info
  customRange : ∀ userId start stop r, getCustomRangeSavings order db inverter.id userId start stop = .ok r →
    let rows := db.savingsRows inverter.brand inverter.id (.halfOpen start stop) (customGroup (spanDays start stop))
    RightSavings (db.settings inverter.userId) rows r.results.toSavingsResults r.summary.toSavingsSummary r.info ∧
      r.summary.averageCostSavedPerBucketNgn = average (db.settings inverter.userId) rows ∧
      RightHttp (db.settings inverter.userId) rows r.results r.chart
  agentCumulative : ∀ r, agentCumulativeSavings db inverter.id = .ok (some r) →
    RightCumulative (db.settings inverter.userId) (db.monthRows inverter.brand inverter.id) r
  cumulative : ∀ userId r, getCumulativeSavings order db inverter.id userId = .ok r →
    RightCumulative (db.settings inverter.userId) (db.monthRows inverter.brand inverter.id) r
  insights : ∀ now r, getSystemInsights db now inverter.id = .ok (.available r) →
    ∃ latest, latestReading db.metrics inverter.id = some latest ∧
      RightInsights (db.settings inverter.userId) inverter latest r
  periodReport : ∀ now report r window, report.inverterId = inverter.id →
    periodReportWindow tza (some inverter) report = .ok window →
    getPeriodCostsAndSavingsReport tza db now report = .ok r →
    RightReport (db.settings inverter.userId)
      (db.reportRows inverter.brand inverter.id window (chartGroup report.period.toPeriod)) r
  customRangeReport : ∀ now report r start stop, report.inverterId = inverter.id →
    report.startDate = some start → report.endDate = some stop →
    getCustomRangeCostsAndSavingsReport db now report = .ok r →
    RightReport (db.settings inverter.userId)
      (db.reportRows inverter.brand inverter.id (.halfOpen start stop) (customGroup (spanDays start stop))) r

section
variable {order : Paging.Order InverterMember} {env : Env} {tza : Int} {db : Tables} {inverter : Inverter}

theorem authorize_ok {userId : Uuid} {i : Inverter} (hi : db.inverters inverter.id = some inverter)
    (h : db.authorize order inverter.id userId = .ok i) : i = inverter := by
  unfold Tables.authorize at h
  obtain ⟨j, hj, h⟩ := bind_eq_ok.mp h
  obtain ⟨_, _, h⟩ := bind_eq_ok.mp h
  cases h
  rw [InverterAccess.findOne, hi] at hj
  exact (Except.ok.inj hj).symm

theorem endpoint_right {α : Type} {userId : Uuid} {f : Inverter → FuelRule → Except ServiceError α} {r : α}
    (hi : db.inverters inverter.id = some inverter) (hs : (db.settings inverter.userId).isSome)
    (h : (db.authorize order inverter.id userId >>= fun i => fuelRule .strict (db.settings i.userId) >>= f i) = .ok r) :
    ∃ rule : FuelRule, rule.Right (db.settings inverter.userId) ∧ f inverter rule = .ok r := by
  obtain ⟨i, ha, hb⟩ := bind_eq_ok.mp h
  rw [authorize_ok hi ha] at hb
  obtain ⟨rule, hr, hf⟩ := bind_eq_ok.mp hb
  exact ⟨rule, fuelRule_right hr (.inl hs), hf⟩

theorem getCustomRangeSavings_right {userId : Uuid} {start stop : Int} {r : CustomRangeSavings}
    (hi : db.inverters inverter.id = some inverter) (hs : (db.settings inverter.userId).isSome)
    (h : getCustomRangeSavings order db inverter.id userId start stop = .ok r) :
    let rows := db.savingsRows inverter.brand inverter.id (.halfOpen start stop) (customGroup (spanDays start stop))
    ∃ rule : FuelRule, rule.Right (db.settings inverter.userId) ∧ r.results = rule.httpResults rows ∧
      r.summary = rule.customRangeSummary rows ∧ r.chart = chart (rule.results rows).breakdown ∧ r.info = rule.info := by
  unfold getCustomRangeSavings at h
  obtain ⟨i, ha, hb⟩ := bind_eq_ok.mp h
  rw [authorize_ok hi ha] at hb
  split at hb
  · cases hb
  · obtain ⟨rule, hr, hf⟩ := bind_eq_ok.mp hb
    cases hf
    exact ⟨rule, fuelRule_right hr (.inl hs), rfl, rfl, rfl, rfl⟩

theorem report_right {now : Int} {report : Report} {window : Window} {group : Granularity} {r : CostSavingsReport}
    (hi : db.inverters inverter.id = some inverter) (hid : report.inverterId = inverter.id)
    (h : costsAndSavingsReport db now report window group = .ok r) :
    RightReport (db.settings inverter.userId) (db.reportRows inverter.brand inverter.id window group) r := by
  unfold costsAndSavingsReport InverterAccess.findOne at h
  rw [hid, hi] at h
  obtain ⟨i, hf, h⟩ := bind_eq_ok.mp h
  cases hf
  obtain ⟨rule, hr, h⟩ := bind_eq_ok.mp h
  cases h
  have hright := fuelRule_right hr (.inr rfl)
  exact ⟨hright.price, hright.shown 3 _, hright.shown 3 _⟩

theorem getPeriodCostsAndSavingsReport_right {now : Int} {report : Report} {window : Window} {r : CostSavingsReport}
    (hi : db.inverters inverter.id = some inverter) (hid : report.inverterId = inverter.id)
    (hw : periodReportWindow tza (some inverter) report = .ok window)
    (h : getPeriodCostsAndSavingsReport tza db now report = .ok r) :
    RightReport (db.settings inverter.userId)
      (db.reportRows inverter.brand inverter.id window (chartGroup report.period.toPeriod)) r := by
  unfold getPeriodCostsAndSavingsReport at h
  rw [hid, hi] at h
  obtain ⟨window', hw', h⟩ := bind_eq_ok.mp h
  obtain rfl : window' = window := Except.ok.inj (hw'.symm.trans hw)
  exact report_right hi hid h

theorem getCustomRangeCostsAndSavingsReport_right {now start stop : Int} {report : Report} {r : CostSavingsReport}
    (hi : db.inverters inverter.id = some inverter) (hid : report.inverterId = inverter.id)
    (h0 : report.startDate = some start) (h1 : report.endDate = some stop)
    (h : getCustomRangeCostsAndSavingsReport db now report = .ok r) :
    RightReport (db.settings inverter.userId)
      (db.reportRows inverter.brand inverter.id (.halfOpen start stop) (customGroup (spanDays start stop))) r := by
  unfold getCustomRangeCostsAndSavingsReport at h
  obtain ⟨window, hw, h⟩ := bind_eq_ok.mp h
  have hwindow : window = .halfOpen start stop := by
    unfold customRangeReportWindow at hw
    rw [h0, h1] at hw
    split at hw
    · cases hw
    · obtain ⟨_, _, hw⟩ := bind_eq_ok.mp hw
      cases hw
      rfl
  subst hwindow
  rw [h0, h1] at h
  exact report_right hi hid h

theorem getSystemInsights_right {now : Int} {r : Insights} (hi : db.inverters inverter.id = some inverter)
    (h : getSystemInsights db now inverter.id = .ok (.available r)) :
    ∃ latest, latestReading db.metrics inverter.id = some latest ∧
      RightInsights (db.settings inverter.userId) inverter latest r := by
  unfold getSystemInsights at h
  rw [hi] at h
  cases hl : latestReading db.metrics inverter.id with
  | none => rw [hl] at h; cases h
  | some latest =>
    rw [hl] at h
    dsimp only at h
    split at h
    · cases h
    · obtain ⟨rule, hr, h⟩ := bind_eq_ok.mp h
      cases h
      exact ⟨latest, rfl, (fuelRule_right hr (.inr rfl)).insights inverter latest _⟩

theorem rule_of_settings (hi : db.inverters inverter.id = some inverter)
    (hs : (db.settings inverter.userId).isSome) : OneRule order env tza db inverter where
  dashboard now userId r h := by
    obtain ⟨rule, hr, h⟩ := endpoint_right hi hs h
    cases h
    exact ⟨hr.shown 2 _, hr.shown 2 _⟩
  agentPeriod period date r h := by
    unfold agentPeriodSavings at h
    rw [hi] at h
    obtain ⟨rule, hr, h⟩ := bind_eq_ok.mp h
    cases h
    have hright := fuelRule_right hr (.inl hs)
    exact ⟨hright.savings, hright.average⟩
  period userId period date r h := by
    obtain ⟨rule, hr, h⟩ := endpoint_right hi hs h
    cases h
    exact ⟨hr.savings, hr.average, hr.http⟩
  agentCustomRange start stop r h := by
    unfold agentCustomRangeSavings at h
    simp only [hi, Option.bind_some, Option.map_some, Option.getD_some] at h
    obtain ⟨rule, hr, h⟩ := bind_eq_ok.mp h
    cases h
    exact (fuelRule_right hr (.inl hs)).savings
  customRange userId start stop r h := by
    obtain ⟨rule, hr, h1, h2, h3, h4⟩ := getCustomRangeSavings_right hi hs h
    rw [h1, h2, h3, h4]
    exact ⟨hr.savings, hr.average, hr.http⟩
  agentCumulative r h := by
    unfold agentCumulativeSavings at h
    rw [hi] at h
    obtain ⟨rule, hr, h⟩ := bind_eq_ok.mp h
    cases h
    exact (fuelRule_right hr (.inl hs)).cumulative _
  cumulative userId r h := by
    obtain ⟨rule, hr, h⟩ := endpoint_right hi hs h
    cases h
    exact hr.cumulative _
  insights now r h := getSystemInsights_right hi h
  periodReport now report r window hid hw h := getPeriodCostsAndSavingsReport_right hi hid hw h
  customRangeReport now report r start stop hid h0 h1 h := getCustomRangeCostsAndSavingsReport_right hi hid h0 h1 h

theorem agentPeriod_nan (hi : db.inverters inverter.id = some inverter) (hs : db.settings inverter.userId = none) :
    ∃ r, agentPeriodSavings tza db inverter.id .daily 0 = .ok (some r) ∧ r.results.totalCostSavedNgn = nan := by
  obtain ⟨rule, hr⟩ := fuelRule_ok .strict none
  unfold agentPeriodSavings
  rw [hi]
  exact ⟨_, bind_eq_ok.mpr ⟨rule, hs ▸ hr, rfl⟩, (unsettled_nan hr _).1⟩

/-- All ten paths follow the one rule exactly for an owner with a settings row. -/
theorem one_rule_iff (hi : db.inverters inverter.id = some inverter) :
    OneRule order env tza db inverter ↔ (db.settings inverter.userId).isSome := by
  constructor
  · intro h
    cases hs : db.settings inverter.userId with
    | some row => rfl
    | none =>
      obtain ⟨r, hr, hnan⟩ : ∃ r, agentPeriodSavings tza db inverter.id .daily 0 = .ok (some r) ∧ _ :=
        agentPeriod_nan hi hs
      have htotal := (h.agentPeriod _ _ _ hr).1.resultsTotal
      rw [hnan] at htotal
      cases htotal
  · intro hs
    exact rule_of_settings hi hs

end

/-! ## An owner with and without settings -/

/-- Inverter 1 of user 5, read once at 4 kW, before any setting was saved. -/
def victron : Inverter := ⟨1, 5, .victron, true, false, 10, 5⟩

def tables (settings : Option UserSettings) : Tables where
  inverters id := if id = 1 then some victron else none
  settings _ := settings
  metrics := [⟨1, 1, 80, 4, none, none, 1000⟩]
  members := []

theorem one_rule_settled : OneRule Paging.asStored ⟨15, 30⟩ 3600000
    (tables (some ⟨none, none, none, none, none, .diesel, some 5, some 1200⟩)) victron :=
  (one_rule_iff rfl).mpr rfl

theorem dashboard_nan : ¬ ∀ order env tza db inverter, db.inverters inverter.id = some inverter →
    OneRule order env tza db inverter := by
  intro h
  have h := (h Paging.asStored ⟨15, 30⟩ 3600000 (tables none) victron rfl).dashboard 60000 5
  have hr : (getDashboardMetrics Paging.asStored ⟨15, 30⟩ 3600000 (tables none) 60000 1 5).map (·.nairaSavedToday) =
      .ok nan := by decide +kernel
  cases hd : getDashboardMetrics Paging.asStored ⟨15, 30⟩ 3600000 (tables none) 60000 1 5 with
  | error e => rw [hd] at hr; cases hr
  | ok r =>
    rw [hd] at hr
    have hnan : r.nairaSavedToday = nan := Except.ok.inj hr
    have htoday := (h r hd).today
    rw [hnan] at htoday
    cases htoday

end IntellApi.Savings
