import IntellApi.SavingsAgreement

/-!
# Four copies of one computation

The savings of a period and of a lifetime are written out twice each, with their
own queries, sums and roundings: once for the chatbot and once for the pages.
The bodies are taken over as they stand. Each is the rule that the other results
are about, and so the two copies give the same.
-/

namespace IntellApi.SavingsCopies

open Calendar Fuel JsNumber Metrics Reports Savings

/-- `Number` of a column that is undefined without a row and may be null. -/
def number : Option (Option ℚ) → JsNumber
  | none => nan
  | some none => 0
  | some (some q) => num q

section
variable (order : Paging.Order InverterMember) (tza : Int) (db : Tables)

/-! ## Periods -/

/-- `_getPeriodSavingsInternal` -/
def getPeriodSavingsInternal (inverterId : Uuid) (period : Period) (date : Int) :
    Except ServiceError (Option AgentPeriodSavings) :=
  match db.inverters inverterId with
  | none => return none
  | some inverter => do
    let settings := db.settings inverter.userId
    let pollIntervalMinutes := getPollingInterval inverter.brand
    let fuelType := (settings.map (·.generatorFuelType)).getD .pms
    let ratedPowerKw := (settings.bind (·.generatorRatedPowerKw)).getD 2.5
    let fuelEntry ← getLatestFuelPrice fuelType
    let hasCustomFuelPrice := (settings.bind (·.customFuelPriceNaira)).isSome
    let fuelPricePerLitreNaira :=
      if settings.map (·.customFuelPriceNaira) ≠ some none then number (settings.map (·.customFuelPriceNaira))
      else num fuelEntry.pricePerLitreNaira
    let consumptionRateLPerHr := estimateFuelConsumptionRate fuelType ratedPowerKw
    let co2Factor := co2KgPerLitre fuelType
    let (rangeStart, rangeEnd) := getPeriodRange tza period date
    let breakdownRows : List SavingsRow :=
      (Sql.groupBy (fun m => (chartGroup period).bucket m.metricTimestamp)
        (db.metrics.filter fun m => m.inverterId = inverterId &&
          (rangeStart * 1000 ≤ m.metricTimestamp && m.metricTimestamp < rangeEnd * 1000))).map fun g =>
        { bucket := g.1
          energyKwh := (Sql.sum (·.loadKw) g.2).getD 0 *
            (Sql.Number.div (.numeric pollIntervalMinutes) (.integer basePoints)).toRat
          solarKwh := (Sql.sum (·.solarGenKw) g.2).getD 0 *
            (Sql.Number.div (.numeric pollIntervalMinutes) (.integer basePoints)).toRat
          activeHours := Sql.countDistinct g.2 fun m => Granularity.hour.bucket m.metricTimestamp }
    let totalEnergyKwh := breakdownRows.foldl (fun s r => s + r.energyKwh) 0
    let totalSolarKwh := breakdownRows.foldl (fun s r => s + r.solarKwh) 0
    let totalActiveHours := breakdownRows.foldl (fun s r => s + r.activeHours) 0
    let fuelSavedLitres := if ratedPowerKw > 0 then totalEnergyKwh / ratedPowerKw * consumptionRateLPerHr else 0
    let generatorCostAvoidedNgn := num fuelSavedLitres * fuelPricePerLitreNaira
    let co2AvoidedKg := fuelSavedLitres * co2Factor
    let solarCoveragePercent :=
      if totalEnergyKwh > 0 then some (toFixedRat 1 (min (totalSolarKwh / totalEnergyKwh * 100) 100)) else none
    let daysWithData := orOne (breakdownRows.filter fun r => r.energyKwh > 0).length
    let breakdown := breakdownRows.map fun r =>
      let e := r.energyKwh
      let dayFuel := if ratedPowerKw > 0 then e / ratedPowerKw * consumptionRateLPerHr else 0
      { bucket := r.bucket
        activeHours := r.activeHours
        energyKwh := toFixedRat 3 e
        solarKwh := toFixedRat 3 r.solarKwh
        generatorCostSavedNgn := (num dayFuel * fuelPricePerLitreNaira).toFixed 2
        fuelSavedLitres := toFixedRat 3 dayFuel : Breakdown }
    return some {
      period
      results :=
        { totalCostSavedNgn := generatorCostAvoidedNgn.toFixed 2
          fuelSavedLitres := toFixedRat 3 fuelSavedLitres
          co2AvoidedKg := toFixedRat 3 co2AvoidedKg
          breakdown }
      summary :=
        { totalCostSavedNgn := generatorCostAvoidedNgn.toFixed 2
          averageCostSavedNgn := (generatorCostAvoidedNgn / num daysWithData).toFixed 2
          totalEnergyConsumedKwh := toFixedRat 3 totalEnergyKwh
          totalEnergyGeneratedKwh := toFixedRat 3 totalSolarKwh
          solarCoveragePercent
          totalActiveHours }
      info :=
        { fuelType
          fuelPricePerLitreNgn := fuelPricePerLitreNaira
          fuelPriceLastUpdated := if !hasCustomFuelPrice then some fuelEntry.updatedAt else none
          assumedGeneratorRatedPowerKw := ratedPowerKw
          assumedConsumptionRateLPerHr := consumptionRateLPerHr } }

def getPeriodSavings (inverterId userId : Uuid) (period : Period) (date : Int) : Except ServiceError PeriodSavings := do
  let inverter ← InverterAccess.findOne db.inverters inverterId
  InverterAccess.validateRequestingUser order db.members inverter userId
  let settings := db.settings inverter.userId
  let pollIntervalMinutes := getPollingInterval inverter.brand
  let fuelType := (settings.map (·.generatorFuelType)).getD .pms
  let ratedPowerKw := (settings.bind (·.generatorRatedPowerKw)).getD 2.5
  let fuelEntry ← getLatestFuelPrice fuelType
  let hasCustomFuelPrice := (settings.bind (·.customFuelPriceNaira)).isSome
  let fuelPricePerLitreNaira :=
    if settings.map (·.customFuelPriceNaira) ≠ some none then number (settings.map (·.customFuelPriceNaira))
    else num fuelEntry.pricePerLitreNaira
  let consumptionRateLPerHr := estimateFuelConsumptionRate fuelType ratedPowerKw
  let co2Factor := co2KgPerLitre fuelType
  let (rangeStart, rangeEnd) := getPeriodRange tza period date
  let breakdownRows : List SavingsRow :=
    (Sql.groupBy (fun m => (chartGroup period).bucket m.metricTimestamp)
      (db.metrics.filter fun m => m.inverterId = inverterId &&
        (rangeStart * 1000 ≤ m.metricTimestamp && m.metricTimestamp < rangeEnd * 1000))).map fun g =>
      { bucket := g.1
        energyKwh := (Sql.sum (·.loadKw) g.2).getD 0 *
          (Sql.Number.div (.numeric pollIntervalMinutes) (.integer basePoints)).toRat
        solarKwh := (Sql.sum (·.solarGenKw) g.2).getD 0 *
          (Sql.Number.div (.numeric pollIntervalMinutes) (.integer basePoints)).toRat
        activeHours := Sql.countDistinct g.2 fun m => Granularity.hour.bucket m.metricTimestamp }
  let totalEnergyConsumedKwh := breakdownRows.foldl (fun sum r => sum + r.energyKwh) 0
  let totalSolarGeneratedKwh := breakdownRows.foldl (fun sum r => sum + r.solarKwh) 0
  let solarCoveragePercent :=
    if totalEnergyConsumedKwh > 0 then
      some (toFixedRat 1 (min (totalSolarGeneratedKwh / totalEnergyConsumedKwh * 100) 100))
    else none
  let totalActiveHours := breakdownRows.foldl (fun sum r => sum + r.activeHours) 0
  let fuelSavedLitres := if ratedPowerKw > 0 then totalEnergyConsumedKwh / ratedPowerKw * consumptionRateLPerHr else 0
  let generatorCostAvoidedNgn := num fuelSavedLitres * fuelPricePerLitreNaira
  let co2AvoidedKg := fuelSavedLitres * co2Factor
  let daysWithData := orOne (breakdownRows.filter fun r => r.energyKwh > 0).length
  let breakdown := breakdownRows.map fun r =>
    let dayEnergyKwh := r.energyKwh
    let dayFuelSaved := if ratedPowerKw > 0 then dayEnergyKwh / ratedPowerKw * consumptionRateLPerHr else 0
    { bucket := r.bucket
      activeHours := r.activeHours
      energyKwh := toFixedRat 3 dayEnergyKwh
      solarKwh := toFixedRat 3 r.solarKwh
      generatorCostSavedNgn := (num dayFuelSaved * fuelPricePerLitreNaira).toFixed 2
      fuelSavedLitres := toFixedRat 3 dayFuelSaved : Breakdown }
  return {
    period
    date := day date
    results :=
      { totalCostSavedNgn := generatorCostAvoidedNgn.toFixed 2
        generatorCostAvoidedNgn := generatorCostAvoidedNgn.toFixed 2
        fuelSavedLitres := toFixedRat 3 fuelSavedLitres
        co2AvoidedKg := toFixedRat 3 co2AvoidedKg
        breakdown }
    summary :=
      { totalCostSavedNgn := generatorCostAvoidedNgn.toFixed 2
        averageCostSavedNgn := (generatorCostAvoidedNgn / num daysWithData).toFixed 2
        totalEnergyConsumedKwh := toFixedRat 3 totalEnergyConsumedKwh
        totalEnergyGeneratedKwh := toFixedRat 3 totalSolarGeneratedKwh
        solarCoveragePercent
        totalActiveHours }
    chart := breakdown.map fun b => (b.bucket, b.generatorCostSavedNgn)
    info :=
      { fuelType
        fuelPricePerLitreNgn := fuelPricePerLitreNaira
        fuelPriceLastUpdated := if !hasCustomFuelPrice then some fuelEntry.updatedAt else none
        assumedGeneratorRatedPowerKw := ratedPowerKw
        assumedConsumptionRateLPerHr := consumptionRateLPerHr } }

/-! ## Lifetimes -/

/-- `_getCumulativeSavingsInternal` -/
def getCumulativeSavingsInternal (inverterId : Uuid) : Except ServiceError (Option CumulativeSavings) :=
  match db.inverters inverterId with
  | none => return none
  | some inverter => do
    let settings := db.settings inverter.userId
    let pollIntervalMinutes := getPollingInterval inverter.brand
    let fuelType := (settings.map (·.generatorFuelType)).getD .pms
    let ratedPowerKw := (settings.bind (·.generatorRatedPowerKw)).getD 2.5
    let fuelEntry ← getLatestFuelPrice fuelType
    let hasCustomFuelPrice := (settings.bind (·.customFuelPriceNaira)).isSome
    let fuelPricePerLitreNaira :=
      if settings.map (·.customFuelPriceNaira) ≠ some none then number (settings.map (·.customFuelPriceNaira))
      else num fuelEntry.pricePerLitreNaira
    let consumptionRateLPerHr := estimateFuelConsumptionRate fuelType ratedPowerKw
    let co2Factor := co2KgPerLitre fuelType
    let monthlyRows : List MonthRow :=
      (Sql.groupBy (fun m => Granularity.month.bucket m.metricTimestamp)
        (db.metrics.filter fun m => m.inverterId = inverterId)).map fun g =>
        { month := g.1
          energyKwh := (Sql.sum (·.loadKw) g.2).getD 0 *
            (Sql.Number.div (.numeric pollIntervalMinutes) (.integer basePoints)).toRat
          solarKwh := (Sql.sum (·.solarGenKw) g.2).getD 0 *
            (Sql.Number.div (.numeric pollIntervalMinutes) (.integer basePoints)).toRat }
    let monthlyData := monthlyRows.map fun r =>
      let energyKwh := r.energyKwh
      let solarKwh := r.solarKwh
      let fuelSaved := if ratedPowerKw > 0 then energyKwh / ratedPowerKw * consumptionRateLPerHr else 0
      { month := r.month
        energyKwh := toFixedRat 3 energyKwh
        solarKwh := toFixedRat 3 solarKwh
        fuelSavedLitres := toFixedRat 3 fuelSaved
        savingsNgn := (num fuelSaved * fuelPricePerLitreNaira).toFixed 2 : MonthSavings }
    let lifetimeEnergyKwh := monthlyData.foldl (fun s r => s + r.energyKwh) 0
    let lifetimeSolarKwh := monthlyData.foldl (fun s r => s + r.solarKwh) 0
    let lifetimeFuelSavedLitres := monthlyData.foldl (fun s r => s + r.fuelSavedLitres) 0
    let lifetimeSavingsNgn : JsNumber := monthlyData.foldl (fun s r => s + r.savingsNgn) 0
    let lifetimeCo2AvoidedKg := lifetimeFuelSavedLitres * co2Factor
    let generatorHoursAvoided := if ratedPowerKw > 0 then toFixedRat 1 (lifetimeEnergyKwh / ratedPowerKw) else 0
    let monthsActive := orOne monthlyData.length
    let averageMonthlySavingsNgn := (lifetimeSavingsNgn / num monthsActive).toFixed 2
    return some {
      lifetimeSavingsNgn := lifetimeSavingsNgn.toFixed 2
      lifetimeEnergyConsumedKwh := toFixedRat 3 lifetimeEnergyKwh
      lifetimeEnergyGeneratedKwh := toFixedRat 3 lifetimeSolarKwh
      lifetimeFuelSavedLitres := toFixedRat 3 lifetimeFuelSavedLitres
      co2AvoidedKg := toFixedRat 3 lifetimeCo2AvoidedKg
      generatorHoursAvoided
      totalSavingsToDateNgn := lifetimeSavingsNgn.toFixed 2
      averageMonthlySavingsNgn
      chart := monthlyData.map fun m => (m.month, m.savingsNgn)
      info :=
        { fuelType
          fuelPricePerLitreNgn := fuelPricePerLitreNaira
          fuelPriceLastUpdated := if !hasCustomFuelPrice then some fuelEntry.updatedAt else none
          assumedGeneratorRatedPowerKw := ratedPowerKw
          assumedConsumptionRateLPerHr := consumptionRateLPerHr } }

def getCumulativeSavings (inverterId userId : Uuid) : Except ServiceError CumulativeSavings := do
  let inverter ← InverterAccess.findOne db.inverters inverterId
  InverterAccess.validateRequestingUser order db.members inverter userId
  let settings := db.settings inverter.userId
  let pollIntervalMinutes := getPollingInterval inverter.brand
  let fuelType := (settings.map (·.generatorFuelType)).getD .pms
  let ratedPowerKw := (settings.bind (·.generatorRatedPowerKw)).getD 2.5
  let fuelEntry ← getLatestFuelPrice fuelType
  let hasCustomFuelPrice := (settings.bind (·.customFuelPriceNaira)).isSome
  let fuelPricePerLitreNaira :=
    if settings.map (·.customFuelPriceNaira) ≠ some none then number (settings.map (·.customFuelPriceNaira))
    else num fuelEntry.pricePerLitreNaira
  let consumptionRateLPerHr := estimateFuelConsumptionRate fuelType ratedPowerKw
  let co2Factor := co2KgPerLitre fuelType
  let monthlyRows : List MonthRow :=
    (Sql.groupBy (fun m => Granularity.month.bucket m.metricTimestamp)
      (db.metrics.filter fun m => m.inverterId = inverterId)).map fun g =>
      { month := g.1
        energyKwh := (Sql.sum (·.loadKw) g.2).getD 0 *
          (Sql.Number.div (.numeric pollIntervalMinutes) (.integer basePoints)).toRat
        solarKwh := (Sql.sum (·.solarGenKw) g.2).getD 0 *
          (Sql.Number.div (.numeric pollIntervalMinutes) (.integer basePoints)).toRat }
  let monthlyData := monthlyRows.map fun r =>
    let energyKwh := r.energyKwh
    let solarKwh := r.solarKwh
    let fuelSaved := if ratedPowerKw > 0 then energyKwh / ratedPowerKw * consumptionRateLPerHr else 0
    { month := r.month
      energyKwh := toFixedRat 3 energyKwh
      solarKwh := toFixedRat 3 solarKwh
      fuelSavedLitres := toFixedRat 3 fuelSaved
      savingsNgn := (num fuelSaved * fuelPricePerLitreNaira).toFixed 2 : MonthSavings }
  let lifetimeEnergyKwh := monthlyData.foldl (fun s r => s + r.energyKwh) 0
  let lifetimeSolarKwh := monthlyData.foldl (fun s r => s + r.solarKwh) 0
  let lifetimeFuelSavedLitres := monthlyData.foldl (fun s r => s + r.fuelSavedLitres) 0
  let lifetimeSavingsNgn : JsNumber := monthlyData.foldl (fun s r => s + r.savingsNgn) 0
  let lifetimeCo2AvoidedKg := lifetimeFuelSavedLitres * co2Factor
  let generatorHoursAvoided := if ratedPowerKw > 0 then toFixedRat 1 (lifetimeEnergyKwh / ratedPowerKw) else 0
  let monthsActive := orOne monthlyData.length
  let averageMonthlySavingsNgn := (lifetimeSavingsNgn / num monthsActive).toFixed 2
  return {
    lifetimeSavingsNgn := lifetimeSavingsNgn.toFixed 2
    lifetimeEnergyConsumedKwh := toFixedRat 3 lifetimeEnergyKwh
    lifetimeEnergyGeneratedKwh := toFixedRat 3 lifetimeSolarKwh
    lifetimeFuelSavedLitres := toFixedRat 3 lifetimeFuelSavedLitres
    co2AvoidedKg := toFixedRat 3 lifetimeCo2AvoidedKg
    generatorHoursAvoided
    totalSavingsToDateNgn := lifetimeSavingsNgn.toFixed 2
    averageMonthlySavingsNgn
    chart := monthlyData.map fun m => (m.month, m.savingsNgn)
    info :=
      { fuelType
        fuelPricePerLitreNgn := fuelPricePerLitreNaira
        fuelPriceLastUpdated := if !hasCustomFuelPrice then some fuelEntry.updatedAt else none
        assumedGeneratorRatedPowerKw := ratedPowerKw
        assumedConsumptionRateLPerHr := consumptionRateLPerHr } }

end

/-! ## Each copy is the rule -/

theorem foldl_add {α M : Type*} [AddCommMonoid M] (f : α → M) (l : List α) :
    l.foldl (fun s a => s + f a) 0 = (l.map f).sum := by
  rw [← List.foldl_map (f := f), List.sum_eq_foldl]

theorem foldl_addAll {α : Type*} (f : α → JsNumber) (l : List α) : l.foldl (fun s a => s + f a) 0 = addAll (l.map f) := by
  rw [addAll, List.foldl_map]

/-- `Number(undefined)`, where there is no row. -/
theorem price_eq (settings : Option UserSettings) (fuelEntry : FuelPriceEntry) :
    (if settings.map (·.customFuelPriceNaira) ≠ some none then number (settings.map (·.customFuelPriceNaira))
      else num fuelEntry.pricePerLitreNaira) = NullTest.strict.price settings fuelEntry := by
  cases settings with
  | none => rfl
  | some row =>
    cases hc : row.customFuelPriceNaira with
    | none => simp [NullTest.price, hc]
    | some price => simp [NullTest.price, number, hc]

theorem lastUpdated_eq {α : Type*} (b : Bool) (x : α) : (if !b then some x else none) = if b then none else some x := by
  cases b <;> rfl

theorem fuelRule_bind {β : Type} (settings : Option UserSettings) (f : FuelRule → Except ServiceError β) :
    fuelRule .strict settings >>= f = getLatestFuelPrice (fuelTypeOf settings) >>= fun fuelEntry =>
      f { fuelType := fuelTypeOf settings
          ratedPowerKw := ratedPowerOf settings
          fuelEntry
          hasCustomFuelPrice := (settings.bind (·.customFuelPriceNaira)).isSome
          fuelPricePerLitreNaira := NullTest.strict.price settings fuelEntry
          consumptionRateLPerHr := estimateFuelConsumptionRate (fuelTypeOf settings) (ratedPowerOf settings)
          co2Factor := co2KgPerLitre (fuelTypeOf settings) } := by
  dsimp only [fuelRule]
  cases getLatestFuelPrice (fuelTypeOf settings) <;> rfl

section
variable {order : Paging.Order InverterMember} {tza : Int} {db : Tables} {inverterId userId : Uuid} {inverter : Inverter}

theorem getPeriodSavingsInternal_eq (period : Period) (date : Int) :
    getPeriodSavingsInternal tza db inverterId period date = agentPeriodSavings tza db inverterId period date := by
  unfold getPeriodSavingsInternal agentPeriodSavings
  cases db.inverters inverterId with
  | none => rfl
  | some inverter =>
    simp only [foldl_add, price_eq, lastUpdated_eq, fuelRule_bind]
    rfl

theorem getPeriodSavings_eq (period : Period) (date : Int) :
    getPeriodSavings order tza db inverterId userId period date =
      Savings.getPeriodSavings order tza db inverterId userId period date := by
  unfold getPeriodSavings Savings.getPeriodSavings Tables.authorize
  simp only [foldl_add, price_eq, lastUpdated_eq, fuelRule_bind, bind_assoc, pure_bind]
  rfl

theorem getCumulativeSavingsInternal_eq :
    getCumulativeSavingsInternal db inverterId = agentCumulativeSavings db inverterId := by
  unfold getCumulativeSavingsInternal agentCumulativeSavings Tables.monthRows readings
  cases db.inverters inverterId with
  | none => rfl
  | some inverter =>
    simp only [foldl_addAll, foldl_add, price_eq, lastUpdated_eq, fuelRule_bind, Bool.and_true]
    rfl

theorem getCumulativeSavings_eq :
    getCumulativeSavings order db inverterId userId = Savings.getCumulativeSavings order db inverterId userId := by
  unfold getCumulativeSavings Savings.getCumulativeSavings Tables.authorize Tables.monthRows readings
  simp only [foldl_addAll, foldl_add, price_eq, lastUpdated_eq, fuelRule_bind, bind_assoc, pure_bind, Bool.and_true]
  rfl

/-! ## The copies agree -/

/-- For whoever may open the pages, the agent computes what they show. -/
theorem agent_eq_http (h : db.authorize order inverterId userId = .ok inverter) :
    (∀ period date, getPeriodSavingsInternal tza db inverterId period date =
      (getPeriodSavings order tza db inverterId userId period date).map fun r => some r.shared) ∧
    getCumulativeSavingsInternal db inverterId = (getCumulativeSavings order db inverterId userId).map some := by
  constructor
  · intro period date
    rw [getPeriodSavingsInternal_eq, getPeriodSavings_eq]
    exact agentPeriodSavings_eq h period date
  · rw [getCumulativeSavingsInternal_eq, getCumulativeSavings_eq]
    exact agentCumulativeSavings_eq h

theorem victron_agrees :
    (∀ period date, getPeriodSavingsInternal 3600000 (tables none) 1 period date =
      (getPeriodSavings Paging.asStored 3600000 (tables none) 1 5 period date).map fun r => some r.shared) ∧
    getCumulativeSavingsInternal (tables none) 1 = (getCumulativeSavings Paging.asStored (tables none) 1 5).map some :=
  agent_eq_http (show (tables none).authorize Paging.asStored 1 5 = .ok victron from rfl)

end

end IntellApi.SavingsCopies
