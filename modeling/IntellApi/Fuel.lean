import IntellApi.Entities
import IntellApi.JsNumber
import Mathlib.Data.List.Sort

/-!
# Fuel prices and consumption

The tables of `data/fuel`. Naira per litre, litres per hour, kilograms of
carbon dioxide per litre.
-/

namespace IntellApi.Fuel

structure FuelPriceEntry where
  fuelType : GeneratorFuelType
  pricePerLitreNaira : ℚ
  updatedAt : Int
  deriving DecidableEq, Repr

def fuelPrices : List FuelPriceEntry := [⟨.pms, 1350, 1780530844618⟩, ⟨.diesel, 1950, 1780530844618⟩]

/-- The entry updated last; the sort is stable. -/
def getLatestFuelPrice (type : GeneratorFuelType) : Except ServiceError FuelPriceEntry :=
  match (fuelPrices.filter (·.fuelType = type)).insertionSort fun a b => b.updatedAt ≤ a.updatedAt with
  | [] => throw (.unprocessable SysMsg.noFuelTypeEntry)
  | entry :: _ => return entry

theorem getLatestFuelPrice_ok (type : GeneratorFuelType) : ∃ entry, getLatestFuelPrice type = .ok entry := by
  cases type
  · exact ⟨_, rfl⟩
  · exact ⟨_, rfl⟩

def co2KgPerLitre : GeneratorFuelType → ℚ
  | .pms => 2.31
  | .diesel => 2.68

structure Bracket where
  maxKw : ℚ
  litresPerHour : ℚ
  deriving DecidableEq, Repr

def pmsConsumptionTable : List Bracket :=
  [⟨1.0, 0.6⟩, ⟨2.0, 0.9⟩, ⟨3.0, 1.3⟩, ⟨5.0, 2.0⟩, ⟨7.5, 2.8⟩, ⟨10.0, 3.5⟩]

def dieselConsumptionTable : List Bracket :=
  [⟨3.0, 0.9⟩, ⟨5.0, 1.4⟩, ⟨7.5, 1.9⟩, ⟨10.0, 2.5⟩, ⟨15.0, 3.5⟩, ⟨20.0, 4.5⟩]

def estimateFuelConsumptionRate (fuelType : GeneratorFuelType) (ratedPowerKw : ℚ) : ℚ :=
  let table := if fuelType = .diesel then dieselConsumptionTable else pmsConsumptionTable
  match table.find? (ratedPowerKw ≤ ·.maxKw) with
  | some bracket => bracket.litresPerHour
  | none => JsNumber.toFixedRat 2 (ratedPowerKw * if fuelType = .diesel then 0.3 else 0.5)

end IntellApi.Fuel
