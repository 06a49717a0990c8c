import IntellApi.Basic
import Mathlib.Data.Rat.Defs

/-! # Rows several modules read -/

namespace IntellApi

inductive InverterBrand
  | victron
  | growatt
  | sunsynk
  | deye
  | sandbox
  deriving DecidableEq, Repr

structure Inverter where
  id : Uuid
  userId : Uuid
  brand : InverterBrand
  isActive : Bool
  isOffline : Bool
  ratedCapacityKwh : ℚ
  panelCapacityKw : ℚ
  deriving DecidableEq, Repr

inductive GeneratorFuelType
  | diesel
  | pms
  deriving DecidableEq, Repr

structure UserSettings where
  quietHoursStart : Option String
  quietHoursEnd : Option String
  timezone : Option String
  alertCooldownMinutes : Option Int
  depletionThreshold : Option Int
  generatorFuelType : GeneratorFuelType
  generatorRatedPowerKw : Option ℚ
  customFuelPriceNaira : Option ℚ
  deriving DecidableEq, Repr

inductive InverterRole
  | owner
  | admin
  | technician
  | viewer
  deriving DecidableEq, Repr

inductive InverterMemberStatus
  | invited
  | active
  | deactivated
  deriving DecidableEq, Repr

def inverterRoleRank : InverterRole → Nat
  | .owner => 4
  | .admin => 3
  | .technician => 2
  | .viewer => 1

/-- A `citext` value: the spellings of one address that differ in case are one value. -/
abbrev Email := String

structure InverterMember where
  inverterId : Uuid
  userId : Option Uuid
  email : Email
  role : InverterRole
  status : InverterMemberStatus
  invitedById : Option Uuid
  inviteToken : Uuid
  inviteTokenExpiresAt : Option Int
  deriving DecidableEq, Repr

end IntellApi
