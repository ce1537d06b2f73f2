import Irrigation.Timers.Basic

/-!
# Units and zones

A bus joins up to 254 units, and a unit switches eight zones.

* `UnitId`, `Zone`: the number of a unit (1 to 254) and of a zone of it (1 to 8), each one byte.
  `UnitId.ofInt?` and `Zone.ofInt?` accept an integer exactly if it is in range.
* `ZoneMask`: which zones of a unit are on, one bit per zone.
* `TimerList.get`, `TimerList.entries`: the run time of a zone, and of all zones in order.
-/

namespace Irrigation

/-- The number of a unit on the bus. -/
structure UnitId where
  byte : UInt8
  one_le : 1 ≤ byte.toNat
  le_max : byte.toNat ≤ 254
  deriving Repr, DecidableEq

/-- The number of a zone of a unit. -/
structure Zone where
  byte : UInt8
  one_le : 1 ≤ byte.toNat
  le_max : byte.toNat ≤ 8
  deriving Repr, DecidableEq

namespace UnitId

/-- The unit of a number from 1 to 254. -/
def ofInt? (i : Int) : Option UnitId :=
  if h : 1 ≤ i ∧ i ≤ 254 then
    some ⟨UInt8.ofNat i.toNat, by simp [UInt8.toNat_ofNat']; omega,
      by simp [UInt8.toNat_ofNat']; omega⟩
  else none

/-- The number of the unit in decimal. -/
def render (unit : UnitId) : String := decimal unit.byte.toNat

end UnitId

namespace Zone

/-- The zone of a number from 1 to 8. -/
def ofInt? (i : Int) : Option Zone :=
  if h : 1 ≤ i ∧ i ≤ 8 then
    some ⟨UInt8.ofNat i.toNat, by simp [UInt8.toNat_ofNat']; omega,
      by simp [UInt8.toNat_ofNat']; omega⟩
  else none

/-- The place of the zone in a row of eight, counted from 0. -/
def index (zone : Zone) : Nat := zone.byte.toNat - 1

theorem index_lt (zone : Zone) : zone.index < 8 := by
  have := zone.le_max
  have := zone.one_le
  unfold index
  omega

/-- The zone at a place in a row of eight. -/
def ofIndex (i : Fin 8) : Zone :=
  ⟨UInt8.ofNat (i + 1), by simp [UInt8.toNat_ofNat']; omega, by simp [UInt8.toNat_ofNat']; omega⟩

/-- All zones in ascending order. -/
def all : List Zone := List.ofFn ofIndex

/-- The number of the zone in decimal. -/
def render (zone : Zone) : String := decimal zone.byte.toNat

end Zone

/-- Which zones of a unit are on. Zone 1 has the lowest bit. -/
structure ZoneMask where
  bits : UInt8
  deriving Repr, DecidableEq

namespace ZoneMask

/-- Whether the bit of the zone is set. -/
def isOn (mask : ZoneMask) (zone : Zone) : Bool := mask.bits.toNat.testBit zone.index

/-- All eight bits, the highest zone first. -/
def render (mask : ZoneMask) : String :=
  String.ofList ('0' :: 'b' :: fixedNumeral 2 8 mask.bits.toNat)

end ZoneMask

namespace TimerList

/-- The run time of a zone. -/
def get (timers : TimerList) (zone : Zone) : UInt8 := timers.values.get ⟨zone.index, zone.index_lt⟩

/-- The run times with their zones, in zone order. -/
def entries (timers : TimerList) : List (Zone × UInt8) := Zone.all.zip timers.toList

end TimerList

end Irrigation
