import SpatialComputer.Binary64.Rounding
import SpatialComputer.Sampling.Keystream

/-!
# Drawing numbers

A draw takes values from the stream and may fail; what it took before failing stays taken. A uniform draw from a half-open range rounds, so it can land on the excluded end and is then repeated. The stream repeats after `Keystream.period` values, so a draw that finds nothing in as many would never end.
-/

namespace SpatialComputer.Sampling

open Binary64

inductive Fault where
  /-- The range holds no number, or one of its ends is not finite. -/
  | emptyRange
  | unboundedRange
  /-- Every value of the stream lands on the excluded end of the range. -/
  | endlessDraw
  /-- The lattice has more rows and layers than can be counted in 64 bits. -/
  | crowdedLattice
deriving DecidableEq, Repr

abbrev Draw := ExceptT Fault (StateM Keystream)

namespace Draw

def runOn {α : Type} (draw : Draw α) (s : Keystream) : Except Fault α × Keystream :=
  (ExceptT.run draw).run s

end Draw

/-- The number in `[0, 1)` made of the top 52 bits of a value. -/
def unitOf (value : UInt64) : Float :=
  Float.ofBits ((0x3ff0000000000000 : UInt64) ||| (value >>> 12)) - 1

/-- Draws from `[0, 1)`. -/
def unit : Draw Float := do
  let value ← modifyGet Keystream.next
  return unitOf value

/-- Draws `low + u * scale` until it lies below `high`. -/
def below (low high scale : Float) : Nat → Draw Float
  | 0 => throw .endlessDraw
  | attempts + 1 => do
    let result := (← unit) * scale + low
    if result < high then return result else below low high scale attempts

/-- Draws from `[low, high)`. -/
def uniform (low high : Float) : Draw Float := do
  unless low < high && low.isFinite && high.isFinite do throw .emptyRange
  let scale := high - low
  unless scale.isFinite do throw .unboundedRange
  below low high scale Keystream.period

/-- The largest number below one that `unit` draws. -/
def unitMax : Float := Float.ofBits 0x3feffffffffffffe

/-- The largest scale with bits at most `bits` for which the largest draw does not exceed `high`. -/
def fittingScale (low high : Float) : Nat → Float
  | 0 => 0
  | bits + 1 =>
    let scale := Float.ofBits (.ofNat (bits + 1))
    if high < scale * unitMax + low then fittingScale low high bits else scale

/-- Draws from `[low, high]`. -/
def uniformInclusive (low high : Float) : Draw Float := do
  unless low ≤ high && low.isFinite && high.isFinite do throw .emptyRange
  let scale := (high - low) / unitMax
  unless scale.isFinite do throw .unboundedRange
  let scale := fittingScale low high scale.toBits.toNat
  return (← unit) * scale + low

def turn : Float := Float.ofBits 0x401921fb54442d18

/-- Takes an angle in `[0, turn)`. The largest draw stays two units in the last place below a full turn, so no draw is repeated. -/
def angle (s : Keystream) : Float × Keystream :=
  let (value, s) := s.next
  (unitOf value * turn, s)

end SpatialComputer.Sampling
