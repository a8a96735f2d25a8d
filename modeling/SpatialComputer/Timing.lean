import SpatialComputer.Sampling.Draw
import SpatialComputer.Settings.Rejection

/-!
# Timers

Every device has a timer for transmitting and one for computing, resolved once from the configured policies. A phase is due when the clock has reached the device's next time for it; after the phase has run, the timer is asked again at the current clock, so devices drift apart whatever the step size is.
-/

namespace SpatialComputer

open Binary64 Sampling

inductive TimerPolicy where
  | fixed (period : Float)
  /-- Every device draws its own period, at most `variance` away from `period` and at least zero. -/
  | jittered (period variance : Float)
deriving DecidableEq

inductive Timer where
  | interval (period : Float)
  | custom (next : Float → Float)

namespace TimerPolicy

def nominalPeriod : TimerPolicy → Float
  | fixed period => period
  | jittered period _ => period

def spread : TimerPolicy → Float
  | fixed _ => 0
  | jittered _ variance => variance

/-- Checks period and variance; `phase` names the timer in the rejection. -/
def validate (phase : String) (policy : TimerPolicy) : Except Rejection Unit := do
  let period := policy.nominalPeriod
  let variance := policy.spread
  require (period.isFinite && !decide (period < 0)) (.timerPeriod phase period)
  require (variance.isFinite && !decide (variance < 0)) (.timerVariance phase variance)
  require (period + variance).isFinite (.timerRange phase period variance)

/-- Chooses the timer of one device. Nothing is drawn when there is no jitter. -/
def resolve : TimerPolicy → Draw Timer
  | fixed period => return .interval period
  | jittered period variance =>
    if variance == 0 then return .interval period
    else return .interval (maxNum (← uniformInclusive (period - variance) (period + variance)) 0)

end TimerPolicy

namespace Timer

/-- The due time after a run at `now`. A timer that yields no finite time from `now` on makes the phase due again at once. -/
def next (timer : Timer) (now : Float) : Float :=
  let time := match timer with
    | interval period => now + period
    | custom f => f now
  if time.isFinite && decide (now ≤ time) then time else now

def period : Timer → Option Float
  | interval period => some period
  | custom _ => none

end Timer

structure Schedule where
  transmit : Timer := .interval 0.5
  compute : Timer := .interval 1

end SpatialComputer
