import SpatialComputer.Geometry.Volume

/-!
# Rejections

Why a configuration cannot be used, one constructor per cause, and the sentence that reports it. Causes that concern the placement of devices are kept apart from the others, since they are reported as invalid distributions.
-/

namespace SpatialComputer

open Binary64

inductive DistributionError where
  | boundsNotFinite
  | extentOverflows (extent : Vec3)
  | extentNotPositive (extent : Vec3)
  | flatCylinder
  | pointNotFinite (index : Nat) (point : Vec3)
  | tooFewPoints (listed population : Nat)
  | placedNotFinite (index : Nat) (position : Vec3)
deriving DecidableEq

inductive SettingError where
  | stepSize (value : Float)
  | startTime (value : Float)
  | stopAtNotANumber
  | noLogInterval
  | noPopulation
  | radius (value : Float)
  | timerPeriod (phase : String) (period : Float)
  | timerVariance (phase : String) (variance : Float)
  | timerRange (phase : String) (period variance : Float)
  | speedLimit (value : Float)
  | cloneOffset (value : Float)
  | cloneDelay (value : Float)
  | populationLimit (limit size : Nat)
  | cellSize (value : Float)
deriving DecidableEq

inductive Rejection where
  | setting (cause : SettingError)
  | distribution (cause : DistributionError)
deriving DecidableEq

def numberText (x : Float) : String := Layout.message.text x

def extentText (extent : Vec3) : String :=
  numberText extent.x ++ "x" ++ numberText extent.y ++ "x" ++ numberText extent.z

def DistributionError.message : DistributionError → String
  | .boundsNotFinite => "volume bounds must be finite"
  | .extentOverflows extent => "volume extent overflows: " ++ extentText extent
  | .extentNotPositive extent =>
    "volume must have positive width and height and non-negative depth, got " ++ extentText extent
  | .flatCylinder => "cylinder distribution needs a volume with positive depth"
  | .pointNotFinite index point =>
    "point " ++ toString index ++ " is not finite: " ++ point.literal
  | .tooFewPoints listed population =>
    "explicit distribution lists " ++ toString listed ++ " points for a population of " ++
      toString population
  | .placedNotFinite index position =>
    "device " ++ toString index ++ " placed at non-finite position " ++ position.literal

def SettingError.message : SettingError → String
  | .stepSize value => "step_size must be finite and positive, got " ++ numberText value
  | .startTime value => "start_time must be finite and non-negative, got " ++ numberText value
  | .stopAtNotANumber => "stop_at must not be NaN"
  | .noLogInterval => "log_interval must be positive"
  | .noPopulation => "population size must be positive"
  | .radius value => "radius must be finite and positive, got " ++ numberText value
  | .timerPeriod phase period =>
    phase ++ " period must be finite and non-negative, got " ++ numberText period
  | .timerVariance phase variance =>
    phase ++ " variance must be finite and non-negative, got " ++ numberText variance
  | .timerRange phase period variance =>
    phase ++ " period range " ++ numberText period ++ " +/- " ++ numberText variance ++ " overflows"
  | .speedLimit value => "speed_limit must be finite and non-negative, got " ++ numberText value
  | .cloneOffset value => "clone_offset must be finite and non-negative, got " ++ numberText value
  | .cloneDelay value => "clone_delay must be finite and non-negative, got " ++ numberText value
  | .populationLimit limit size =>
    "max_population (" ++ toString limit ++ ") is below the initial population (" ++
      toString size ++ ")"
  | .cellSize value => "cell_size must be finite and positive, got " ++ numberText value

def Rejection.message : Rejection → String
  | .setting cause => "Invalid configuration: " ++ cause.message
  | .distribution cause => "Invalid distribution: " ++ cause.message

/-- Fails with a setting's rejection unless the condition holds. -/
def require (condition : Bool) (cause : SettingError) : Except Rejection Unit :=
  if condition then .ok () else .error (.setting cause)

def isFinitePositive (x : Float) : Bool := x.isFinite && decide (0 < x)

/-- Whether a number is finite and not below zero. -/
def isFiniteNonnegative (x : Float) : Bool := x.isFinite && decide (0 ≤ x)

end SpatialComputer
