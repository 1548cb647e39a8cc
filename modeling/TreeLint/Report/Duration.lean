import TreeLint.Decimal.Places

/-!
# Durations

Durations are counted in nanoseconds. For display one is turned into a double of seconds, and that
into another unit, and written with two places.
-/

namespace TreeLint
namespace Report
namespace Duration

def nanosecondsPerSecond : Nat :=
  1000000000

/-- The whole milliseconds of a duration. -/
def milliseconds (nanoseconds : Nat) : Nat :=
  nanoseconds / 1000000

/-- A duration in seconds: the sum of whole seconds and a fraction. -/
def seconds (nanoseconds : Nat) : Float :=
  (nanoseconds / nanosecondsPerSecond).toUInt64.toFloat +
    (nanoseconds % nanosecondsPerSecond).toUInt64.toFloat /
      nanosecondsPerSecond.toUInt64.toFloat

/-- A double that is not negative, with two places. -/
def twoPlaces (x : Float) : String :=
  String.ofList (Decimal.writePlaces 2 x.toBits.toNat)

/-- A duration in seconds. -/
def secondsText (nanoseconds : Nat) : String :=
  twoPlaces (seconds nanoseconds)

/-- A duration in milliseconds. -/
def millisecondsText (nanoseconds : Nat) : String :=
  twoPlaces (seconds nanoseconds * 1000.0)

/-- A duration in microseconds. -/
def microsecondsText (nanoseconds : Nat) : String :=
  twoPlaces (seconds nanoseconds * 1000000.0)

end Duration
end Report
end TreeLint
