import ImportCensus.Number.Decimal

namespace ImportCensus
namespace Report

/-!
# Elapsed times

A time is told in seconds, milliseconds or microseconds with two places.  The
magnitude of the time itself picks the unit, before anything is rounded.
-/

inductive TimeUnit where
  | second
  | millisecond
  | microsecond
  deriving DecidableEq, Repr

namespace TimeUnit

/-- How many of a unit make a second. -/
def perSecond : TimeUnit -> Nat
  | .second => 1
  | .millisecond => 1000
  | .microsecond => 1000000

def symbol : TimeUnit -> String
  | .second => "s"
  | .millisecond => "ms"
  | .microsecond => "µs"

/-- The unit in which so many seconds are told. -/
def ofSeconds (seconds : Number.Binary64) : TimeUnit :=
  if seconds.atLeast ⟨false, 1, 1⟩ then .second
  else if seconds.atLeast ⟨false, 1, 1000⟩ then .millisecond
  else .microsecond

end TimeUnit

/-- A number of seconds in the unit of its magnitude. -/
def elapsedText (seconds : Number.Binary64) : String :=
  let unit := TimeUnit.ofSeconds seconds
  Number.fixedText 2 (seconds.mulNat unit.perSecond) ++ unit.symbol

end Report
end ImportCensus
