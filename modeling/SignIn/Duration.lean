/-
**Durations.**

A duration is a whole number of microseconds within one thousand million days, less one, on
either side of zero.
-/

import SignIn.Number.Quotient

namespace SignIn

/-- The microseconds of a second. -/
def microsPerSecond : Nat := 1000000

/-- The shortest (most negative) duration, in microseconds: minus 999999999 days. -/
def Duration.minMicros : Int := -86399999913600000000

/-- The longest duration, in microseconds: one microsecond less than 1000000000 days. -/
def Duration.maxMicros : Int := 86399999999999999999

/-- A span of time. -/
structure Duration where
  /-- The span in microseconds. -/
  micros : Int
  min_le : Duration.minMicros ≤ micros
  le_max : micros ≤ Duration.maxMicros
deriving DecidableEq

namespace Duration

/-- The duration of so many microseconds, where it exists. -/
def ofMicros? (micros : Int) : Option Duration :=
  if within : minMicros ≤ micros ∧ micros ≤ maxMicros then some ⟨micros, within.1, within.2⟩
  else none

/-- The duration of so many seconds, where it exists. -/
def ofSeconds? (seconds : Int) : Option Duration :=
  ofMicros? (seconds * microsPerSecond)

/-- One second. -/
def oneSecond : Duration :=
  ⟨1000000, by decide, by decide⟩

/-- The seconds of a duration as a double, without the fraction: the microseconds are divided to
the nearest double first, and that is cut off toward zero. -/
def wholeSeconds (duration : Duration) : Int :=
  let magnitude := (Number.nearestQuotient duration.micros.natAbs microsPerSecond).floor
  if duration.micros < 0 then -(magnitude : Int) else magnitude

end Duration

end SignIn
