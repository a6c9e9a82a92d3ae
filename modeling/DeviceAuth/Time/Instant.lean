/-!
**Points in time, and spans of it.** A duration is a whole number of nanoseconds, of either sign, of
which the milliseconds fit a signed word of 64 bits. An instant is a count of seconds since the
beginning of 1970 and of nanoseconds within the second. Nanoseconds from `10^9` on belong to a leap
second, which has no count of its own and stands after the last second of a minute. The years reach
from -262143 to 262142.

Main statements: instants are ordered by second, then by nanosecond (`le_iff`); an instant that is
no leap second moves by exactly the duration added to it (`unixNanos_add?`).
-/

namespace DeviceAuth

/-! ### Durations -/

/-- Nanoseconds in a second. -/
def nanosPerSecond : Nat := 1000000000

/-- The longest duration, in nanoseconds. -/
def Duration.maxNanos : Int := 9223372036854775807000000

/-- A span of time of either sign. -/
structure Duration where
  /-- Its length in nanoseconds. -/
  nanos : Int
  nanos_ge : -Duration.maxNanos ≤ nanos
  nanos_le : nanos ≤ Duration.maxNanos
  deriving DecidableEq, Repr

namespace Duration

/-- The duration of so many nanoseconds, if there is one. -/
def ofNanos? (nanos : Int) : Option Duration :=
  if bounds : -maxNanos ≤ nanos ∧ nanos ≤ maxNanos then some ⟨nanos, bounds.1, bounds.2⟩ else none

/-- The duration of so many seconds, if there is one. -/
def ofSeconds? (seconds : Int) : Option Duration :=
  ofNanos? (seconds * nanosPerSecond)

/-- Durations of whole seconds exist up to `9223372036854775` seconds in either direction. -/
theorem ofSeconds?_isSome_iff (seconds : Int) :
    (ofSeconds? seconds).isSome ↔ -9223372036854775 ≤ seconds ∧ seconds ≤ 9223372036854775 := by
  unfold ofSeconds? ofNanos? maxNanos nanosPerSecond
  split <;> simp_all <;> omega

end Duration

/-! ### Instants -/

/-- The first second of the year -262143. -/
def earliestSecond : Int := -8334601228800

/-- The last second of the year 262142. -/
def latestSecond : Int := 8210266876799

/-- A point in time. -/
structure Instant where
  /-- Whole seconds since the beginning of 1970. -/
  seconds : Int
  /-- Nanoseconds within the second; from `10^9` on, within the leap second after it. -/
  nanos : Nat
  seconds_ge : earliestSecond ≤ seconds
  seconds_le : seconds ≤ latestSecond
  nanos_lt : nanos < 2 * nanosPerSecond
  leap_aligned : nanosPerSecond ≤ nanos → seconds % 60 = 59
  deriving DecidableEq, Repr

namespace Instant

/-- The instant with these counts, if there is one. -/
def ofUnix? (seconds : Int) (nanos : Nat) : Option Instant :=
  if valid : (earliestSecond ≤ seconds ∧ seconds ≤ latestSecond) ∧ nanos < 2 * nanosPerSecond
      ∧ (nanosPerSecond ≤ nanos → seconds % 60 = 59) then
    some ⟨seconds, nanos, valid.1.1, valid.1.2, valid.2.1, valid.2.2⟩
  else none

/-- Whether an instant lies in a leap second. -/
def isLeap (instant : Instant) : Bool :=
  nanosPerSecond ≤ instant.nanos

/-- A number that grows with time, leap seconds included. -/
def position (instant : Instant) : Int :=
  instant.seconds * (2 * nanosPerSecond) + instant.nanos

instance : LE Instant := ⟨fun first second => first.position ≤ second.position⟩
instance : LT Instant := ⟨fun first second => first.position < second.position⟩

instance (first second : Instant) : Decidable (first ≤ second) :=
  inferInstanceAs (Decidable (first.position ≤ second.position))

instance (first second : Instant) : Decidable (first < second) :=
  inferInstanceAs (Decidable (first.position < second.position))

/-- Nanoseconds since the beginning of 1970, a leap second counting like the second after it. -/
def unixNanos (instant : Instant) : Int :=
  instant.seconds * nanosPerSecond + instant.nanos

/-- The instant so many nanoseconds after the beginning of 1970, in no leap second. -/
def ofUnixNanos? (nanos : Int) : Option Instant :=
  ofUnix? (nanos / nanosPerSecond) (nanos % nanosPerSecond).toNat

/-- Milliseconds since the beginning of 1970, rounded down. -/
def toMillis (instant : Instant) : Int :=
  instant.seconds * 1000 + instant.nanos / 1000000

/-- The instant so many milliseconds after the beginning of 1970, in no leap second. -/
def ofMillis? (millis : Int) : Option Instant :=
  ofUnix? (millis / 1000) ((millis % 1000).toNat * 1000000)

/-- The instant a duration later. A leap second is left, in either direction, as if it were the
second that it repeats; a change of less than a second may stay within it. -/
def add? (instant : Instant) (duration : Duration) : Option Instant :=
  let whole := duration.nanos.tdiv nanosPerSecond
  let part := duration.nanos.tmod nanosPerSecond
  if instant.isLeap then
    if 0 < whole ∨ (0 < part ∧ 2 * (nanosPerSecond : Int) ≤ instant.nanos + part) then
      ofUnixNanos? (instant.unixNanos - nanosPerSecond + duration.nanos)
    else if whole < 0 then
      ofUnixNanos? (instant.unixNanos + duration.nanos)
    else ofUnix? instant.seconds (instant.nanos + part).toNat
  else ofUnixNanos? (instant.unixNanos + duration.nanos)

/-! ### Order and movement -/

theorem le_def (first second : Instant) : first ≤ second ↔ first.position ≤ second.position :=
  Iff.rfl

theorem lt_def (first second : Instant) : first < second ↔ first.position < second.position :=
  Iff.rfl

/-- Instants are ordered by second, then by nanosecond. -/
theorem le_iff (first second : Instant) :
    first ≤ second ↔
      first.seconds < second.seconds ∨
        (first.seconds = second.seconds ∧ first.nanos ≤ second.nanos) := by
  have firstLt := first.nanos_lt
  have secondLt := second.nanos_lt
  simp only [le_def, position, nanosPerSecond] at *
  omega

theorem eq_of_ofUnix? {seconds : Int} {nanos : Nat} {instant : Instant}
    (found : ofUnix? seconds nanos = some instant) :
    instant.seconds = seconds ∧ instant.nanos = nanos := by
  unfold ofUnix? at found
  split at found
  · cases found
    exact ⟨rfl, rfl⟩
  · cases found

/-- An instant outside leap seconds moves by exactly the duration added to it. -/
theorem unixNanos_add? {instant later : Instant} {duration : Duration}
    (plain : instant.isLeap = false) (moved : instant.add? duration = some later) :
    later.unixNanos = instant.unixNanos + duration.nanos := by
  simp only [add?, plain, Bool.false_eq_true, if_false, ofUnixNanos?] at moved
  have parts := eq_of_ofUnix? moved
  simp only [unixNanos, nanosPerSecond] at *
  omega

end Instant

end DeviceAuth
