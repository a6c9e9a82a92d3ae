import DeviceAuth.Proofs.Time.Millis

/-!
**Adding to instants, and rounding them down.** Outside leap seconds an instant is its count of
nanoseconds: adding a duration adds nanoseconds (`add?_eq_some_iff`), and what is read back of an
instant that was kept in milliseconds is the instant rounded down (`ofMillis?_toMillis_eq`).
-/

namespace DeviceAuth

namespace Instant

variable {instant later first second : Instant} {duration : Duration}

theorem le_iff_unixNanos (plain : first.isLeap = false) (plainToo : second.isLeap = false) :
    first ≤ second ↔ first.unixNanos ≤ second.unixNanos := by
  rw [← not_lt, lt_iff_unixNanos plainToo plain, Int.not_lt]

theorem le_trans {third : Instant} (begins : first ≤ second) (goesOn : second ≤ third) :
    first ≤ third := by
  rw [le_def] at begins goesOn ⊢
  exact Int.le_trans begins goesOn

theorem seconds_mono (le : first ≤ second) : first.seconds ≤ second.seconds := by
  rcases (le_iff first second).mp le with less | ⟨same, _⟩
  · exact Int.le_of_lt less
  · exact Int.le_of_eq same

/-- Outside leap seconds adding a duration is adding nanoseconds. -/
theorem add?_eq_some_iff (plain : instant.isLeap = false) :
    instant.add? duration = some later ↔
      later.isLeap = false ∧ later.unixNanos = instant.unixNanos + duration.nanos := by
  refine ⟨fun moved => ⟨plain_add? plain moved, unixNanos_add? plain moved⟩, fun ⟨out, sum⟩ => ?_⟩
  have below := nanos_lt_of_plain out
  obtain ⟨seconds, nanos, earliest, latest, bound, aligned⟩ := later
  simp only [unixNanos, nanosPerSecond] at sum below
  have seconds_eq : (instant.unixNanos + duration.nanos) / (nanosPerSecond : Nat) = seconds := by
    simp only [unixNanos, nanosPerSecond]
    omega
  have nanos_eq : ((instant.unixNanos + duration.nanos) % (nanosPerSecond : Nat)).toNat = nanos := by
    simp only [unixNanos, nanosPerSecond]
    omega
  simp only [add?, plain, Bool.false_eq_true, if_false, ofUnixNanos?, seconds_eq, nanos_eq, ofUnix?]
  rw [dif_pos ⟨⟨earliest, latest⟩, bound, aligned⟩]

/-- The instant without what is less than a millisecond. -/
def floorMillis (instant : Instant) : Instant where
  seconds := instant.seconds
  nanos := instant.nanos / 1000000 * 1000000
  seconds_ge := instant.seconds_ge
  seconds_le := instant.seconds_le
  nanos_lt := Nat.lt_of_le_of_lt (Nat.div_mul_le_self _ _) instant.nanos_lt
  leap_aligned leap := instant.leap_aligned (Nat.le_trans leap (Nat.div_mul_le_self _ _))

theorem plain_floorMillis (plain : instant.isLeap = false) : instant.floorMillis.isLeap = false := by
  have below := nanos_lt_of_plain plain
  rw [isLeap, decide_eq_false_iff_not, Nat.not_le]
  exact Nat.lt_of_le_of_lt (Nat.div_mul_le_self _ _) below

theorem unixNanos_floorMillis (instant : Instant) :
    instant.floorMillis.unixNanos = instant.unixNanos / 1000000 * 1000000 := by
  simp only [unixNanos, floorMillis, nanosPerSecond]
  omega

/-- What is read back of an instant outside leap seconds. -/
theorem ofMillis?_toMillis_eq (plain : instant.isLeap = false) :
    ofMillis? instant.toMillis = some instant.floorMillis := by
  have whole : instant.floorMillis.IsWhole :=
    ⟨plain_floorMillis plain, Nat.mul_mod_left _ _⟩
  have same : instant.floorMillis.toMillis = instant.toMillis := by
    simp only [toMillis, floorMillis]
    omega
  rw [← same, ofMillis?_toMillis whole]

end Instant

end DeviceAuth
