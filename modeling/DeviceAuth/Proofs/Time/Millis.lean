import DeviceAuth.Time.Instant

/-!
**Instants in milliseconds.** An instant that is rounded down to milliseconds and read back is the
same one exactly if it was whole. Outside leap seconds the count of milliseconds grows with time, so
of two instants that differ in it the order is known, and of whole ones in any case.

* `ofMillis?_toMillis`, `of_ofMillis?`: what is read back.
* `toMillis_le`, `lt_of_toMillis_lt`, `lt_iff_toMillis_lt`: milliseconds and the order of instants.
* `IsWhole.add?`, `le_add?`: adding a duration.
-/

namespace DeviceAuth

theorem Duration.nanos_of_ofSeconds? {seconds : Int} {span : Duration}
    (found : ofSeconds? seconds = some span) : span.nanos = seconds * nanosPerSecond := by
  unfold ofSeconds? ofNanos? at found
  split at found
  · cases found
    rfl
  · cases found

namespace Instant

/-- A whole number of milliseconds, and in no leap second. -/
def IsWhole (instant : Instant) : Prop :=
  instant.isLeap = false ∧ instant.nanos % 1000000 = 0

instance (instant : Instant) : Decidable instant.IsWhole :=
  inferInstanceAs (Decidable (_ ∧ _))

theorem nanos_lt_of_plain {instant : Instant} (plain : instant.isLeap = false) :
    instant.nanos < nanosPerSecond := by
  simpa [isLeap] using plain

theorem IsWhole.plain {instant : Instant} (whole : instant.IsWhole) : instant.isLeap = false :=
  whole.1

/-! ### Reading back -/

theorem toMillis_eq (instant : Instant) : instant.toMillis = instant.unixNanos / 1000000 := by
  simp only [toMillis, unixNanos, nanosPerSecond]
  omega

/-- A whole instant is read back as it was. -/
theorem ofMillis?_toMillis {instant : Instant} (whole : instant.IsWhole) :
    ofMillis? instant.toMillis = some instant := by
  have below := nanos_lt_of_plain whole.1
  have exact := whole.2
  obtain ⟨seconds, nanos, earliest, latest, bound, aligned⟩ := instant
  simp only [nanosPerSecond] at below exact
  have sameSeconds : (seconds * 1000 + (nanos : Int) / 1000000) / 1000 = seconds := by omega
  have sameNanos : ((seconds * 1000 + (nanos : Int) / 1000000) % 1000).toNat * 1000000 = nanos := by
    omega
  simp only [ofMillis?, toMillis, ofUnix?, sameSeconds, sameNanos]
  rw [dif_pos ⟨⟨earliest, latest⟩, bound, aligned⟩]

/-- What is read back is whole, and of the given milliseconds. -/
theorem of_ofMillis? {millis : Int} {instant : Instant} (read : ofMillis? millis = some instant) :
    instant.IsWhole ∧ instant.toMillis = millis := by
  obtain ⟨seconds, nanos⟩ := eq_of_ofUnix? read
  refine ⟨⟨?_, ?_⟩, ?_⟩
  · simp only [isLeap, decide_eq_false_iff_not, nanosPerSecond, nanos]
    omega
  · omega
  · simp only [toMillis, seconds, nanos]
    omega

/-! ### Order -/

section Order

variable {first second : Instant}

theorem lt_iff_unixNanos (plain : first.isLeap = false) (plainToo : second.isLeap = false) :
    first < second ↔ first.unixNanos < second.unixNanos := by
  have below := nanos_lt_of_plain plain
  have belowToo := nanos_lt_of_plain plainToo
  simp only [lt_def, position, unixNanos, nanosPerSecond] at *
  omega

theorem not_lt : ¬ first < second ↔ second ≤ first := by
  simp only [lt_def, le_def]
  omega

/-- Outside leap seconds the milliseconds grow with time. -/
theorem toMillis_le (plain : first.isLeap = false) (plainToo : second.isLeap = false)
    (le : first ≤ second) : first.toMillis ≤ second.toMillis := by
  have ordered := mt (lt_iff_unixNanos plainToo plain).mpr (not_lt.mpr le)
  rw [toMillis_eq, toMillis_eq]
  omega

/-- Of two instants that differ in their milliseconds, the order is known. -/
theorem lt_of_toMillis_lt (plain : first.isLeap = false) (plainToo : second.isLeap = false)
    (less : first.toMillis < second.toMillis) : first < second := by
  rw [lt_iff_unixNanos plain plainToo]
  rw [toMillis_eq, toMillis_eq] at less
  omega

/-- Whole instants are ordered by their milliseconds. -/
theorem lt_iff_toMillis_lt (whole : first.IsWhole) (wholeToo : second.IsWhole) :
    first < second ↔ first.toMillis < second.toMillis := by
  have exact := whole.2
  have exactToo := wholeToo.2
  rw [lt_iff_unixNanos whole.1 wholeToo.1]
  simp only [toMillis, unixNanos, nanosPerSecond]
  omega

end Order

/-! ### Movement -/

section Movement

variable {instant later : Instant} {duration : Duration}

theorem plain_add? (plain : instant.isLeap = false) (moved : instant.add? duration = some later) :
    later.isLeap = false := by
  simp only [add?, plain, Bool.false_eq_true, if_false, ofUnixNanos?] at moved
  have nanos := (eq_of_ofUnix? moved).2
  simp only [nanosPerSecond] at nanos
  simp only [isLeap, decide_eq_false_iff_not]
  simp only [nanosPerSecond]
  omega

/-- A whole instant stays whole when it moves by whole milliseconds. -/
theorem IsWhole.add? (whole : instant.IsWhole) (span : duration.nanos % 1000000 = 0)
    (moved : instant.add? duration = some later) : later.IsWhole := by
  refine ⟨plain_add? whole.1 moved, ?_⟩
  have exact := whole.2
  have sum := unixNanos_add? whole.1 moved
  simp only [unixNanos, nanosPerSecond] at sum
  omega

/-- A duration that is not negative leads to no earlier instant, from within a leap second too. -/
theorem le_add? (span : 0 ≤ duration.nanos) (moved : instant.add? duration = some later) :
    instant ≤ later := by
  rcases leap : instant.isLeap with _ | _
  · rw [← not_lt, lt_iff_unixNanos (plain_add? leap moved) leap, unixNanos_add? leap moved]
    omega
  have within : (nanosPerSecond : Int) ≤ instant.nanos := by
    simpa only [isLeap, decide_eq_true_eq, Int.ofNat_le] using leap
  have whole : duration.nanos.tdiv nanosPerSecond = duration.nanos / nanosPerSecond :=
    Int.tdiv_eq_ediv_of_nonneg span
  have part : duration.nanos.tmod nanosPerSecond = duration.nanos % nanosPerSecond :=
    Int.tmod_eq_emod_of_nonneg span
  have nanosLt := instant.nanos_lt
  have nonnegative : ¬ duration.nanos / nanosPerSecond < 0 := by
    simp only [nanosPerSecond]
    omega
  simp only [add?, leap, if_true, whole, part, ofUnixNanos?, if_neg nonnegative] at moved
  rw [le_iff]
  split at moved
  all_goals
    have parts := eq_of_ofUnix? moved
    simp only [unixNanos, nanosPerSecond] at *
    omega

/-- Whether there is an instant with these counts. -/
theorem isSome_ofUnix?_iff (seconds : Int) (nanos : Nat) : (ofUnix? seconds nanos).isSome ↔
    (earliestSecond ≤ seconds ∧ seconds ≤ latestSecond) ∧ nanos < 2 * nanosPerSecond ∧
      (nanosPerSecond ≤ nanos → seconds % 60 = 59) := by
  unfold ofUnix?
  split <;> simp_all

/-- **Moving by whole seconds stays within the calendar** as long as the seconds do. -/
theorem isSome_add?_iff {seconds : Nat} (span : duration.nanos = seconds * nanosPerSecond) :
    (instant.add? duration).isSome ↔ instant.seconds + seconds ≤ latestSecond := by
  have whole : duration.nanos.tdiv nanosPerSecond = seconds := by
    rw [span, Int.mul_tdiv_cancel _ (by decide)]
  have part : duration.nanos.tmod nanosPerSecond = 0 := by
    rw [span, Int.mul_tmod_left]
  have begins := instant.seconds_ge
  have nanosLt := instant.nanos_lt
  have aligned := instant.leap_aligned
  have ends := instant.seconds_le
  simp only [add?, whole, part]
  split
  · next leap =>
    have within : nanosPerSecond ≤ instant.nanos := by
      simpa only [isLeap, decide_eq_true_eq] using leap
    split
    · simp only [ofUnixNanos?, isSome_ofUnix?_iff, span, unixNanos]
      simp only [nanosPerSecond, earliestSecond, latestSecond] at *
      omega
    · have none : seconds = 0 := by omega
      subst none
      rw [if_neg (by omega), isSome_ofUnix?_iff]
      simp only [nanosPerSecond, earliestSecond, latestSecond] at *
      omega
  · next plain =>
    have within : instant.nanos < nanosPerSecond := by
      simpa only [isLeap, decide_eq_true_eq, Nat.not_le] using plain
    simp only [ofUnixNanos?, isSome_ofUnix?_iff, span, unixNanos]
    simp only [nanosPerSecond, earliestSecond, latestSecond] at *
    omega

end Movement

end Instant

end DeviceAuth
