import DeviceAuth.Proofs.Auth.Rounding
import Mathlib.Order.Bounds.Defs

/-!
**Instants as a database keeps them.** An instant in no leap second, before or after the beginning
of 1970, is kept as a signed word of 64 bits and read back as the greatest instant of whole
milliseconds that is not after it (`isGreatest_floorMillis`). Hence the order of instants is kept,
if not strictly, and whole seconds may be added before an instant is kept or after it is read back,
with one result (`stored_rounded_down`). Rounding down does not change the second, so one sum is
within the calendar exactly if the other is (`isSome_add?_floorMillis`).
-/

namespace DeviceAuth

/-- What a cell is read as, in whatever column it stands. -/
def Cell.ReadsAs (cell : Cell) (instant : Instant) : Prop :=
  ∀ index name, cell.readInstant index name = .ok instant

theorem Cell.ReadsAs.unique {cell : Cell} {first second : Instant} (reads : cell.ReadsAs first)
    (readsToo : cell.ReadsAs second) : first = second :=
  Except.ok.inj ((reads 0 "").symm.trans (readsToo 0 ""))

theorem Cell.readsAs_ofInstant {instant : Instant} (plain : instant.isLeap = false) :
    (Cell.ofInstant instant).ReadsAs instant.floorMillis :=
  Cell.readInstant_eq plain

namespace Instant

variable {instant : Instant}

/-- The milliseconds of an instant are a signed word of 64 bits. -/
theorem isSigned64_toMillis (instant : Instant) : Cell.isSigned64 instant.toMillis = true := by
  have earliest := instant.seconds_ge
  have latest := instant.seconds_le
  have bound := instant.nanos_lt
  simp only [earliestSecond, latestSecond, nanosPerSecond] at earliest latest bound
  rw [Cell.isSigned64, Bool.and_eq_true, decide_eq_true_iff, decide_eq_true_iff, toMillis]
  omega

/-- **Rounding down gives the greatest instant** of whole milliseconds that is not after the given
one; none in a leap second is greater. -/
theorem isGreatest_floorMillis (plain : instant.isLeap = false) :
    IsGreatest {whole : Instant | whole.nanos % 1000000 = 0 ∧ whole ≤ instant}
      instant.floorMillis := by
  have le : Resolution.milliseconds.floor instant ≤ instant := Resolution.floor_le plain
  refine ⟨⟨Nat.mul_mod_left _ _, le⟩, ?_⟩
  rintro whole ⟨exact, before⟩
  have below := nanos_lt_of_plain plain
  rw [le_iff] at before ⊢
  simp only [floorMillis, nanosPerSecond] at *
  omega

/-- Outside leap seconds, moving by whole seconds stays within the calendar as long as the second
does. -/
theorem isSome_add?_of_plain {duration : Duration} {seconds : Int} (plain : instant.isLeap = false)
    (span : duration.nanos = seconds * nanosPerSecond) :
    (instant.add? duration).isSome ↔
      earliestSecond ≤ instant.seconds + seconds ∧ instant.seconds + seconds ≤ latestSecond := by
  have below := nanos_lt_of_plain plain
  have second :
      (instant.unixNanos + duration.nanos) / nanosPerSecond = instant.seconds + seconds := by
    simp only [span, unixNanos, nanosPerSecond] at *
    omega
  have part : ((instant.unixNanos + duration.nanos) % nanosPerSecond).toNat < nanosPerSecond := by
    simp only [nanosPerSecond]
    omega
  simp only [add?, plain, Bool.false_eq_true, if_false, ofUnixNanos?, isSome_ofUnix?_iff, second]
  exact ⟨And.left, fun inside => ⟨inside, by omega, fun leap => absurd part (Nat.not_lt.mpr leap)⟩⟩

/-- A sum with whole seconds is within the calendar if that with the instant rounded down is. -/
theorem isSome_add?_floorMillis {duration : Duration} {seconds : Int}
    (plain : instant.isLeap = false) (span : duration.nanos = seconds * nanosPerSecond) :
    (instant.floorMillis.add? duration).isSome = (instant.add? duration).isSome := by
  rw [Bool.eq_iff_iff, isSome_add?_of_plain (plain_floorMillis plain) span,
    isSome_add?_of_plain plain span]
  rfl

end Instant

/-- **How an instant is kept,** and what it is read back as. -/
structure StoredAs (instant loaded : Instant) : Prop where
  signed : Cell.isSigned64 instant.toMillis = true
  read : (Cell.ofInstant instant).ReadsAs loaded
  plain : loaded.isLeap = false
  greatest : IsGreatest {whole : Instant | whole.nanos % 1000000 = 0 ∧ whole ≤ instant} loaded
  /-- What is not before it is read back as something that is not before what it is read back as. -/
  ordered : ∀ later laterLoaded : Instant, later.isLeap = false → instant ≤ later →
    (Cell.ofInstant later).ReadsAs laterLoaded → loaded ≤ laterLoaded
  /-- Adding whole seconds and being kept commute, and both sums exist or neither. -/
  moved : ∀ seconds duration, Duration.ofSeconds? seconds = some duration →
    (loaded.add? duration).isSome = (instant.add? duration).isSome ∧
      ∀ sum loadedSum, instant.add? duration = some sum → loaded.add? duration = some loadedSum →
        (Cell.ofInstant sum).ReadsAs loadedSum

/-- **Instants are kept rounded down,** and all of them are read back. -/
theorem stored_rounded_down {instant : Instant} (plain : instant.isLeap = false) :
    StoredAs instant instant.floorMillis where
  signed := instant.isSigned64_toMillis
  read := Cell.readsAs_ofInstant plain
  plain := Instant.plain_floorMillis plain
  greatest := Instant.isGreatest_floorMillis plain
  ordered later laterLoaded plainLater le read := by
    have rounded : Resolution.milliseconds.floor instant ≤ Resolution.milliseconds.floor later :=
      Resolution.floor_mono plain plainLater le
    rwa [read.unique (Cell.readsAs_ofInstant plainLater)]
  moved seconds duration span := by
    have nanos := Duration.nanos_of_ofSeconds? span
    refine ⟨Instant.isSome_add?_floorMillis plain nanos, fun sum loadedSum added addedToo => ?_⟩
    have whole : Resolution.milliseconds.Divides duration := fun _ => by
      rw [nanos]
      simp only [nanosPerSecond]
      omega
    have same : loadedSum = sum.floorMillis :=
      Option.some.inj (addedToo.symm.trans (Resolution.floor_add? plain whole added))
    rw [same]
    exact Cell.readsAs_ofInstant (Instant.plain_add? plain added)

/-- The last nanosecond before 1970 is kept as the last millisecond before it. -/
theorem stored_rounded_down_before_1970 :
    (⟨-1, 999999999, by decide, by decide, by decide, by decide⟩ : Instant).isLeap = false ∧
      StoredAs ⟨-1, 999999999, by decide, by decide, by decide, by decide⟩
        ⟨-1, 999000000, by decide, by decide, by decide, by decide⟩ :=
  ⟨rfl, stored_rounded_down rfl⟩

end DeviceAuth
