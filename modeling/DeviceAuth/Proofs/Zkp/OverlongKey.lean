import DeviceAuth.Proofs.Sequence
import DeviceAuth.Zkp.KeyFile

/-!
**Keys that are beyond all memory.** Room for the points of a key is made before they are read, by
the length that its bytes give. Where there can be no such room, reading is abandoned: nothing else
in a key does this (`Curve.readPoints1_eq_overflow_iff`), so it comes down to the bytes up to the
length (`readVerifyingKey_eq_overflow_iff`).
-/

namespace DeviceAuth

open Curve Groth16

namespace Curve

/-- A reader that is never abandoned. -/
def Reader.Bounded {α : Type} (read : Reader α) : Prop :=
  ∀ bytes, read bytes ≠ .error .overflow

/-- What fails with an overflow after a reader that never does, fails after it. -/
theorem Reader.Bounded.of_bind {α β : Type} {read : Reader α} (bounded : read.Bounded)
    {rest : α × Bytes → Except Fault β} {bytes : Bytes}
    (failed : read bytes >>= rest = .error .overflow) :
    ∃ value left, read bytes = .ok (value, left) ∧ rest (value, left) = .error .overflow := by
  rcases Except.of_bind_eq_error failed with first | ⟨⟨value, left⟩, found, failed⟩
  · exact absurd first (bounded bytes)
  · exact ⟨value, left, found, failed⟩

theorem bounded_readBytes (count : Nat) : Reader.Bounded (readBytes count) := by
  intro bytes failed
  unfold readBytes at failed
  split at failed <;> cases failed

theorem coordinate_ne_overflow (number : Nat) : coordinate number ≠ .error .overflow := by
  unfold coordinate
  split <;> nofun

theorem bounded_readCount : Reader.Bounded readCount := by
  intro bytes failed
  obtain ⟨digits, left, _, failed⟩ := (bounded_readBytes 8).of_bind failed
  cases failed

theorem bounded_readCoordinate : Reader.Bounded readCoordinate := by
  intro bytes failed
  obtain ⟨digits, left, _, failed⟩ := (bounded_readBytes 32).of_bind failed
  rcases Except.of_bind_eq_error failed with first | ⟨_, _, failed⟩
  · exact coordinate_ne_overflow _ first
  · cases failed

theorem bounded_readMarked : Reader.Bounded readMarked := by
  intro bytes failed
  obtain ⟨digits, left, _, failed⟩ := (bounded_readBytes 32).of_bind failed
  have low := coordinate_ne_overflow (Bytes.toNatLE digits % markUnit)
  dsimp only at failed
  split at failed
  case h_4 => cases failed
  all_goals
    rcases Except.of_bind_eq_error failed with first | ⟨_, _, failed⟩
    · exact low first
    · cases failed

theorem pointWith_ne_overflow {F : Type} [Coordinate F] (constant x : F) (mark : Mark) :
    pointWith constant x mark ≠ .error .overflow := by
  unfold pointWith
  split
  · nofun
  · split <;> nofun

theorem bounded_readPoint1 : Reader.Bounded readPoint1 := by
  intro bytes failed
  obtain ⟨⟨x, mark⟩, left, _, failed⟩ := bounded_readMarked.of_bind failed
  rcases Except.of_bind_eq_error failed with first | ⟨_, _, failed⟩
  · exact pointWith_ne_overflow _ _ _ first
  · cases failed

theorem bounded_readPoint2Anywhere : Reader.Bounded readPoint2Anywhere := by
  intro bytes failed
  obtain ⟨low, left, _, failed⟩ := bounded_readCoordinate.of_bind failed
  obtain ⟨⟨high, mark⟩, left, _, failed⟩ := bounded_readMarked.of_bind failed
  rcases Except.of_bind_eq_error failed with first | ⟨_, _, failed⟩
  · exact pointWith_ne_overflow _ _ _ first
  · cases failed

theorem bounded_readPoint2 : Reader.Bounded readPoint2 := by
  intro bytes failed
  obtain ⟨point, left, _, failed⟩ := bounded_readPoint2Anywhere.of_bind failed
  dsimp only at failed
  split at failed <;> cases failed

theorem bounded_readTimes {α : Type} {read : Reader α} (bounded : read.Bounded) (count : Nat) :
    Reader.Bounded (readTimes read count) := by
  induction count with
  | zero =>
    intro bytes failed
    cases failed
  | succ count ih =>
    intro bytes failed
    obtain ⟨first, left, _, failed⟩ := bounded.of_bind failed
    obtain ⟨others, left, _, failed⟩ := ih.of_bind failed
    cases failed

/-- Points are only abandoned for their length. -/
theorem readPoints1_eq_overflow_iff {bytes : Bytes} :
    readPoints1 bytes = .error .overflow ↔
      ∃ count left, readCount bytes = .ok (count, left) ∧ memoryEnd ≤ count * pointWidth1 := by
  constructor
  · intro failed
    rcases Except.of_bind_eq_error failed with measured | ⟨⟨count, left⟩, _, failed⟩
    · obtain ⟨count, left, found, failed⟩ := bounded_readCount.of_bind measured
      refine ⟨count, left, found, Nat.le_of_not_lt fun fits => ?_⟩
      dsimp only at failed
      rw [if_pos fits] at failed
      cases failed
    · exact absurd failed (bounded_readTimes bounded_readPoint1 count left)
  · rintro ⟨count, left, found, beyond⟩
    simp only [readPoints1, readLength, found, if_neg (Nat.not_lt_of_le beyond), bind, Except.bind]

end Curve

/-- **Bytes with four points and then a length that is beyond all memory.** -/
def IsOverlong (bytes : Bytes) : Prop :=
  ∃ alpha beta gamma delta count afterAlpha afterBeta afterGamma afterDelta points,
    readPoint1 bytes = .ok (alpha, afterAlpha) ∧ readPoint2 afterAlpha = .ok (beta, afterBeta) ∧
      readPoint2 afterBeta = .ok (gamma, afterGamma) ∧
      readPoint2 afterGamma = .ok (delta, afterDelta) ∧
      readCount afterDelta = .ok (count, points) ∧ memoryEnd ≤ count * pointWidth1

theorem VerifyingKey.read_eq_overflow_iff {bytes : Bytes} :
    VerifyingKey.read bytes = .error .overflow ↔ IsOverlong bytes := by
  constructor
  · intro failed
    obtain ⟨alpha, afterAlpha, alphaRead, failed⟩ := bounded_readPoint1.of_bind failed
    obtain ⟨beta, afterBeta, betaRead, failed⟩ := bounded_readPoint2.of_bind failed
    obtain ⟨gamma, afterGamma, gammaRead, failed⟩ := bounded_readPoint2.of_bind failed
    obtain ⟨delta, afterDelta, deltaRead, failed⟩ := bounded_readPoint2.of_bind failed
    rcases Except.of_bind_eq_error failed with measured | ⟨_, _, failed⟩
    · obtain ⟨count, points, counted, beyond⟩ := readPoints1_eq_overflow_iff.mp measured
      exact ⟨alpha, beta, gamma, delta, count, afterAlpha, afterBeta, afterGamma, afterDelta,
        points, alphaRead, betaRead, gammaRead, deltaRead, counted, beyond⟩
    · cases failed
  · rintro ⟨alpha, beta, gamma, delta, count, afterAlpha, afterBeta, afterGamma, afterDelta, points,
      alphaRead, betaRead, gammaRead, deltaRead, counted, beyond⟩
    have measured := readPoints1_eq_overflow_iff.mpr ⟨count, points, counted, beyond⟩
    simp only [VerifyingKey.read, alphaRead, betaRead, gammaRead, deltaRead, measured, bind,
      Except.bind]

/-- **Reading a key is abandoned** for these bytes and no others. -/
theorem readVerifyingKey_eq_overflow_iff {bytes : Bytes} :
    readVerifyingKey bytes = .error .overflow ↔ IsOverlong bytes := by
  rw [← VerifyingKey.read_eq_overflow_iff]
  constructor
  · intro failed
    unfold readVerifyingKey at failed
    rcases found : VerifyingKey.read bytes with fault | _ <;> rw [found] at failed
    · cases fault <;> cases failed
      rfl
    · cases failed
  · intro failed
    rw [readVerifyingKey, failed]
    rfl

end DeviceAuth
