import DeviceAuth.Dictionary

/-!
**Failures in a row.** Each device that has failed since its last success has a counter, which stops
at the largest word of 32 bits. Devices without failures take no room.
-/

namespace DeviceAuth

/-- The counters of all devices that have failed. -/
structure FailureCounters where
  counts : Dictionary UInt32

namespace FailureCounters

/-- No device has failed. -/
def empty : FailureCounters := ⟨[]⟩

/-- How often a device has failed in a row. -/
def count (deviceId : String) (counters : FailureCounters) : UInt32 :=
  (counters.counts.get? deviceId).getD 0

/-- The next count; the largest stays. -/
def successor (count : UInt32) : UInt32 :=
  if count = 4294967295 then count else count + 1

/-- Counts one more failure of a device. -/
def countFailure (deviceId : String) (counters : FailureCounters) : UInt32 × FailureCounters :=
  let next := successor (counters.count deviceId)
  (next, ⟨counters.counts.put deviceId next⟩)

/-- Forgets the failures of a device. -/
def forget (deviceId : String) (counters : FailureCounters) : FailureCounters :=
  ⟨counters.counts.erase deviceId⟩

/-- How many devices have failed. -/
def size (counters : FailureCounters) : Nat :=
  counters.counts.length

/-- Whether a device has failed at least so often. -/
def reaches (deviceId : String) (limit : UInt32) (counters : FailureCounters) : Bool :=
  limit ≤ counters.count deviceId

/-- Counting never lowers a count. -/
theorem le_successor (count : UInt32) : count ≤ successor count := by
  unfold successor
  split
  · exact UInt32.le_refl count
  · next small =>
    have below : count.toNat ≠ 4294967295 := fun same => small (UInt32.toNat_inj.mp same)
    have bound := count.toNat_lt
    have one : (1 : UInt32).toNat = 1 := rfl
    rw [UInt32.le_iff_toNat_le, UInt32.toNat_add, one]
    omega

theorem count_countFailure (deviceId other : String) (counters : FailureCounters) :
    (counters.countFailure deviceId).2.count other =
      if other = deviceId then successor (counters.count deviceId) else counters.count other := by
  by_cases same : other = deviceId <;>
    simp [countFailure, count, Dictionary.get?_put, same]

theorem count_forget (deviceId other : String) (counters : FailureCounters) :
    (counters.forget deviceId).count other =
      if other = deviceId then 0 else counters.count other := by
  by_cases same : other = deviceId <;> simp [forget, count, Dictionary.get?_erase, same]

end FailureCounters

end DeviceAuth
