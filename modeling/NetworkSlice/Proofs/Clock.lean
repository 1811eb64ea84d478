import NetworkSlice.Settings.Basic

/-
What a clock reads later, and timeouts that no clock can keep.

`Instant.after?` adds seconds to seconds and nanoseconds to nanoseconds, with a
carry. Counted in nanoseconds alone it is the sum, exactly
(`after?_eq_some_iff`), and it is missing exactly where the sum is past the end
of the clock (`after?_eq_none_iff`). A timeout `OutlastsClock` when it leads there
from what the clock reads. Whether it does is a matter of that reading, up to a
length which is too long for all of them (`outlastsClock_of_le`).
-/
namespace NetworkSlice

namespace Instant

variable {t u : Instant} {d : Duration}

/-- The nanoseconds at which the clock ends. -/
def limitNanos : Nat := limit * Duration.perSecond

/-- No reading is past the end. -/
theorem toNanos_lt (t : Instant) : t.toNanos < limitNanos := by
  have hsecs := t.secs_lt
  have hnanos := t.nanos_lt
  unfold toNanos limitNanos Duration.perSecond at *
  omega

/-- Readings are told apart by their nanoseconds. -/
theorem toNanos_inj : t.toNanos = u.toNanos ↔ t = u := by
  refine ⟨fun h => ?_, congrArg toNanos⟩
  have hlt := t.nanos_lt
  have hlt' := u.nanos_lt
  unfold toNanos at h
  unfold Duration.perSecond at h hlt hlt'
  have hsecs : t.secs = u.secs := by omega
  have hnanos : t.nanos = u.nanos := by omega
  exact Instant.ext hsecs hnanos

/-- With the carry, the seconds are below the end where the sum is. -/
theorem carried_lt_iff (t : Instant) (d : Duration) :
    t.secs + d.secs.toNat + (t.nanos + d.nanos) / Duration.perSecond < limit
      ↔ t.toNanos + d.toNanos < limitNanos := by
  unfold toNanos Duration.toNanos limitNanos Duration.perSecond
  omega

/-- The reading a length of time later is that of the sum. -/
theorem after?_eq_some_iff : t.after? d = some u ↔ u.toNanos = t.toNanos + d.toNanos := by
  unfold after?
  dsimp only
  split
  · have hsum : ∀ h, toNanos ⟨t.secs + d.secs.toNat + (t.nanos + d.nanos) / Duration.perSecond,
        (t.nanos + d.nanos) % Duration.perSecond, h, Nat.mod_lt _ (by decide)⟩
          = t.toNanos + d.toNanos := by
      intro h
      unfold toNanos Duration.toNanos Duration.perSecond
      dsimp only
      omega
    rw [Option.some.injEq, ← toNanos_inj, hsum]
    exact eq_comm
  · next hpast =>
      have hlt := u.toNanos_lt
      rw [carried_lt_iff] at hpast
      exact ⟨(fun h => nomatch h), fun h => absurd (h ▸ hlt) hpast⟩

/-- There is none where the sum is past the end. -/
theorem after?_eq_none_iff : t.after? d = none ↔ limitNanos ≤ t.toNanos + d.toNanos := by
  rw [← Nat.not_lt, ← carried_lt_iff]
  unfold after?
  dsimp only
  split
  · next h => exact ⟨(fun hnone => nomatch hnone), fun hpast => absurd h hpast⟩
  · next h => exact ⟨fun _ => h, fun _ => rfl⟩

end Instant

namespace Settings

variable {s : Settings} {d : Duration}

/-- There is a timeout, and it ends past the end of a clock that reads `start`
now. -/
def OutlastsClock (s : Settings) (start : Instant) : Prop :=
  ∃ d, s.operationTimeout = some d ∧ Instant.limitNanos ≤ start.toNanos + d.toNanos

/-- As many seconds as the clock has outlast it, whatever it reads. -/
theorem outlastsClock_of_le (h : s.operationTimeout = some d) (hd : Instant.limit ≤ d.secs.toNat)
    (start : Instant) : s.OutlastsClock start := by
  have hlong : Instant.limitNanos ≤ d.secs.toNat * Duration.perSecond :=
    Nat.mul_le_mul_right Duration.perSecond hd
  refine ⟨d, h, ?_⟩
  unfold Duration.toNanos
  omega

/-- A timeout that leads to a reading does not outlast the clock. -/
theorem not_outlastsClock_of_lt {start : Instant} (h : s.operationTimeout = some d)
    (hlt : start.toNanos + d.toNanos < Instant.limitNanos) : ¬s.OutlastsClock start := by
  rintro ⟨d', hd', hpast⟩
  obtain rfl : d = d' := Option.some.inj (h.symm.trans hd')
  exact absurd hlt (Nat.not_lt.mpr hpast)

/-- Without a timeout there is nothing to outlast it. -/
theorem not_outlastsClock_of_none (h : s.operationTimeout = none) (start : Instant) :
    ¬s.OutlastsClock start := by
  rintro ⟨d, hd, -⟩
  rw [h] at hd
  cases hd

end Settings

end NetworkSlice
