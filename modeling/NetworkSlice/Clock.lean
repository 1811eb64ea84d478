/-
Time: lengths of it, and what a clock reads.

Both count seconds, and nanoseconds beside them. A length counts its seconds in
an unsigned word and a reading of the clock in a signed one, so a length may be
too long for the clock: `Instant.after?` adds the two and says when it is.
-/
namespace NetworkSlice

/-- The number of nanoseconds in a second. -/
def Duration.perSecond : Nat := 1000000000

/-- A length of time. -/
structure Duration where
  secs : UInt64
  nanos : Nat
  nanos_lt : nanos < Duration.perSecond
deriving DecidableEq, Repr

namespace Duration

/-- A number of whole seconds. -/
def ofSecs (secs : UInt64) : Duration := ⟨secs, 0, by decide⟩

/-- The whole length in nanoseconds. -/
def toNanos (d : Duration) : Nat := d.secs.toNat * perSecond + d.nanos

end Duration

/-- The number of seconds at which the clock ends: a signed word holds one
less. -/
def Instant.limit : Nat := UInt64.size / 2

/-- What the clock reads. It has counted up from zero. -/
@[ext]
structure Instant where
  secs : Nat
  nanos : Nat
  secs_lt : secs < Instant.limit
  nanos_lt : nanos < Duration.perSecond
deriving DecidableEq, Repr

namespace Instant

/-- The reading in nanoseconds. -/
def toNanos (t : Instant) : Nat := t.secs * Duration.perSecond + t.nanos

/-- The reading after so many nanoseconds. The seconds wrap around like a
word. -/
def ofNanos (n : Nat) : Instant where
  secs := n / Duration.perSecond % limit
  nanos := n % Duration.perSecond
  secs_lt := Nat.mod_lt _ (by decide)
  nanos_lt := Nat.mod_lt _ (by decide)

/-- The reading a length of time later, if the clock goes so far. Nanoseconds
that make a second carry over. -/
def after? (t : Instant) (d : Duration) : Option Instant :=
  let nanos := t.nanos + d.nanos
  let secs := t.secs + d.secs.toNat + nanos / Duration.perSecond
  if h : secs < limit then
    some ⟨secs, nanos % Duration.perSecond, h, Nat.mod_lt _ (by decide)⟩
  else none

end Instant

end NetworkSlice
