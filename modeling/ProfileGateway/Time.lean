/-!
# Time

Durations and instants in nanoseconds. An instant counts from the start of the clock.
-/
namespace ProfileGateway

structure Duration where
  nanos : Nat
deriving DecidableEq, Repr

namespace Duration

def nanosPerSecond : Nat := 1000000000

def nanosPerMilli : Nat := 1000000

def zero : Duration := ⟨0⟩

def ofSeconds (s : Nat) : Duration := ⟨s * nanosPerSecond⟩

def ofMillis (ms : Nat) : Duration := ⟨ms * nanosPerMilli⟩

def isZero (d : Duration) : Bool := d.nanos == 0

/-- Whole seconds. -/
def seconds (d : Duration) : Nat := d.nanos / nanosPerSecond

/-- The nanoseconds beyond whole seconds. -/
def subsecond (d : Duration) : Nat := d.nanos % nanosPerSecond

/-- Whole milliseconds. -/
def millis (d : Duration) : Nat := d.nanos / nanosPerMilli

/-- The duration, or the next longer one that is a whole number of milliseconds. -/
def roundedUp (d : Duration) : Duration := .ofMillis ((d.nanos + (nanosPerMilli - 1)) / nanosPerMilli)

theorem isZero_iff {d : Duration} : d.isZero = true ↔ d = zero := by
  cases d
  simp [isZero, zero]

end Duration

structure Instant where
  nanos : Nat
deriving DecidableEq, Repr

namespace Instant

@[ext] theorem ext {a b : Instant} (h : a.nanos = b.nanos) : a = b := by
  cases a; cases b; cases h; rfl

def start : Instant := ⟨0⟩

instance : LE Instant := ⟨fun a b => a.nanos ≤ b.nanos⟩

instance (a b : Instant) : Decidable (a ≤ b) := inferInstanceAs (Decidable (a.nanos ≤ b.nanos))

instance : LT Instant := ⟨fun a b => a.nanos < b.nanos⟩

instance (a b : Instant) : Decidable (a < b) := inferInstanceAs (Decidable (a.nanos < b.nanos))

theorem le_def {a b : Instant} : a ≤ b ↔ a.nanos ≤ b.nanos := Iff.rfl

def add (t : Instant) (d : Duration) : Instant := ⟨t.nanos + d.nanos⟩

/-- The seconds that an instant can count stay below this. -/
def secondsLimit : Nat := 0x7fffffffffffffff

/-- The instant after a duration, unless it is too far away to be represented. -/
def add? (t : Instant) (d : Duration) : Option Instant :=
  if (t.nanos + d.nanos) / Duration.nanosPerSecond < secondsLimit then some (t.add d) else none

/-- The time from `earlier` to `t`, and none at all if `t` is before it. -/
def since (t earlier : Instant) : Duration := ⟨t.nanos - earlier.nanos⟩

def earliest (a b : Instant) : Instant := if a ≤ b then a else b

def latest (a b : Instant) : Instant := if a ≤ b then b else a

/-- When a timer set to an instant goes off: timers count the clock in whole milliseconds, and none is early. -/
def tick (t : Instant) : Instant := start.add (t.since start).roundedUp

/-- The tick of an instant is the first whole millisecond that is not before it. -/
theorem nanos_tick (t : Instant) : t.tick.nanos = (t.nanos + 999999) / 1000000 * 1000000 := by
  change 0 + (t.nanos - 0 + 999999) / 1000000 * 1000000 = _
  rw [Nat.zero_add, Nat.sub_zero]

/-- The time from `now` until a timer set to an instant goes off, and none at all if that is before it. -/
def dueIn (t now : Instant) : Duration := t.tick.since now

/-- A clock that stands on a whole millisecond has to wait for the timer as long as for its instant, rounded up. -/
theorem dueIn_of_tick {now : Instant} (whole : now.tick = now) (t : Instant) :
    t.dueIn now = (t.since now).roundedUp := by
  have stands := congrArg nanos whole
  rw [nanos_tick] at stands
  have away : t.tick.nanos - now.nanos = (t.nanos - now.nanos + 999999) / 1000000 * 1000000 := by
    rw [nanos_tick]
    omega
  exact congrArg Duration.mk away

end Instant
end ProfileGateway
