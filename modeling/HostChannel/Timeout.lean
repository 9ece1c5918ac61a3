import HostChannel.Word

/-!
# Timeouts

A timeout is a duration or infinite. A duration is counted in seconds and nanoseconds,
with less than a second of nanoseconds; the clock's instants are durations since its
start, and reach up to 2⁶³ seconds.
-/

namespace HostChannel

/-- A span of time. -/
structure Duration where
  /-- Whole seconds. -/
  seconds : Nat
  /-- Nanoseconds beyond the whole seconds. -/
  nanoseconds : Nat
  deriving DecidableEq, Repr

namespace Duration

/-- Nanoseconds of a second. -/
def nanosecondsPerSecond : Nat := 1000000000
/-- Milliseconds of a second. -/
def millisecondsPerSecond : Nat := 1000
/-- Nanoseconds of a millisecond. -/
def nanosecondsPerMillisecond : Nat := 1000000

/-- No time at all. -/
def zero : Duration := ⟨0, 0⟩

/-- The span of some seconds and nanoseconds; full seconds of nanoseconds are carried. -/
def ofParts (seconds nanoseconds : Nat) : Duration :=
  ⟨seconds + nanoseconds / nanosecondsPerSecond, nanoseconds % nanosecondsPerSecond⟩

/-- The span of some milliseconds. -/
def ofMilliseconds (milliseconds : Nat) : Duration :=
  ⟨milliseconds / millisecondsPerSecond,
    milliseconds % millisecondsPerSecond * nanosecondsPerMillisecond⟩

/-- The whole milliseconds of a span. -/
def milliseconds (duration : Duration) : Nat :=
  duration.seconds * millisecondsPerSecond + duration.nanoseconds / nanosecondsPerMillisecond

/-- One span after another. -/
def add (first second : Duration) : Duration :=
  ofParts (first.seconds + second.seconds) (first.nanoseconds + second.nanoseconds)

/-- A span is at most another one: by its seconds, and then by its nanoseconds. -/
instance : LE Duration :=
  ⟨fun first second => first.seconds < second.seconds ∨
    first.seconds = second.seconds ∧ first.nanoseconds ≤ second.nanoseconds⟩

instance (first second : Duration) : Decidable (first ≤ second) :=
  inferInstanceAs (Decidable (first.seconds < second.seconds ∨
    first.seconds = second.seconds ∧ first.nanoseconds ≤ second.nanoseconds))

/-- Seconds count before nanoseconds. -/
theorem le_iff (first second : Duration) : first ≤ second ↔ first.seconds < second.seconds ∨
    first.seconds = second.seconds ∧ first.nanoseconds ≤ second.nanoseconds := Iff.rfl

/-- A span is at most itself. -/
theorem le_refl (duration : Duration) : duration ≤ duration :=
  .inr ⟨rfl, Nat.le_refl _⟩

/-- A span that is at most a second one is at most what the second one is at most. -/
theorem le_trans {first second third : Duration} (former : first ≤ second)
    (latter : second ≤ third) : first ≤ third := by
  rw [le_iff] at *
  omega

/-- A span is at most the same span with another one after it. -/
theorem le_add (first second : Duration) : first ≤ first.add second := by
  simp only [le_iff, add, ofParts, nanosecondsPerSecond]
  omega

/-- A span of milliseconds is read back in whole milliseconds. -/
theorem milliseconds_ofMilliseconds (count : Nat) : (ofMilliseconds count).milliseconds = count := by
  simp only [milliseconds, ofMilliseconds, millisecondsPerSecond, nanosecondsPerMillisecond]
  omega

end Duration

/-- How long to wait. -/
inductive Timeout where
  /-- Until it happens. -/
  | infinite
  /-- At most a span of time. -/
  | after (duration : Duration)
  deriving DecidableEq, Repr

namespace Timeout

/-- Does not wait at all. -/
def zero : Timeout := .after .zero

/-- The timeout of a setting that names none. -/
def standard : Timeout := .infinite

/-- The raw number of milliseconds that stands for infinite. -/
def infiniteMilliseconds : Word := 0xffffffff

/-- At most some milliseconds. -/
def ofMilliseconds (milliseconds : Nat) : Timeout :=
  .after (.ofMilliseconds milliseconds)

/-- At most a raw number of milliseconds, the greatest of which stands for infinite. -/
def ofRawMilliseconds (milliseconds : Word) : Timeout :=
  if milliseconds = infiniteMilliseconds then .infinite else ofMilliseconds milliseconds.toNat

/-- The span of a timeout that is not infinite. -/
def duration? : Timeout → Option Duration
  | infinite => none
  | after duration => some duration

/-- The first second that the clock cannot show. -/
def clockEnd : Nat := 0x8000000000000000

/-- The instant at which the timeout is over: none if it is infinite, or if the clock
cannot show the instant. -/
def deadline? (timeout : Timeout) (now : Duration) : Option Duration :=
  match timeout with
  | infinite => none
  | after duration =>
    let instant := now.add duration
    if instant.seconds < clockEnd then some instant else none

end Timeout

end HostChannel
