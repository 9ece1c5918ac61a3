/-!
# Job states

A job is created, built, submitted, flushed and waited for, in this order. A wait either
completes it or runs out of time, and may then be repeated.
-/

namespace HostChannel

/-- How far a job has come. -/
inductive JobState where
  /-- It has no pushbuffer yet. -/
  | created
  /-- It has pushbuffers and may be changed. -/
  | building
  /-- A device has accepted it. -/
  | submitted
  /-- It may be waited for. -/
  | flushed
  /-- A wait found it finished. -/
  | complete
  /-- The last wait ran out of time. -/
  | timedOut
  deriving DecidableEq, Repr

/-- The name of a state, as messages show it. -/
def JobState.label : JobState → String
  | .created => "Created"
  | .building => "Building"
  | .submitted => "Submitted"
  | .flushed => "Flushed"
  | .complete => "Complete"
  | .timedOut => "TimedOut"

end HostChannel
