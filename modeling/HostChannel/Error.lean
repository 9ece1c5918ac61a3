import HostChannel.Job.State
import HostChannel.Submission
import HostChannel.Text.Hexadecimal

/-!
# Errors

Why an operation on buffers, jobs, channels or devices fails. Each cause has one message.
-/

namespace HostChannel

/-- Why an operation fails. -/
inductive Error where
  /-- The device has no room for a buffer. -/
  | allocationFailed (size : UInt64) (reason : String)
  /-- A buffer of no bytes was asked for. -/
  | zeroSize
  /-- A window would reach past the end of its allocation. -/
  | windowOutOfBounds (offset length available : UInt64)
  /-- A range reaches past the end of what it is a part of. -/
  | rangeOutOfBounds (offset length size : UInt64)
  /-- A position is not at the start of a word. -/
  | misalignedOffset (offset alignment : UInt64)
  /-- The processor has no view of a buffer yet. -/
  | notMapped (handle : Handle)
  /-- A pushbuffer has no room for more words. -/
  | pushBufferOverflow (capacity : Nat)
  /-- A job has no pushbuffer at an index. -/
  | noPushBuffer (index : Nat)
  /-- A job is not in the state that an operation needs. -/
  | invalidState (state : JobState) (expected : String)
  /-- A job without pushbuffers cannot be submitted. -/
  | emptyJob
  /-- Two relocations would replace the same word. -/
  | overlappingRelocation (handle : Handle) (offset : UInt64)
  /-- A position cannot be said in the bits there are for it. -/
  | offsetOverflow
  /-- A device has no buffer of a handle. -/
  | unknownHandle (handle : Handle)
  /-- A device has no syncpoint of an index. -/
  | noSyncpoint (index : Word)
  /-- No backend could be opened. -/
  | noBackend
  /-- A device failed for a reason of its own. -/
  | device (operation : String) (code : Int) (message : String)
  deriving DecidableEq, Repr

namespace Error

/-- A buffer, as messages name it. -/
def handleText (handle : Handle) : String :=
  "#" ++ toString handle.toNat

/-- The message of an error. -/
def message : Error → String
  | allocationFailed size reason =>
    "device could not allocate " ++ toString size.toNat ++ " bytes: " ++ reason
  | zeroSize => "buffer objects must not be empty"
  | windowOutOfBounds offset length available =>
    "wrap out of bounds: offset=" ++ toString offset.toNat ++ " len=" ++ toString length.toNat ++
      " available=" ++ toString available.toNat
  | rangeOutOfBounds offset length size =>
    "range out of bounds: offset=" ++ toString offset.toNat ++ " len=" ++ toString length.toNat ++
      " size=" ++ toString size.toNat
  | misalignedOffset offset alignment =>
    "offset " ++ toString offset.toNat ++ " is not aligned to " ++ toString alignment.toNat ++
      " bytes"
  | notMapped handle => "buffer object " ++ handleText handle ++ " is not mapped"
  | pushBufferOverflow capacity => "pushbuffer is full (" ++ toString capacity ++ " words)"
  | noPushBuffer index => "job has no pushbuffer at index " ++ toString index
  | invalidState state expected => "job is " ++ state.label ++ ", expected " ++ expected
  | emptyJob => "job has no pushbuffers"
  | overlappingRelocation handle offset =>
    "two relocations patch word " ++ Text.Hexadecimal.prefixed 1 offset.toNat ++
      " of buffer object " ++ handleText handle
  | offsetOverflow => "offset arithmetic overflow"
  | unknownHandle handle => "unknown buffer object handle " ++ handleText handle
  | noSyncpoint index => "syncpoint " ++ toString index.toNat ++ " is not available"
  | noBackend => "no device backend could be opened"
  | device operation code message =>
    "device " ++ operation ++ " failed (" ++ toString code ++ "): " ++ message

/-- The device is to blame, and not the caller. -/
def isDeviceFailure : Error → Bool
  | allocationFailed .. => true
  | noBackend => true
  | device .. => true
  | _ => false

end Error

/-- The sum of two positions, unless it does not fit. -/
def checkedAdd (first second : UInt64) : Except Error UInt64 :=
  if UInt64.size ≤ first.toNat + second.toNat then .error .offsetOverflow else .ok (first + second)

/-- There is no sum that does not fit. -/
theorem checkedAdd_of_le {first second : UInt64}
    (overflow : UInt64.size ≤ first.toNat + second.toNat) :
    checkedAdd first second = .error .offsetOverflow :=
  if_pos overflow

/-- A sum that fits is given. -/
theorem checkedAdd_of_lt {first second : UInt64}
    (fits : first.toNat + second.toNat < UInt64.size) :
    checkedAdd first second = .ok (first + second) :=
  if_neg (Nat.not_le.mpr fits)

/-- Checks that a range lies within a size. -/
def checkRange (offset length size : UInt64) : Except Error Unit :=
  if UInt64.size ≤ offset.toNat + length.toNat then .error .offsetOverflow
  else if size.toNat < offset.toNat + length.toNat then
    .error (.rangeOutOfBounds offset length size)
  else .ok ()

/-- A range is accepted exactly when it ends within the size. -/
theorem checkRange_eq_ok_iff (offset length size : UInt64) :
    checkRange offset length size = .ok () ↔ offset.toNat + length.toNat ≤ size.toNat := by
  have bound := size.toNat_lt
  unfold checkRange UInt64.size
  split
  · simp only [reduceCtorEq, false_iff]
    omega
  · split
    · simp only [reduceCtorEq, false_iff]
      omega
    · simp only [true_iff]
      omega

end HostChannel
