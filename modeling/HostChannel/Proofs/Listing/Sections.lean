import HostChannel.JobListing
import HostChannel.Proofs.Listing.Lines
import HostChannel.Proofs.PushBuffer

/-!
# Sections of a listing

The listing of a job is one section behind the other. A section is read off its pushbuffer and the
memory of the pushbuffer's allocation: the title says where the words start in the allocation, and
behind it stands the listing that the words have by themselves, so nothing is carried over from the
section before.
-/

namespace HostChannel

namespace PushBuffer

/-- The words that memory holds in the range of a pushbuffer. -/
def held (simulator : Simulator) (pushbuffer : PushBuffer) : List Word :=
  (simulator.contents pushbuffer.buffer.handle).readWords pushbuffer.origin pushbuffer.length

/-- The section of a pushbuffer in a listing: a title with its number, its allocation, where its
words start in the allocation and how many words and relocations it has, and the listing of its
words. -/
def listed (simulator : Simulator) (index : Nat) (pushbuffer : PushBuffer) : String :=
  "; pushbuffer " ++ toString index ++ ": bo " ++ Error.handleText pushbuffer.buffer.handle ++
    " +" ++ Text.Hexadecimal.prefixed 1 pushbuffer.origin ++ ", " ++ toString pushbuffer.length ++
    " words, " ++ toString pushbuffer.relocations.length ++ " relocations\n" ++
    Listing.text (pushbuffer.held simulator)

/-- The start of a sound pushbuffer is counted from the start of the allocation without wrapping
around. -/
theorem Sound.toNat_start {pushbuffer : PushBuffer} (sound : pushbuffer.Sound) :
    (pushbuffer.buffer.offset + pushbuffer.start).toNat = pushbuffer.origin := by
  have first : pushbuffer.start.toNat = pushbuffer.start.toNat + 4 * 0 := by omega
  have start := sound.toNat_fromOrigin (Nat.zero_le _) first
  rwa [Nat.mul_zero, Nat.add_zero] at start

/-- So a section is a title and the listing of the words held. -/
theorem Sound.listed_eq {pushbuffer : PushBuffer} (sound : pushbuffer.Sound)
    (simulator : Simulator) (index : Nat) :
    Job.sectionText index pushbuffer ++ Listing.text (pushbuffer.held simulator) =
      pushbuffer.listed simulator index := by
  unfold Job.sectionText listed
  rw [sound.toNat_start]

end PushBuffer

namespace Job

/-- The sections of pushbuffers, numbered from zero on. -/
def sections (simulator : Simulator) (pushbuffers : List PushBuffer) : String :=
  String.join (pushbuffers.zipIdx.map fun (pushbuffer, index) => pushbuffer.listed simulator index)

/-- The sections of sound pushbuffers are appended one behind the other, and reading the words never
fails. -/
theorem appendSections_apply {pushbuffers : List PushBuffer}
    (sound : ∀ pushbuffer ∈ pushbuffers, pushbuffer.Sound) (text : String) (index : Nat)
    (device : Instrumented Simulator) :
    appendSections text index pushbuffers device =
      (.ok (text ++ String.join ((pushbuffers.zipIdx index).map fun (pushbuffer, index) =>
        pushbuffer.listed device.inner index)), device) := by
  induction pushbuffers generalizing text index with
  | nil =>
    rw [List.zipIdx_nil, List.map_nil, String.join_nil, String.append_empty]
    rfl
  | cons pushbuffer rest ih =>
    obtain ⟨first, others⟩ := List.forall_mem_cons.mp sound
    have read := PushBuffer.words_apply first device
    have appended : Listing.append (text ++ sectionText index pushbuffer)
        (Listing.lines (pushbuffer.held device.inner)) =
          text ++ pushbuffer.listed device.inner index := by
      rw [Listing.append_eq, String.append_assoc, ← first.listed_eq]
      rfl
    refine (Action.bind_apply_of_ok read _).trans ?_
    change appendSections (Listing.append (text ++ sectionText index pushbuffer)
      (Listing.lines (pushbuffer.held device.inner))) (index + 1) rest device = _
    rw [appended, ih others, List.zipIdx_cons, List.map_cons, String.join_cons,
      String.append_assoc]

/-- Listing a job of sound pushbuffers succeeds, and gives its sections. -/
theorem listing_apply {job : Job} (sound : ∀ pushbuffer ∈ job.pushbuffers, pushbuffer.Sound)
    (device : Instrumented Simulator) :
    job.listing device = (.ok (sections device.inner job.pushbuffers), device) := by
  rw [listing, appendSections_apply sound, String.empty_append, sections]

end Job

end HostChannel
