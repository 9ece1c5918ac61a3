import HostChannel.Proofs.Listing.Sections
import HostChannel.Proofs.Session.Displays

/-!
# Listings of jobs along a session

The listing of a job never fails, whatever has become of the job: it has a section for each
pushbuffer, with the words that memory holds in its range. If nobody else wrote these, they are the
words that were pushed, with a placeholder for each address until a device accepts the job, and the
address from then on.
-/

namespace HostChannel

/-- The entry asks for an address. -/
def Entry.isAddress : Entry → Bool
  | .word _ => false
  | .address .. => true

/-- There is a relocation for each address. -/
theorem length_recorded (start : UInt64) (index : Nat) (entries : List Entry) :
    (recorded start index entries).length = entries.countP Entry.isAddress := by
  induction entries generalizing index with
  | nil => rfl
  | cons entry rest ih =>
    cases entry with
    | word value => rw [recorded, ih, List.countP_cons_of_neg Bool.false_ne_true]
    | address target offset shift =>
      rw [recorded, List.length_cons, ih, List.countP_cons_of_pos rfl]

namespace Session

/-- Listing a job of sound pushbuffers gives its sections, and changes nothing. -/
theorem list_perform {name : String} {session : Session} {job : Job}
    (found : session.jobs[name]? = some job)
    (sound : ∀ pushbuffer ∈ job.pushbuffers, pushbuffer.Sound) :
    perform (.job (.list name)) session =
      (.ok (.text (Job.sections session.simulator job.pushbuffers)), session) := by
  have read : onDevice job.listing session =
      (.ok (Job.sections session.simulator job.pushbuffers), session) :=
    onDevice_run (Job.listing_apply sound session.device)
  exact (Action.bind_apply_of_ok (find_of_some found) _).trans (Action.bind_apply_of_ok read _)

/-- Wherever a session has come, and whatever has become of a job, the listing of the job succeeds
and has a section for each pushbuffer with the words in its range of memory. If nobody else wrote
the words of the job, and its pushbuffers are apart, these are what was pushed, in order: with a
placeholder for each address before a device has accepted the job, and with the address afterwards. -/
theorem job_listing_shows_memory (configuration : Configuration) {operations : List Operation}
    (plain : ∀ operation ∈ operations, operation.plain = true) {name : String} {job : Job}
    (found : ((initial configuration).run operations).jobs[name]? = some job) :
    let session := (initial configuration).run operations
    let pushed := transcript name (initial configuration) operations []
    perform (.job (.list name)) session =
        (.ok (.text (Job.sections session.simulator job.pushbuffers)), session) ∧
      (UnwrittenBy name (initial configuration) operations →
        job.pushbuffers.Pairwise PushBuffer.Apart →
          job.pushbuffers.length = pushed.length ∧
            ∀ (index : Nat) (pushbuffer : PushBuffer) (entries : List Entry),
              job.pushbuffers[index]? = some pushbuffer → pushed[index]? = some entries →
                pushbuffer.length = entries.length ∧
                  pushbuffer.relocations.length = entries.countP Entry.isAddress ∧
                  (job.state ∉ JobState.sealed →
                    pushbuffer.held session.simulator = entries.map Entry.written) ∧
                  (job.state ∈ JobState.sealed →
                    (pushbuffer.held session.simulator).map some =
                      entries.map (Entry.patched session.simulator))) := by
  intro session pushed
  obtain ⟨ledger, booked, -⟩ := grounded_run plain (grounded_initial configuration)
  refine ⟨list_perform found (booked.sound found), fun unwritten apart => ?_⟩
  have start : Displays name (initial configuration) [] :=
    (displays_iff_of_early fun job found => absurd found (by simp [initial])).mpr
      (holds_initial configuration name)
  have shows := displays_run plain (refl_of Simulator.Reaches _) (grounded_initial configuration)
    start unwritten job found apart
  refine ⟨shows.length, fun index pushbuffer entries listed written => ?_⟩
  have shown := shows.each index pushbuffer entries listed written
  refine ⟨shown.length, ?_, fun early => ?_, fun past => ?_⟩
  · rw [shown.relocations, length_recorded]
  · exact ((PushBuffer.shows_iff_of_early early).mp shown).words
  · rw [PushBuffer.held, shown.words]
    exact List.map_congr_left fun entry _ => entry.shown_of_sealed past _

/-- A device that executes nothing until it is told to. -/
def idle : Configuration :=
  ⟨.automatic, .standard, ⟨.deferred, 1, 1⟩⟩

/-- The job on windows of windows, submitted, flushed and waited for without success. -/
def timedOutOperations : List Operation :=
  nestedOperations ++
    [.job (.submit "client" "job"), .job (.flush "client" "job"),
      .job (.waitJob "client" "job" .zero)]

/-- The listing of that job, with a word for the first address and lines for the second. -/
def nestedText (address lines : String) : String :=
  "; pushbuffer 0: bo #1 +0x148, 4 words, 1 relocations\n" ++
    "0000: 00000007  SETCL offset=0x000 class=0x00 mask=0x07\n" ++
    "0001: " ++ address ++ "      class0x0[0x000] <- 0x" ++ address ++ "\n" ++
    "0002: 00000001      class0x0[0x001] <- 0x00000001\n" ++
    "0003: 00000002      class0x0[0x002] <- 0x00000002\n" ++
    "; pushbuffer 1: bo #1 +0x0, 1 words, 1 relocations\n" ++ lines

/-- The job is listed with placeholders while it is being built, and with its addresses when a wait
for it has timed out. -/
theorem timed_out_job_listed :
    (perform (.job (.list "job")) ((initial idle).run nestedOperations)).1 =
        .ok (.text (nestedText "deadbeef" "0000: deadbeef  ??? opcode=0xd\n")) ∧
      (perform (.job (.list "job")) ((initial idle).run timedOutOperations)).1 =
        .ok (.text (nestedText "00400019" ("0000: 40000140  IMM offset=0x000 data=0x0140\n" ++
          "                    class0x0[0x000] <- 0x00000140\n"))) ∧
      ∃ job, ((initial idle).run timedOutOperations).jobs["job"]? = some job ∧
        job.state = .timedOut ∧
        ∀ (index : Nat) (pushbuffer : PushBuffer) (entries : List Entry),
          job.pushbuffers[index]? = some pushbuffer →
            (transcript "job" (initial idle) timedOutOperations [])[index]? = some entries →
              (pushbuffer.held ((initial idle).run timedOutOperations).simulator).map some =
                entries.map (Entry.patched ((initial idle).run timedOutOperations).simulator) := by
  have unwritten : UnwrittenBy "job" (initial idle) timedOutOperations := by decide +kernel
  have built : (((initial idle).run nestedOperations).jobs["job"]?.map fun job =>
      Job.sections ((initial idle).run nestedOperations).simulator job.pushbuffers) =
        some (nestedText "deadbeef" "0000: deadbeef  ??? opcode=0xd\n") := by decide +kernel
  have late : (((initial idle).run timedOutOperations).jobs["job"]?.map fun job =>
      Job.sections ((initial idle).run timedOutOperations).simulator job.pushbuffers) =
        some (nestedText "00400019" ("0000: 40000140  IMM offset=0x000 data=0x0140\n" ++
          "                    class0x0[0x000] <- 0x00000140\n")) := by decide +kernel
  have last : ∀ job ∈ ((initial idle).run timedOutOperations).jobs["job"]?,
      job.state = .timedOut ∧ job.pushbuffers.Pairwise PushBuffer.Apart := by decide +kernel
  obtain ⟨young, foundYoung, placeholders⟩ := Option.map_eq_some_iff.mp built
  obtain ⟨old, foundOld, addresses⟩ := Option.map_eq_some_iff.mp late
  obtain ⟨state, apart⟩ := last old foundOld
  obtain ⟨listedYoung, -⟩ := job_listing_shows_memory idle (by decide) foundYoung
  obtain ⟨listedOld, shows⟩ := job_listing_shows_memory idle (by decide) foundOld
  refine ⟨?_, ?_, old, foundOld, state, fun index pushbuffer entries listed written => ?_⟩
  · rw [listedYoung, placeholders]
  · rw [listedOld, addresses]
  · obtain ⟨-, -, -, patched⟩ := (shows unwritten apart).2 index pushbuffer entries listed written
    exact patched (by simp [state, JobState.sealed])

end Session

end HostChannel
