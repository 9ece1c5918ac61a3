import HostChannel.Proofs.Job.Standing
import HostChannel.Proofs.Relocation

/-!
# What memory shows of a job

Until a device accepts a job, memory shows a placeholder for each address that was pushed, and from
then on the address that was put in. `Entry.shown` says so of an entry, by the state of the job, and
`AllShow` of all that was pushed to a job. An address is counted from where its target was handed
out, live or not; so what memory shows does not change when the target is released.
-/

namespace HostChannel

open JobState (sealed)

/-- A live buffer was handed out at its address. -/
theorem Simulator.extent?_of_address? {simulator : Simulator} {handle : Handle} {address : UInt64}
    (found : simulator.address? handle = some address) :
    ∃ size, simulator.extent? handle = some (address, size) := by
  obtain ⟨buffer, live, rfl⟩ := Option.map_eq_some_iff.mp found
  exact ⟨buffer.size, by rw [extent?, (Option.filter_eq_some_iff.mp live).1, Option.map_some]⟩

namespace Entry

/-- The word that a device puts in: for an address, that of the position in the target, shifted by
the shift modulo the number of bits of an address. -/
def patched (simulator : Simulator) : Entry → Option Word
  | .word value => some value
  | .address target offset shift =>
    (simulator.extent? target.handle).map fun extent =>
      UInt32.ofNat ((extent.1.toNat + target.offset.toNat + offset.toNat) >>> (shift.toNat % 64))

/-- The word that memory shows while the job is in the state. -/
def shown (state : JobState) (simulator : Simulator) (entry : Entry) : Option Word :=
  if state ∈ sealed then entry.patched simulator else some entry.written

/-- Before the acceptance memory shows what was written. -/
theorem shown_of_early {state : JobState} (early : state ∉ sealed) (simulator : Simulator)
    (entry : Entry) : entry.shown state simulator = some entry.written :=
  if_neg early

/-- From then on it shows what was put in. -/
theorem shown_of_sealed {state : JobState} (past : state ∈ sealed) (simulator : Simulator)
    (entry : Entry) : entry.shown state simulator = entry.patched simulator :=
  if_pos past

/-- What is shown stays, as long as the job is not accepted and buffers stay where they were handed
out. -/
theorem shown_kept {first second : JobState} (standing : second ∈ sealed ↔ first ∈ sealed)
    {simulator after : Simulator}
    (extents : ∀ handle extent, simulator.extent? handle = some extent →
      after.extent? handle = some extent) {entry : Entry} {word : Word}
    (shows : entry.shown first simulator = some word) : entry.shown second after = some word := by
  by_cases past : first ∈ sealed
  · rw [shown_of_sealed past] at shows
    rw [shown_of_sealed (standing.mpr past)]
    cases entry with
    | word value => exact shows
    | address target offset shift =>
      obtain ⟨extent, found, rfl⟩ := Option.map_eq_some_iff.mp shows
      rw [patched, extents _ _ found, Option.map_some]
  · rw [shown_of_early past] at shows
    rw [shown_of_early fun member => past (standing.mp member)]
    exact shows

end Entry

namespace PushBuffer

/-- Memory shows the entries in the words of the pushbuffer while its job is in the state. -/
structure Shows (state : JobState) (simulator : Simulator) (pushbuffer : PushBuffer)
    (entries : List Entry) : Prop where
  /-- There are as many words as entries. -/
  length : pushbuffer.length = entries.length
  /-- The words are those shown. -/
  words : ((simulator.contents pushbuffer.buffer.handle).readWords pushbuffer.origin
    pushbuffer.length).map some = entries.map (Entry.shown state simulator)
  /-- The relocations are those of the entries. -/
  relocations : pushbuffer.relocations = recorded pushbuffer.start 0 entries
  /-- The entries are sound. -/
  sound : ∀ entry ∈ entries, entry.Sound

/-- Before the acceptance the entries are shown where they are transcribed. -/
theorem shows_iff_of_early {state : JobState} (early : state ∉ sealed) {simulator : Simulator}
    {pushbuffer : PushBuffer} {entries : List Entry} :
    pushbuffer.Shows state simulator entries ↔ pushbuffer.Transcribes simulator entries := by
  have written : entries.map (Entry.shown state simulator) =
      (entries.map Entry.written).map some := by
    rw [List.map_map]
    exact List.map_congr_left fun entry _ => entry.shown_of_early early simulator
  have same : ∀ words : List Word, words.map some = entries.map (Entry.shown state simulator) ↔
      words = entries.map Entry.written := by
    intro words
    rw [written]
    exact List.map_inj_right fun _ _ => Option.some.inj
  exact ⟨fun shows => ⟨shows.length, (same _).mp shows.words, shows.relocations, shows.sound⟩,
    fun transcribes => ⟨transcribes.length, (same _).mpr transcribes.words,
      transcribes.relocations, transcribes.sound⟩⟩

/-- Words that stay as they are show what they did. -/
theorem Shows.kept {first second : JobState} {simulator after : Simulator}
    {pushbuffer : PushBuffer} {entries : List Entry}
    (shows : pushbuffer.Shows first simulator entries)
    (standing : second ∈ sealed ↔ first ∈ sealed)
    (extents : ∀ handle extent, simulator.extent? handle = some extent →
      after.extent? handle = some extent)
    (same : (after.contents pushbuffer.buffer.handle).readWords pushbuffer.origin
        pushbuffer.length =
      (simulator.contents pushbuffer.buffer.handle).readWords pushbuffer.origin
        pushbuffer.length) :
    pushbuffer.Shows second after entries := by
  have still : entries.map (Entry.shown second after) =
      entries.map (Entry.shown first simulator) := by
    refine List.map_congr_left fun entry member => ?_
    have listed : entry.shown first simulator ∈ entries.map (Entry.shown first simulator) :=
      List.mem_map_of_mem member
    rw [← shows.words] at listed
    obtain ⟨word, -, given⟩ := List.mem_map.mp listed
    rw [← given, Entry.shown_kept standing extents given.symm]
  exact { shows with words := by rw [same, shows.words, still] }

end PushBuffer

/-- Memory shows what was pushed to the pushbuffers, in each of them the entries at its place. -/
structure AllShow (state : JobState) (simulator : Simulator) (pushbuffers : List PushBuffer)
    (transcript : List (List Entry)) : Prop where
  /-- There are as many pushbuffers as there are lists of entries. -/
  length : pushbuffers.length = transcript.length
  /-- Each shows the entries at its place. -/
  each : ∀ (index : Nat) (pushbuffer : PushBuffer) (entries : List Entry),
    pushbuffers[index]? = some pushbuffer → transcript[index]? = some entries →
      pushbuffer.Shows state simulator entries

section Resolution

variable {simulator : Simulator} {pushbuffers : List PushBuffer} {transcript : List (List Entry)}

/-- Before the acceptance all that was pushed is shown where it is transcribed. -/
theorem allShow_iff_of_early {state : JobState} (early : state ∉ sealed) :
    AllShow state simulator pushbuffers transcript ↔
      AllTranscribe simulator pushbuffers transcript :=
  ⟨fun shows => ⟨shows.length, fun index pushbuffer entries found written =>
      (PushBuffer.shows_iff_of_early early).mp (shows.each index pushbuffer entries found written)⟩,
    fun holds => ⟨holds.length, fun index pushbuffer entries found written =>
      (PushBuffer.shows_iff_of_early early).mpr (holds.each index pushbuffer entries found written)⟩⟩

/-- Words that stay as they are show what they did. -/
theorem AllShow.kept {first second : JobState}
    (shows : AllShow first simulator pushbuffers transcript)
    (standing : second ∈ sealed ↔ first ∈ sealed) {after : Simulator}
    (extents : ∀ handle extent, simulator.extent? handle = some extent →
      after.extent? handle = some extent)
    (same : ∀ pushbuffer ∈ pushbuffers,
      (after.contents pushbuffer.buffer.handle).readWords pushbuffer.origin pushbuffer.length =
        (simulator.contents pushbuffer.buffer.handle).readWords pushbuffer.origin
          pushbuffer.length) :
    AllShow second after pushbuffers transcript :=
  ⟨shows.length, fun index pushbuffer entries found written =>
    (shows.each index pushbuffer entries found written).kept standing extents
      (same pushbuffer (List.mem_of_getElem? found))⟩

/-- Where all patches of a job have been applied, memory shows what was pushed as it shows it from
the acceptance on. -/
theorem Resolving.allShow {patches : List Patch} (resolving : Resolving pushbuffers transcript patches)
    (accepted : ∀ patch ∈ patches, simulator.Holds patch.source patch.sourceOffset.toNat 4 ∧
      simulator.Holds patch.target patch.targetOffset.toNat 0) (addressed : simulator.Addressed)
    (holds : AllTranscribe simulator pushbuffers transcript)
    (apart : pushbuffers.Pairwise PushBuffer.Apart) {after : Simulator}
    (contents : ∀ handle,
      after.contents handle = (patches.foldl Simulator.patched simulator).contents handle)
    (extents : ∀ handle extent, simulator.extent? handle = some extent →
      after.extent? handle = some extent) {state : JobState} (past : state ∈ sealed) :
    AllShow state after pushbuffers transcript := by
  refine ⟨holds.length, fun index pushbuffer entries found written => ?_⟩
  have transcribes := holds.each index pushbuffer entries found written
  have patched : entries.map (Entry.shown state after) = entries.map (Entry.patched after) :=
    List.map_congr_left fun entry _ => entry.shown_of_sealed past after
  refine ⟨transcribes.length, ?_, transcribes.relocations, transcribes.sound⟩
  rw [patched, contents]
  apply resolving.words_of_addresses accepted holds apart found written (fun _ => rfl)
  intro place target offset shift pushed
  obtain ⟨start, live, placed⟩ :=
    resolving.word_address_mod accepted addressed ⟨index, entries, found, written, pushed⟩
  obtain ⟨size, extent⟩ := Simulator.extent?_of_address? live
  rw [placed, Entry.patched, extents _ _ extent, Option.map_some]

end Resolution

end HostChannel
