import HostChannel.Proofs.Transcript

/-!
# Pushbuffers that are apart

Pushbuffers are apart when no word of one is a word of another. What is pushed to one of them
then leaves the words of all others, so pushbuffers that hold the entries of a transcript, place
by place, go on to do so. It is enough that they are apart once all is pushed: they were so
before anything more was pushed.
-/

namespace HostChannel

namespace PushBuffer

/-- No word of one pushbuffer is a word of the other. -/
def Apart (first second : PushBuffer) : Prop :=
  first.buffer.handle = second.buffer.handle →
    first.length = 0 ∨ second.length = 0 ∨
      first.origin + 4 * first.length ≤ second.origin ∨
      second.origin + 4 * second.length ≤ first.origin

instance (first second : PushBuffer) : Decidable (first.Apart second) :=
  inferInstanceAs (Decidable (_ → _))

/-- Being apart is mutual. -/
theorem Apart.symm {first second : PushBuffer} (apart : first.Apart second) :
    second.Apart first := by
  intro same
  have ranges := apart same.symm
  omega

/-- A pushbuffer that is apart after something was pushed was so before. -/
theorem Apart.of_pushed {first second : PushBuffer} {entries : List Entry}
    (apart : (first.pushed entries).Apart second) : first.Apart second := by
  intro same
  have ranges := apart same
  simp only [pushed, origin] at ranges ⊢
  omega

/-- Pushbuffers at different places of a list that are apart from each other are apart. -/
theorem apart_of_pairwise {pushbuffers : List PushBuffer} (apart : pushbuffers.Pairwise Apart)
    {first second : Nat} (different : first ≠ second) {one other : PushBuffer}
    (foundOne : pushbuffers[first]? = some one) (foundOther : pushbuffers[second]? = some other) :
    one.Apart other := by
  obtain ⟨insideOne, rfl⟩ := List.getElem?_eq_some_iff.mp foundOne
  obtain ⟨insideOther, rfl⟩ := List.getElem?_eq_some_iff.mp foundOther
  have all := List.pairwise_iff_getElem.mp apart
  rcases Nat.lt_or_gt_of_ne different with before | behind
  · exact all first second insideOne insideOther before
  · exact (all second first insideOther insideOne behind).symm

/-- Pushbuffers that are apart after something was pushed to one of them were so before. -/
theorem pairwise_of_set_pushed {pushbuffers : List PushBuffer} {index : Nat}
    {pushbuffer : PushBuffer} (found : pushbuffers[index]? = some pushbuffer)
    {entries : List Entry}
    (apart : (pushbuffers.set index (pushbuffer.pushed entries)).Pairwise Apart) :
    pushbuffers.Pairwise Apart := by
  obtain ⟨inside, rfl⟩ := List.getElem?_eq_some_iff.mp found
  rw [List.pairwise_iff_getElem] at apart ⊢
  intro first second insideFirst insideSecond before
  have ranges := apart first second (by rwa [List.length_set]) (by rwa [List.length_set]) before
  rw [List.getElem_set, List.getElem_set] at ranges
  by_cases atFirst : index = first
  · subst atFirst
    rw [if_pos rfl, if_neg (by omega)] at ranges
    exact ranges.of_pushed
  · rw [if_neg atFirst] at ranges
    by_cases atSecond : index = second
    · subst atSecond
      rw [if_pos rfl] at ranges
      exact ranges.symm.of_pushed.symm
    · rwa [if_neg atSecond] at ranges

/-- What is pushed to a pushbuffer leaves the words of one that is apart. -/
theorem Apart.words_kept {first second : PushBuffer} {entries : List Entry}
    (apart : (first.pushed entries).Apart second) {simulator : Simulator}
    (present : first.buffer.handle ∈ simulator.buffers) :
    ((simulator.writeBuffer first.buffer.handle (first.origin + 4 * first.length)
        (bytesWritten entries)).contents second.buffer.handle).readWords second.origin
          second.length =
      (simulator.contents second.buffer.handle).readWords second.origin second.length := by
  rw [Simulator.contents_writeBuffer _ _ _ _ _ present]
  by_cases same : second.buffer.handle = first.buffer.handle
  · have ranges := apart same.symm
    have bytes : (bytesWritten entries).length = 4 * entries.length := by
      rw [bytesWritten, Memory.length_flatMap_bytes, List.length_map]
    simp only [pushed, origin] at ranges
    rw [if_pos same]
    rcases ranges with none | empty | behind | before
    · have nothing : entries = [] := List.eq_nil_of_length_eq_zero (by omega)
      have silent : bytesWritten entries = [] := by rw [nothing]; rfl
      rw [silent, Memory.write_nil]
    · rw [empty, Memory.readWords_zero, Memory.readWords_zero]
    · apply Memory.readWords_write_of_outside
      simp only [origin]
      omega
    · apply Memory.readWords_write_of_outside
      simp only [origin]
      omega
  · rw [if_neg same]

end PushBuffer

/-- Every pushbuffer of a list holds the entries at its place. -/
structure AllTranscribe (simulator : Simulator) (pushbuffers : List PushBuffer)
    (transcript : List (List Entry)) : Prop where
  /-- There are as many pushbuffers as there are lists of entries. -/
  length : pushbuffers.length = transcript.length
  /-- Each holds the entries at its place. -/
  each : ∀ (index : Nat) (pushbuffer : PushBuffer) (entries : List Entry),
    pushbuffers[index]? = some pushbuffer → transcript[index]? = some entries →
      pushbuffer.Transcribes simulator entries

namespace AllTranscribe

variable {simulator : Simulator} {pushbuffers : List PushBuffer} {transcript : List (List Entry)}

/-- A new pushbuffer holds nothing. -/
theorem appended (holds : AllTranscribe simulator pushbuffers transcript) {opened : PushBuffer}
    (length : opened.length = 0) (relocations : opened.relocations = []) :
    AllTranscribe simulator (pushbuffers ++ [opened]) (transcript ++ [[]]) := by
  have same := holds.length
  refine ⟨by rw [List.length_append, List.length_append, same]; rfl, ?_⟩
  intro index pushbuffer entries found written
  by_cases inside : index < pushbuffers.length
  · rw [List.getElem?_append_left inside] at found
    rw [List.getElem?_append_left (by omega)] at written
    exact holds.each index pushbuffer entries found written
  · rw [List.getElem?_append_right (by omega)] at found
    rw [List.getElem?_append_right (by omega)] at written
    obtain rfl := List.mem_singleton.mp (List.mem_of_getElem? found)
    obtain rfl := List.mem_singleton.mp (List.mem_of_getElem? written)
    exact PushBuffer.transcribes_nil simulator length relocations

/-- Words that stay as they are stay transcribed. -/
theorem kept (holds : AllTranscribe simulator pushbuffers transcript) {after : Simulator}
    (same : ∀ pushbuffer ∈ pushbuffers,
      (after.contents pushbuffer.buffer.handle).readWords pushbuffer.origin pushbuffer.length =
        (simulator.contents pushbuffer.buffer.handle).readWords pushbuffer.origin
          pushbuffer.length) :
    AllTranscribe after pushbuffers transcript :=
  ⟨holds.length, fun index pushbuffer entries found written =>
    (holds.each index pushbuffer entries found written).kept
      (same pushbuffer (List.mem_of_getElem? found))⟩

/-- What is pushed to one of the pushbuffers goes to the end of its entries. -/
theorem pushed (holds : AllTranscribe simulator pushbuffers transcript) {index : Nat}
    {pushbuffer : PushBuffer} (found : pushbuffers[index]? = some pushbuffer)
    (present : pushbuffer.buffer.handle ∈ simulator.buffers) {entries : List Entry}
    (sound : ∀ entry ∈ entries, entry.Sound)
    (apart : (pushbuffers.set index (pushbuffer.pushed entries)).Pairwise PushBuffer.Apart) :
    AllTranscribe
      (simulator.writeBuffer pushbuffer.buffer.handle
        (pushbuffer.origin + 4 * pushbuffer.length) (PushBuffer.bytesWritten entries))
      (pushbuffers.set index (pushbuffer.pushed entries))
      (transcript.modify index (· ++ entries)) := by
  refine ⟨by rw [List.length_set, List.length_modify, holds.length], ?_⟩
  intro place other written foundOther recorded
  have inside : index < pushbuffers.length := (List.getElem?_eq_some_iff.mp found).1
  have atIndex : (pushbuffers.set index (pushbuffer.pushed entries))[index]? =
      some (pushbuffer.pushed entries) := List.getElem?_set_self inside
  by_cases same : index = place
  · subst same
    obtain rfl := Option.some.inj (atIndex.symm.trans foundOther)
    rw [List.getElem?_modify_eq] at recorded
    obtain ⟨before, held, rfl⟩ := Option.map_eq_some_iff.mp recorded
    exact (holds.each index pushbuffer before found held).pushed present sound
  · have ranges := PushBuffer.apart_of_pairwise apart same atIndex foundOther
    rw [List.getElem?_set_ne same] at foundOther
    rw [List.getElem?_modify_ne _ _ same] at recorded
    exact (holds.each place other written foundOther recorded).kept (ranges.words_kept present)

end AllTranscribe

end HostChannel
