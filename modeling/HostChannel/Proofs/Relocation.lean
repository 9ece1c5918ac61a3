import HostChannel.Job
import HostChannel.Proofs.Apart
import HostChannel.Proofs.Simulator.Patching

/-!
# The patches of a job

What a job asks a device to patch is read off its pushbuffers' relocations. A patch names its
word and its target by positions in allocations, while pushbuffers and entries count from the
start of windows; `Patch.Resolves` says that the two agree. A job that is converted has such a
patch for each address pushed, and no others, and no two of them replace the same byte.
-/

namespace HostChannel

/-- The patch replaces the word at a place of a pushbuffer by the address of a position in a
target. -/
structure Patch.Resolves (patch : Patch) (pushbuffer : PushBuffer) (place : Nat) (target : Buffer)
    (offset : UInt64) (shift : Word) : Prop where
  /-- The word is in the pushbuffer's allocation. -/
  source : patch.source = pushbuffer.buffer.handle
  /-- It is the word at the place. -/
  word : patch.sourceOffset.toNat = pushbuffer.origin + 4 * place
  /-- The target is that of the address. -/
  handle : patch.target = target.handle
  /-- The position is counted from the start of the target's allocation. -/
  position : patch.targetOffset.toNat = target.offset.toNat + offset.toNat
  /-- The shift is that of the address. -/
  amount : patch.shift = shift

/-- Both patches replace the word at one position. -/
def Patch.SamePlace (first second : Patch) : Prop :=
  first.source = second.source ∧ first.sourceOffset = second.sourceOffset

namespace PushBuffer

/-- A position is a word exactly when it is small enough, and is that word then. -/
theorem toWord?_eq_ok {value : UInt64} {word : Word} (made : toWord? value = .ok word) :
    word.toNat = value.toNat := by
  simp only [toWord?] at made
  split at made
  · rename_i small
    obtain rfl := Except.ok.inj made
    rw [UInt64.toNat_toUInt32]
    exact Nat.mod_eq_of_lt small
  · contradiction

/-- The patch that a relocation asks for counts both positions from the start of allocations. -/
theorem patch?_eq_ok {pushbuffer : PushBuffer} {relocation : Relocation} {patch : Patch}
    (made : pushbuffer.patch? relocation = .ok patch) :
    patch.source = pushbuffer.buffer.handle ∧
      patch.sourceOffset.toNat = (pushbuffer.buffer.offset + relocation.sourceOffset).toNat ∧
      patch.target = relocation.target ∧
      patch.targetOffset.toNat = relocation.targetOffset.toNat ∧
      patch.shift = relocation.shift := by
  obtain ⟨sourceOffset, source, rest⟩ := Action.checks_eq_ok_iff.mp made
  obtain ⟨targetOffset, target, last⟩ := Action.checks_eq_ok_iff.mp rest
  obtain rfl := Except.ok.inj last
  exact ⟨rfl, toWord?_eq_ok source, rfl, toWord?_eq_ok target, rfl⟩

/-- The patch of an address that was pushed resolves it. -/
theorem resolves_of_patch? {pushbuffer : PushBuffer} (sound : pushbuffer.Sound)
    {simulator : Simulator} {entries : List Entry}
    (transcribes : pushbuffer.Transcribes simulator entries) {place : Nat} {target : Buffer}
    {offset : UInt64} {shift : Word} (found : entries[place]? = some (.address target offset shift))
    {patch : Patch}
    (made : pushbuffer.patch? ⟨pushbuffer.start + UInt64.ofNat (0 + place) * wordBytes,
      target.handle, target.offset + offset, shift⟩ = .ok patch) :
    patch.Resolves pushbuffer place target offset shift := by
  obtain ⟨source, sourceOffset, aim, targetOffset, amount⟩ := patch?_eq_ok made
  have inside : place < entries.length := (List.getElem?_eq_some_iff.mp found).1
  have within : 0 + place ≤ pushbuffer.capacity := by
    have length := transcribes.length
    have enough := sound.inside
    omega
  have reach : target.offset.toNat + offset.toNat < UInt64.size :=
    transcribes.sound _ (List.mem_of_getElem? found)
  refine ⟨source, ?_, aim, ?_, amount⟩
  · rw [sourceOffset, sound.toNat_fromOrigin within (sound.toNat_place within), Nat.zero_add]
  · rw [targetOffset, UInt64.toNat_add]
    exact Nat.mod_eq_of_lt reach

/-- Words of pushbuffers that are apart, and different words of one, share no byte. -/
theorem words_apart {pushbuffers : List PushBuffer} (apart : pushbuffers.Pairwise Apart)
    {first second : Nat} {one other : PushBuffer} (foundOne : pushbuffers[first]? = some one)
    (foundOther : pushbuffers[second]? = some other)
    (same : one.buffer.handle = other.buffer.handle) {place position : Nat}
    (inOne : place < one.length) (inOther : position < other.length)
    (different : one.origin + 4 * place ≠ other.origin + 4 * position) :
    one.origin + 4 * place + 4 ≤ other.origin + 4 * position ∨
      other.origin + 4 * position + 4 ≤ one.origin + 4 * place := by
  by_cases equal : first = second
  · subst equal
    obtain rfl := Option.some.inj (foundOne.symm.trans foundOther)
    omega
  · have ranges := apart_of_pairwise apart equal foundOne foundOther same
    omega

end PushBuffer

namespace Job

/-- A patch is added behind those that replace other words. -/
theorem addPatch_eq_ok {patches added : List Patch} {patch : Patch}
    (made : addPatch patches patch = .ok added) :
    added = patches ++ [patch] ∧ ∀ earlier ∈ patches, ¬ earlier.SamePlace patch := by
  simp only [addPatch] at made
  split at made
  · contradiction
  · rename_i free
    refine ⟨(Except.ok.inj made).symm, fun earlier member same => free ?_⟩
    rw [List.any_eq_true]
    exact ⟨earlier, member, by rw [same.1, same.2, beq_self_eq_true, beq_self_eq_true]; rfl⟩

/-- The patches that are made one after the other: each relocation's, behind those before, and
no two of the same word. -/
theorem foldlM_patches {relocations : List (PushBuffer × Relocation)} {before patches : List Patch}
    (made : relocations.foldlM (fun patches (pushbuffer, relocation) => do
      let patch ← pushbuffer.patch? relocation
      addPatch patches patch) before = .ok patches)
    (distinct : before.Pairwise fun first second => ¬ first.SamePlace second) :
    patches.Pairwise (fun first second => ¬ first.SamePlace second) ∧
      (∀ patch ∈ patches, patch ∈ before ∨
        ∃ entry ∈ relocations, entry.1.patch? entry.2 = .ok patch) ∧
      (∀ patch ∈ before, patch ∈ patches) ∧
      ∀ entry ∈ relocations, ∃ patch ∈ patches, entry.1.patch? entry.2 = .ok patch := by
  induction relocations generalizing before with
  | nil =>
    obtain rfl := Except.ok.inj made
    exact ⟨distinct, fun _ member => .inl member, fun _ member => member,
      fun _ member => absurd member List.not_mem_nil⟩
  | cons head rest ih =>
    obtain ⟨pushbuffer, relocation⟩ := head
    rw [List.foldlM_cons] at made
    obtain ⟨added, step, others⟩ := Action.checks_eq_ok_iff.mp made
    obtain ⟨patch, first, second⟩ := Action.checks_eq_ok_iff.mp step
    obtain ⟨rfl, apart⟩ := addPatch_eq_ok second
    have separate : (before ++ [patch]).Pairwise fun one other => ¬ one.SamePlace other :=
      List.pairwise_append.mpr ⟨distinct, List.pairwise_singleton _ _,
        fun earlier member other last => List.mem_singleton.mp last ▸ apart earlier member⟩
    obtain ⟨distinctAll, origins, kept, all⟩ := ih others separate
    refine ⟨distinctAll, fun other member => ?_, fun other member => ?_, ?_⟩
    · rcases origins other member with earlier | ⟨entry, listed, given⟩
      · rcases List.mem_append.mp earlier with old | new
        · exact .inl old
        · exact .inr ⟨_, List.mem_cons_self, List.mem_singleton.mp new ▸ first⟩
      · exact .inr ⟨entry, List.mem_cons_of_mem _ listed, given⟩
    · exact kept other (List.mem_append_left _ member)
    · intro entry member
      rcases List.mem_cons.mp member with rfl | later
      · exact ⟨patch, kept patch (List.mem_append_right _ List.mem_cons_self), first⟩
      · exact all entry later

/-- A relocation of a job is one of its pushbuffers'. -/
theorem mem_relocations {job : Job} {entry : PushBuffer × Relocation} :
    entry ∈ job.relocations ↔ entry.1 ∈ job.pushbuffers ∧ entry.2 ∈ entry.1.relocations := by
  obtain ⟨pushbuffer, relocation⟩ := entry
  rw [relocations, List.mem_flatMap]
  constructor
  · rintro ⟨other, listed, member⟩
    obtain ⟨found, recorded, same⟩ := List.mem_map.mp member
    obtain ⟨rfl, rfl⟩ := Prod.mk.inj same
    exact ⟨listed, recorded⟩
  · rintro ⟨listed, recorded⟩
    exact ⟨pushbuffer, listed, List.mem_map.mpr ⟨relocation, recorded, rfl⟩⟩

end Job

/-- An address was pushed to a pushbuffer of a list, as the entry at a place. -/
def AddressAt (pushbuffers : List PushBuffer) (transcript : List (List Entry))
    (pushbuffer : PushBuffer) (place : Nat) (target : Buffer) (offset : UInt64) (shift : Word) :
    Prop :=
  ∃ (index : Nat) (entries : List Entry), pushbuffers[index]? = some pushbuffer ∧
    transcript[index]? = some entries ∧ entries[place]? = some (.address target offset shift)

/-- The byte belongs to a word that stands for an address. -/
def Relocated (pushbuffers : List PushBuffer) (transcript : List (List Entry)) (handle : Handle)
    (position : Nat) : Prop :=
  ∃ pushbuffer place target offset shift,
    AddressAt pushbuffers transcript pushbuffer place target offset shift ∧
      pushbuffer.buffer.handle = handle ∧ pushbuffer.origin + 4 * place ≤ position ∧
        position < pushbuffer.origin + 4 * place + 4

/-- Patches that put in exactly the addresses of a transcript, each at its place. -/
structure Resolving (pushbuffers : List PushBuffer) (transcript : List (List Entry))
    (patches : List Patch) : Prop where
  /-- Each patch resolves an address. -/
  sound : ∀ patch ∈ patches, ∃ pushbuffer place target offset shift,
    AddressAt pushbuffers transcript pushbuffer place target offset shift ∧
      patch.Resolves pushbuffer place target offset shift
  /-- Each address is resolved by a patch. -/
  complete : ∀ pushbuffer place target offset shift,
    AddressAt pushbuffers transcript pushbuffer place target offset shift →
      ∃ patch ∈ patches, patch.Resolves pushbuffer place target offset shift
  /-- No byte is replaced twice. -/
  apart : patches.Pairwise Patch.Apart

section Resolution

variable {simulator : Simulator} {pushbuffers : List PushBuffer} {transcript : List (List Entry)}

/-- An address is at one of the words pushed. -/
theorem AddressAt.inside (holds : AllTranscribe simulator pushbuffers transcript)
    {pushbuffer : PushBuffer} {place : Nat} {target : Buffer} {offset : UInt64} {shift : Word}
    (address : AddressAt pushbuffers transcript pushbuffer place target offset shift) :
    place < pushbuffer.length := by
  obtain ⟨index, entries, found, written, listed⟩ := address
  rw [(holds.each index pushbuffer entries found written).length]
  exact (List.getElem?_eq_some_iff.mp listed).1

/-- The patches of a job put in exactly the addresses that were pushed. -/
theorem Job.resolving_patches {job : Job}
    (sound : ∀ pushbuffer ∈ job.pushbuffers, pushbuffer.Sound)
    (holds : AllTranscribe simulator job.pushbuffers transcript)
    (apart : job.pushbuffers.Pairwise PushBuffer.Apart) {patches : List Patch}
    (made : job.patches? = .ok patches) : Resolving job.pushbuffers transcript patches := by
  obtain ⟨distinct, origins, -, all⟩ := Job.foldlM_patches made List.Pairwise.nil
  have each : ∀ patch ∈ patches, ∃ pushbuffer place target offset shift,
      AddressAt job.pushbuffers transcript pushbuffer place target offset shift ∧
        patch.Resolves pushbuffer place target offset shift := by
    intro patch member
    obtain ⟨⟨pushbuffer, relocation⟩, listed, given⟩ :=
      (origins patch member).resolve_left List.not_mem_nil
    obtain ⟨inJob, recorded⟩ := Job.mem_relocations.mp listed
    obtain ⟨index, found⟩ := List.getElem?_of_mem inJob
    obtain ⟨entries, written⟩ : ∃ entries, transcript[index]? = some entries := by
      have inside := (List.getElem?_eq_some_iff.mp found).1
      rw [holds.length] at inside
      exact ⟨_, List.getElem?_eq_getElem inside⟩
    have transcribes := holds.each index pushbuffer entries found written
    simp only [transcribes.relocations] at recorded
    obtain ⟨place, target, offset, shift, pushed, rfl⟩ := mem_recorded.mp recorded
    exact ⟨pushbuffer, place, target, offset, shift, ⟨index, entries, found, written, pushed⟩,
      PushBuffer.resolves_of_patch? (sound pushbuffer inJob) transcribes pushed given⟩
  refine ⟨each, ?_, ?_⟩
  · rintro pushbuffer place target offset shift ⟨index, entries, found, written, pushed⟩
    have inJob := List.mem_of_getElem? found
    have transcribes := holds.each index pushbuffer entries found written
    have recorded : _ ∈ pushbuffer.relocations := transcribes.relocations ▸
      mem_recorded.mpr ⟨place, target, offset, shift, pushed, rfl⟩
    obtain ⟨patch, member, given⟩ := all (pushbuffer, _) (Job.mem_relocations.mpr ⟨inJob, recorded⟩)
    exact ⟨patch, member,
      PushBuffer.resolves_of_patch? (sound pushbuffer inJob) transcribes pushed given⟩
  · -- Words that are not the same are whole words away from each other.
    refine distinct.imp_of_mem fun {first second} inFirst inSecond different same => ?_
    obtain ⟨one, place, _, _, _, atOne, resolvesOne⟩ := each first inFirst
    obtain ⟨other, position, _, _, _, atOther, resolvesOther⟩ := each second inSecond
    have insideOne := atOne.inside holds
    have insideOther := atOther.inside holds
    obtain ⟨_, _, foundOne, -⟩ := atOne
    obtain ⟨_, _, foundOther, -⟩ := atOther
    rw [resolvesOne.word, resolvesOther.word]
    apply PushBuffer.words_apart apart foundOne foundOther _ insideOne insideOther
    · intro equal
      refine different ⟨same, UInt32.toNat.inj ?_⟩
      rw [resolvesOne.word, resolvesOther.word, equal]
    · rw [← resolvesOne.source, ← resolvesOther.source, same]

namespace Resolving

variable {patches : List Patch}

/-- A byte of no word that stands for an address is as before. -/
theorem byte_kept (resolving : Resolving pushbuffers transcript patches)
    (accepted : ∀ patch ∈ patches, simulator.Holds patch.source patch.sourceOffset.toNat 4 ∧
      simulator.Holds patch.target patch.targetOffset.toNat 0) {handle : Handle} {position : Nat}
    (outside : ¬ Relocated pushbuffers transcript handle position) :
    ((patches.foldl Simulator.patched simulator).contents handle).byte position =
      (simulator.contents handle).byte position := by
  apply Simulator.byte_foldl_patched fun patch member => (accepted patch member).1.present
  rintro patch member ⟨same, behind, before⟩
  obtain ⟨pushbuffer, place, target, offset, shift, address, resolves⟩ :=
    resolving.sound patch member
  rw [resolves.word] at behind before
  exact outside ⟨pushbuffer, place, target, offset, shift, address,
    resolves.source.symm.trans same, behind, before⟩

/-- The word that stands for an address is the address, shifted by the shift modulo the number of
bits of an address. -/
theorem word_address_mod (resolving : Resolving pushbuffers transcript patches)
    (accepted : ∀ patch ∈ patches, simulator.Holds patch.source patch.sourceOffset.toNat 4 ∧
      simulator.Holds patch.target patch.targetOffset.toNat 0) (addressed : simulator.Addressed)
    {pushbuffer : PushBuffer} {place : Nat} {target : Buffer} {offset : UInt64} {shift : Word}
    (address : AddressAt pushbuffers transcript pushbuffer place target offset shift) :
    ∃ start, simulator.address? target.handle = some start ∧
      ((patches.foldl Simulator.patched simulator).contents pushbuffer.buffer.handle).word
          (pushbuffer.origin + 4 * place) =
        UInt32.ofNat
          ((start.toNat + target.offset.toNat + offset.toNat) >>> (shift.toNat % 64)) := by
  obtain ⟨patch, member, resolves⟩ := resolving.complete _ _ _ _ _ address
  have present : ∀ other ∈ patches, other.source ∈ simulator.buffers :=
    fun other listed => (accepted other listed).1.present
  have placed := Simulator.word_foldl_patched present resolving.apart member
  obtain ⟨start, found, same⟩ := Simulator.patchedWord_eq_mod addressed (accepted patch member).2
  rw [found, Option.getD_some, same, resolves.source, resolves.word, resolves.position,
    resolves.amount, ← Nat.add_assoc] at placed
  exact ⟨start, resolves.handle ▸ found, placed⟩

/-- It is the address that was asked for if the shift is less than that number of bits. -/
theorem word_address (resolving : Resolving pushbuffers transcript patches)
    (accepted : ∀ patch ∈ patches, simulator.Holds patch.source patch.sourceOffset.toNat 4 ∧
      simulator.Holds patch.target patch.targetOffset.toNat 0) (addressed : simulator.Addressed)
    {pushbuffer : PushBuffer} {place : Nat} {target : Buffer} {offset : UInt64} {shift : Word}
    (shifts : shift.toNat < 64)
    (address : AddressAt pushbuffers transcript pushbuffer place target offset shift) :
    some (((patches.foldl Simulator.patched simulator).contents pushbuffer.buffer.handle).word
        (pushbuffer.origin + 4 * place)) =
      (Entry.address target offset shift).resolved simulator := by
  obtain ⟨start, found, placed⟩ := resolving.word_address_mod accepted addressed address
  rw [placed, Entry.resolved, found, Option.map_some, Nat.mod_eq_of_lt shifts]

/-- A word that was pushed as it is stays. -/
theorem word_kept (resolving : Resolving pushbuffers transcript patches)
    (accepted : ∀ patch ∈ patches, simulator.Holds patch.source patch.sourceOffset.toNat 4 ∧
      simulator.Holds patch.target patch.targetOffset.toNat 0)
    (holds : AllTranscribe simulator pushbuffers transcript)
    (apart : pushbuffers.Pairwise PushBuffer.Apart) {index : Nat} {pushbuffer : PushBuffer}
    {entries : List Entry} (found : pushbuffers[index]? = some pushbuffer)
    (written : transcript[index]? = some entries) {place : Nat} {value : Word}
    (pushed : entries[place]? = some (.word value)) :
    ((patches.foldl Simulator.patched simulator).contents pushbuffer.buffer.handle).word
        (pushbuffer.origin + 4 * place) =
      (simulator.contents pushbuffer.buffer.handle).word (pushbuffer.origin + 4 * place) := by
  apply Simulator.word_foldl_patched_of_away fun patch member => (accepted patch member).1.present
  intro patch member same
  obtain ⟨other, position, target, offset, shift, address, resolves⟩ :=
    resolving.sound patch member
  have inside : place < pushbuffer.length := by
    rw [(holds.each index pushbuffer entries found written).length]
    exact (List.getElem?_eq_some_iff.mp pushed).1
  have insideOther := address.inside holds
  obtain ⟨second, others, foundOther, writtenOther, listed⟩ := address
  rw [resolves.word]
  have shared : other.buffer.handle = pushbuffer.buffer.handle := resolves.source.symm.trans same
  refine (PushBuffer.words_apart apart foundOther found shared insideOther inside ?_)
  -- The entry at the place is a word, so it is no address.
  intro equal
  by_cases here : second = index
  · subst here
    obtain rfl := Option.some.inj (foundOther.symm.trans found)
    obtain rfl := Option.some.inj (writtenOther.symm.trans written)
    have twice : position = place := by omega
    rw [twice, pushed] at listed
    simp at listed
  · have ranges := PushBuffer.apart_of_pairwise apart here foundOther found shared
    omega

/-- After all patches, each pushbuffer has the words pushed, in order, and for each address whatever
the patches have left there. -/
theorem words_of_addresses (resolving : Resolving pushbuffers transcript patches)
    (accepted : ∀ patch ∈ patches, simulator.Holds patch.source patch.sourceOffset.toNat 4 ∧
      simulator.Holds patch.target patch.targetOffset.toNat 0)
    (holds : AllTranscribe simulator pushbuffers transcript)
    (apart : pushbuffers.Pairwise PushBuffer.Apart) {index : Nat} {pushbuffer : PushBuffer}
    {entries : List Entry} (found : pushbuffers[index]? = some pushbuffer)
    (written : transcript[index]? = some entries) {shown : Entry → Option Word}
    (words : ∀ value, shown (.word value) = some value)
    (addresses : ∀ place target offset shift,
      entries[place]? = some (.address target offset shift) →
        some (((patches.foldl Simulator.patched simulator).contents pushbuffer.buffer.handle).word
            (pushbuffer.origin + 4 * place)) = shown (.address target offset shift)) :
    (((patches.foldl Simulator.patched simulator).contents pushbuffer.buffer.handle).readWords
        pushbuffer.origin pushbuffer.length).map some = entries.map shown := by
  have transcribes := holds.each index pushbuffer entries found written
  apply List.ext_getElem?
  intro place
  rw [List.getElem?_map, List.getElem?_map, Memory.getElem?_readWords, transcribes.length]
  cases pushed : entries[place]? with
  | none => rw [if_neg (Nat.not_lt.mpr (List.getElem?_eq_none_iff.mp pushed))]; rfl
  | some entry =>
    have inside : place < entries.length := (List.getElem?_eq_some_iff.mp pushed).1
    rw [if_pos inside, Option.map_some, Option.map_some]
    cases entry with
    | word value =>
      have before : (entries.map Entry.written)[place]? = some value := by
        rw [List.getElem?_map, pushed]
        rfl
      rw [← transcribes.words, Memory.getElem?_readWords, transcribes.length, if_pos inside,
        Option.some.injEq] at before
      rw [resolving.word_kept accepted holds apart found written pushed, before, words]
    | address target offset shift => rw [addresses place target offset shift pushed]

/-- After all patches, each pushbuffer has the words pushed, in order, with the address for each
entry that asks for one. -/
theorem words_resolved (resolving : Resolving pushbuffers transcript patches)
    (accepted : ∀ patch ∈ patches, simulator.Holds patch.source patch.sourceOffset.toNat 4 ∧
      simulator.Holds patch.target patch.targetOffset.toNat 0) (addressed : simulator.Addressed)
    (holds : AllTranscribe simulator pushbuffers transcript)
    (apart : pushbuffers.Pairwise PushBuffer.Apart) {index : Nat} {pushbuffer : PushBuffer}
    {entries : List Entry} (found : pushbuffers[index]? = some pushbuffer)
    (written : transcript[index]? = some entries) (shifts : ∀ entry ∈ entries, entry.Shifts) :
    (((patches.foldl Simulator.patched simulator).contents pushbuffer.buffer.handle).readWords
        pushbuffer.origin pushbuffer.length).map some =
      entries.map (Entry.resolved simulator) := by
  apply resolving.words_of_addresses accepted holds apart found written (fun _ => rfl)
  intro place target offset shift pushed
  have small : shift.toNat < 64 := shifts _ (List.mem_of_getElem? pushed)
  exact resolving.word_address accepted addressed small ⟨index, entries, found, written, pushed⟩

end Resolving

end Resolution

end HostChannel
