import HostChannel.Proofs.Job.Conversion
import HostChannel.Proofs.Job.Course
import HostChannel.Proofs.Windows
import Mathlib.Data.List.Induction

/-!
# The scan for patches

A job is converted by going through its relocations, those of the first pushbuffer first and each
pushbuffer's as they were recorded. `Job.Converts` says what comes of it on the list of all of them:
the first that is at fault (`Job.Fault`) decides, and where none is, there is one patch for each.
Places are counted in allocations and without bound, so two relocations are of one word whichever
windows they were recorded through. `Job.conversion_exact` has it for every job that can be built.
-/

namespace HostChannel

namespace PushBuffer

/-- A fitted pushbuffer whose relocations are of words pushed, one behind the other, and of
positions that their targets have. -/
structure Ordered (pushbuffer : PushBuffer) : Prop extends Fitted pushbuffer where
  /-- Each relocation is of a word that was pushed. -/
  words : ∀ relocation ∈ pushbuffer.relocations, ∃ place < pushbuffer.length,
    relocation.sourceOffset.toNat = pushbuffer.start.toNat + 4 * place
  /-- A later relocation is of a later word. -/
  ascending : pushbuffer.relocations.Pairwise fun first second =>
    first.sourceOffset.toNat < second.sourceOffset.toNat
  /-- The target of each is a position in a window, or its end, counted in the allocation. -/
  targets : ∀ relocation ∈ pushbuffer.relocations, ∃ (target : Buffer) (offset : UInt64),
    target.Inside ∧ offset ≤ target.size ∧ relocation.target = target.handle ∧
      relocation.targetOffset.toNat = target.offset.toNat + offset.toNat

/-- A pushbuffer that has just been opened on a window is ordered. -/
theorem ordered_ofMapping? {σ : Type} {buffer : Buffer} (window : buffer.Inside) {host : Host σ}
    {offset : UInt64} {opened : PushBuffer}
    (made : ofMapping? buffer (buffer.mapping? host) offset = .ok opened) : opened.Ordered := by
  obtain ⟨length, empty⟩ := ofMapping?_empty made
  cases found : buffer.mapping? host with
  | none => simp [found, ofMapping?] at made
  | some mapping =>
    obtain ⟨region, -, rfl⟩ := Option.map_eq_some_iff.mp found
    rw [found] at made
    refine { (fitted_ofMapping? window made).1 with words := ?_, ascending := ?_, targets := ?_ }
    · exact fun _ none => absurd (empty ▸ none) List.not_mem_nil
    · rw [empty]
      exact List.Pairwise.nil
    · exact fun _ none => absurd (empty ▸ none) List.not_mem_nil

variable {σ : Type} [Device σ] {before after : PushBuffer} {device last : σ}

/-- Words that are pushed leave it ordered. -/
theorem Ordered.pushWords (ordered : before.Ordered) {words : List Word}
    (pushed : before.pushWords words device = (.ok after, last)) : after.Ordered := by
  rw [ordered.pushWords_run words device] at pushed
  split at pushed
  · rename_i enough
    obtain rfl := Except.ok.inj (Prod.mk.inj pushed).1
    refine { ordered with inside := enough, words := fun relocation member => ?_ }
    obtain ⟨place, inside, located⟩ := ordered.words relocation member
    exact ⟨place, Nat.lt_of_lt_of_le inside (Nat.le_add_right _ _), located⟩
  · simp at pushed

/-- So does an address in a window: it is recorded behind all others. -/
theorem Ordered.relocate (ordered : before.Ordered) {target : Buffer} (window : target.Inside)
    {offset : UInt64} {shift : Word}
    (pushed : before.relocate target offset shift device = (.ok after, last)) : after.Ordered := by
  rcases ordered.relocate_run target offset shift device with
    ⟨⟨enough, within⟩, run⟩ | ⟨-, failure, refused⟩
  · obtain rfl := Except.ok.inj (Prod.mk.inj (pushed.symm.trans run)).1
    have reach : target.offset.toNat + offset.toNat < UInt64.size :=
      sound_address window within shift
    have source := ordered.toNat_place ordered.inside
    have all : ∀ relocation ∈ (before.pushed [.address target offset shift]).relocations,
        relocation ∈ before.relocations ∨
          relocation = ⟨before.start + UInt64.ofNat before.length * wordBytes, target.handle,
            target.offset + offset, shift⟩ := by
      intro relocation member
      exact (List.mem_append.mp member).imp_right List.mem_singleton.mp
    refine { ordered with inside := enough, words := ?_, ascending := ?_, targets := ?_ }
    · intro relocation member
      rcases all relocation member with earlier | rfl
      · obtain ⟨place, inside, located⟩ := ordered.words relocation earlier
        exact ⟨place, Nat.lt_of_lt_of_le inside (Nat.le_add_right _ _), located⟩
      · exact ⟨before.length, Nat.lt_succ_self _, source⟩
    · refine List.pairwise_append.mpr ⟨ordered.ascending, List.pairwise_singleton _ _, ?_⟩
      intro earlier member new there
      obtain ⟨place, inside, located⟩ := ordered.words earlier member
      rw [List.mem_singleton.mp there, source, located]
      omega
    · intro relocation member
      rcases all relocation member with earlier | rfl
      · exact ordered.targets relocation earlier
      · refine ⟨target, offset, window, within, rfl, ?_⟩
        rw [UInt64.toNat_add]
        exact Nat.mod_eq_of_lt reach
  · simp [pushed] at refused

/-- The range that says the same as an ordered pushbuffer, where it can be said. -/
def range (pushbuffer : PushBuffer) : CommandRange :=
  ⟨pushbuffer.buffer.handle, UInt32.ofNat pushbuffer.origin, UInt32.ofNat pushbuffer.length⟩

/-- The start or the number of words is more than a word can say. -/
def Distant (pushbuffer : PushBuffer) : Prop :=
  UInt32.size ≤ pushbuffer.origin ∨ UInt32.size ≤ pushbuffer.length

/-- A position is converted exactly if a word can say it. -/
theorem toWord?_eq (value : UInt64) :
    toWord? value =
      if UInt32.size ≤ value.toNat then .error .offsetOverflow
      else .ok (UInt32.ofNat value.toNat) := by
  have same : value.toUInt32 = UInt32.ofNat value.toNat := by
    apply UInt32.toNat.inj
    rw [UInt64.toNat_toUInt32, UInt32.toNat_ofNat']
  rw [toWord?, same]
  by_cases large : UInt32.size ≤ value.toNat
  · rw [if_neg (Nat.not_lt.mpr large), if_pos large]
  · rw [if_pos (Nat.not_le.mp large), if_neg large]

/-- An ordered pushbuffer has its range exactly if it is not distant. -/
theorem Ordered.commandRange?_eq {pushbuffer : PushBuffer} (ordered : pushbuffer.Ordered) :
    (pushbuffer.Distant → pushbuffer.commandRange? = .error .offsetOverflow) ∧
      (¬ pushbuffer.Distant → pushbuffer.commandRange? = .ok pushbuffer.range) := by
  have start : (pushbuffer.buffer.offset + pushbuffer.start).toNat = pushbuffer.origin :=
    ordered.toNat_fromOrigin (Nat.zero_le _) rfl
  have count : (UInt64.ofNat pushbuffer.length).toNat = pushbuffer.length := by
    have room := ordered.room
    have inside := ordered.inside
    have fits := pushbuffer.buffer.size.toNat_lt
    rw [UInt64.toNat_ofNat']
    omega
  rw [commandRange?, toWord?_eq, toWord?_eq, start, count]
  constructor
  · rintro (large | large)
    · rw [if_pos large]
      rfl
    · rw [if_pos large]
      split <;> rfl
  · intro near
    rw [if_neg fun large => near (.inl large), if_neg fun large => near (.inr large)]
    rfl

end PushBuffer

namespace Job

/-- The place of a relocation: the allocation of the word to be replaced, and how far the word is
from its start. -/
def place (entry : PushBuffer × Relocation) : Handle × Nat :=
  (entry.1.buffer.handle, entry.1.buffer.offset.toNat + entry.2.sourceOffset.toNat)

/-- The place of the word or of the address is further away than a word can say. -/
def Large (entry : PushBuffer × Relocation) : Prop :=
  UInt32.size ≤ (place entry).2 ∨ UInt32.size ≤ entry.2.targetOffset.toNat

/-- The patch that says the same as a relocation, where it can be said. -/
def patchOf (entry : PushBuffer × Relocation) : Patch :=
  ⟨(place entry).1, UInt32.ofNat (place entry).2, entry.2.target,
    UInt32.ofNat entry.2.targetOffset.toNat, entry.2.shift⟩

/-- What is wrong with a relocation behind others. -/
inductive Fault (before : List (PushBuffer × Relocation)) (entry : PushBuffer × Relocation) :
    Error → Prop where
  /-- It cannot be said in words. -/
  | large (far : Large entry) : Fault before entry .offsetOverflow
  /-- It can be said, and its word is that of a relocation before it. -/
  | twice {offset : UInt64} (near : ¬ Large entry) (taken : place entry ∈ before.map place)
    (named : offset.toNat = (place entry).2) :
    Fault before entry (.overlappingRelocation (place entry).1 offset)

/-- Nothing is wrong with any of the relocations. -/
def Faultless (relocations : List (PushBuffer × Relocation)) : Prop :=
  ∀ before entry after, relocations = before ++ entry :: after → ∀ cause, ¬ Fault before entry cause

/-- What a job is converted to, or what the conversion is refused for. -/
inductive Converts (job : Job) (channel : ChannelId) : Except Error Submission → Prop where
  /-- There are no pushbuffers. -/
  | empty (bare : job.pushbuffers = []) : Converts job channel (.error .emptyJob)
  /-- The words of a pushbuffer cannot be said. -/
  | distant {pushbuffer : PushBuffer} (member : pushbuffer ∈ job.pushbuffers)
    (far : pushbuffer.Distant) : Converts job channel (.error .offsetOverflow)
  /-- A relocation is at fault, and none before it. -/
  | faulty {before after : List (PushBuffer × Relocation)} {entry : PushBuffer × Relocation}
    {cause : Error} (listed : job.pushbuffers ≠ [])
    (near : ∀ pushbuffer ∈ job.pushbuffers, ¬ pushbuffer.Distant)
    (split : job.relocations = before ++ entry :: after) (first : Faultless before)
    (fault : Fault before entry cause) : Converts job channel (.error cause)
  /-- Everything can be said, and no word is to be replaced twice. -/
  | converted (listed : job.pushbuffers ≠ [])
    (near : ∀ pushbuffer ∈ job.pushbuffers, ¬ pushbuffer.Distant)
    (free : Faultless job.relocations) :
    Converts job channel (.ok ⟨channel, job.syncpoint, job.increments,
      job.pushbuffers.map PushBuffer.range, job.relocations.map patchOf⟩)

/-- Relocations are without fault if those before the last one are and the last one has none. -/
theorem faultless_concat_iff {relocations : List (PushBuffer × Relocation)}
    {entry : PushBuffer × Relocation} :
    Faultless (relocations ++ [entry]) ↔
      Faultless relocations ∧ ∀ cause, ¬ Fault relocations entry cause := by
  constructor
  · intro free
    refine ⟨fun before other after split => ?_, free relocations entry [] rfl⟩
    exact free before other (after ++ [entry]) (by rw [split, List.append_assoc, List.cons_append])
  · rintro ⟨free, last⟩ before other after split
    rcases List.eq_nil_or_concat after with rfl | ⟨more, final, rfl⟩
    · obtain ⟨rfl, same⟩ := List.append_inj' split rfl
      exact (List.cons.inj same).1 ▸ last
    · rw [List.concat_eq_append, ← List.cons_append, ← List.append_assoc] at split
      exact free before other more (List.append_inj' split rfl).1

/-- Either nothing is wrong with any relocation, or there is a first one with which something is. -/
theorem faultless_or_first (relocations : List (PushBuffer × Relocation)) :
    Faultless relocations ∨ ∃ before entry after cause,
      relocations = before ++ entry :: after ∧ Faultless before ∧ Fault before entry cause := by
  induction relocations using List.reverseRecOn with
  | nil => exact .inl fun before entry after split => by simp at split
  | append_singleton relocations last ih =>
    rcases ih with free | ⟨before, entry, after, cause, split, free, fault⟩
    · by_cases wrong : ∃ cause, Fault relocations last cause
      · obtain ⟨cause, fault⟩ := wrong
        exact .inr ⟨relocations, last, [], cause, rfl, free, fault⟩
      · exact .inl (faultless_concat_iff.mpr ⟨free, not_exists.mp wrong⟩)
    · exact .inr ⟨before, entry, after ++ [last], cause,
        by rw [split, List.append_assoc, List.cons_append], free, fault⟩

/-- What the scan does with one relocation behind others. -/
def scanStep (patches : List Patch) (entry : PushBuffer × Relocation) :
    Except Error (List Patch) := do
  let patch ← entry.1.patch? entry.2
  addPatch patches patch

/-- The patches of a job are what comes of going through its relocations. -/
theorem patches?_eq (job : Job) : job.patches? = job.relocations.foldlM scanStep [] :=
  rfl

/-- The place of a relocation of an ordered pushbuffer is where its word is. -/
theorem toNat_source {entry : PushBuffer × Relocation} (ordered : entry.1.Ordered)
    (member : entry.2 ∈ entry.1.relocations) :
    (entry.1.buffer.offset + entry.2.sourceOffset).toNat = (place entry).2 := by
  obtain ⟨index, inside, located⟩ := ordered.words entry.2 member
  rw [ordered.toNat_fromOrigin (Nat.le_trans (Nat.le_of_lt inside) ordered.inside) located, place,
    located, PushBuffer.origin]
  omega

/-- A relocation of an ordered pushbuffer has its patch exactly if it is not large. -/
theorem patch?_eq {entry : PushBuffer × Relocation} (ordered : entry.1.Ordered)
    (member : entry.2 ∈ entry.1.relocations) :
    (Large entry → entry.1.patch? entry.2 = .error .offsetOverflow) ∧
      (¬ Large entry → entry.1.patch? entry.2 = .ok (patchOf entry)) := by
  rw [PushBuffer.patch?, PushBuffer.toWord?_eq, PushBuffer.toWord?_eq, toNat_source ordered member]
  constructor
  · rintro (far | far)
    · rw [if_pos far]
      rfl
    · rw [if_pos far]
      split <;> rfl
  · intro near
    rw [if_neg fun far => near (.inl far), if_neg fun far => near (.inr far)]
    rfl

/-- Patches of relocations that can be said are of one word exactly if their places are one. -/
theorem samePlace_iff {first second : PushBuffer × Relocation} (near : ¬ Large first)
    (near' : ¬ Large second) :
    (patchOf first).SamePlace (patchOf second) ↔ place first = place second := by
  have small : ∀ {entry : PushBuffer × Relocation}, ¬ Large entry →
      (UInt32.ofNat (place entry).2).toNat = (place entry).2 := by
    intro entry said
    exact UInt32.toNat_ofNat_of_lt' (Nat.not_le.mp fun far => said (.inl far))
  rw [Patch.SamePlace, Prod.ext_iff, ← UInt32.toNat_inj (a := (patchOf first).sourceOffset)]
  change _ ∧ (UInt32.ofNat (place first).2).toNat = (UInt32.ofNat (place second).2).toNat ↔ _
  rw [small near, small near']
  rfl

/-- A patch is refused if one before it is of the same word, and added behind them otherwise. -/
theorem addPatch_eq (patches : List Patch) (patch : Patch) :
    ((∃ earlier ∈ patches, earlier.SamePlace patch) → addPatch patches patch =
        .error (.overlappingRelocation patch.source patch.sourceOffset.toUInt64)) ∧
      ((∀ earlier ∈ patches, ¬ earlier.SamePlace patch) →
        addPatch patches patch = .ok (patches ++ [patch])) := by
  have taken : (patches.any fun earlier =>
      earlier.source == patch.source && earlier.sourceOffset == patch.sourceOffset) = true ↔
        ∃ earlier ∈ patches, earlier.SamePlace patch := by
    simp only [List.any_eq_true, Bool.and_eq_true, beq_iff_eq, Patch.SamePlace]
  constructor
  · intro used
    rw [addPatch, if_pos (taken.mpr used)]
  · intro free
    rw [addPatch, if_neg fun used => ?_]
    obtain ⟨earlier, member, same⟩ := taken.mp used
    exact free earlier member same

/-- Where nothing is wrong, every relocation can be said. -/
theorem Faultless.near {relocations : List (PushBuffer × Relocation)}
    (free : Faultless relocations) : ∀ entry ∈ relocations, ¬ Large entry := by
  intro entry member far
  obtain ⟨before, after, split⟩ := List.append_of_mem member
  exact free before entry after split _ (.large far)

/-- The entries are relocations of ordered pushbuffers. -/
def AllOrdered (relocations : List (PushBuffer × Relocation)) : Prop :=
  ∀ entry ∈ relocations, entry.1.Ordered ∧ entry.2 ∈ entry.1.relocations

section Scan

variable {before : List (PushBuffer × Relocation)} {entry : PushBuffer × Relocation}
  (ordered : entry.1.Ordered ∧ entry.2 ∈ entry.1.relocations) (free : Faultless before)

include ordered free

/-- Behind relocations without fault, the scan stops at a fault and names it. -/
theorem scanStep_fault {cause : Error} (fault : Fault before entry cause) :
    scanStep (before.map patchOf) entry = .error cause := by
  obtain ⟨far, said⟩ := patch?_eq ordered.1 ordered.2
  cases fault with
  | large large =>
    rw [scanStep, far large]
    rfl
  | @twice offset near taken named =>
    obtain ⟨earlier, member, same⟩ := List.mem_map.mp taken
    have used : ∃ patch ∈ before.map patchOf, patch.SamePlace (patchOf entry) :=
      ⟨patchOf earlier, List.mem_map_of_mem member,
        (samePlace_iff (free.near earlier member) near).mpr same⟩
    have written : (patchOf entry).sourceOffset.toUInt64 = offset := by
      apply UInt64.toNat_inj.mp
      rw [UInt32.toNat_toUInt64, named]
      exact UInt32.toNat_ofNat_of_lt' (Nat.not_le.mp fun far => near (.inl far))
    rw [scanStep, said near, ← written]
    exact (addPatch_eq _ _).1 used

/-- A relocation without fault adds its patch. -/
theorem scanStep_free (right : ∀ cause, ¬ Fault before entry cause) :
    scanStep (before.map patchOf) entry = .ok ((before ++ [entry]).map patchOf) := by
  have near : ¬ Large entry := fun far => right _ (.large far)
  have apart : ∀ patch ∈ before.map patchOf, ¬ patch.SamePlace (patchOf entry) := by
    intro patch member same
    obtain ⟨earlier, listed, rfl⟩ := List.mem_map.mp member
    have taken : place entry ∈ before.map place := List.mem_map.mpr
      ⟨earlier, listed, (samePlace_iff (free.near earlier listed) near).mp same⟩
    have named : (UInt64.ofNat (place entry).2).toNat = (place entry).2 := by
      rw [← toNat_source ordered.1 ordered.2, UInt64.ofNat_toNat]
    exact right _ (.twice near taken named)
  rw [scanStep, ((patch?_eq ordered.1 ordered.2).2 near), List.map_append]
  exact (addPatch_eq _ _).2 apart

end Scan

/-- Relocations without fault give one patch each, in order. -/
theorem scan_faultless {relocations : List (PushBuffer × Relocation)}
    (ordered : AllOrdered relocations) (free : Faultless relocations) :
    relocations.foldlM scanStep [] = .ok (relocations.map patchOf) := by
  induction relocations using List.reverseRecOn with
  | nil => rfl
  | append_singleton before entry ih =>
    obtain ⟨earlier, last⟩ := faultless_concat_iff.mp free
    have run := ih (fun other member => ordered other (List.mem_append_left _ member)) earlier
    have here := ordered entry (List.mem_append_right _ List.mem_cons_self)
    rw [List.foldlM_append, run]
    change ([entry].foldlM scanStep (before.map patchOf)) = _
    rw [List.foldlM_cons, scanStep_free here earlier last]
    rfl

/-- The first fault among relocations is what the scan of them fails with. -/
theorem scan_fault {before after : List (PushBuffer × Relocation)}
    {entry : PushBuffer × Relocation} (ordered : AllOrdered (before ++ entry :: after))
    (free : Faultless before) {cause : Error} (fault : Fault before entry cause) :
    (before ++ entry :: after).foldlM scanStep [] = .error cause := by
  have earlier : AllOrdered before :=
    fun other member => ordered other (List.mem_append_left _ member)
  have run := scan_faultless earlier free
  have here := ordered entry (List.mem_append_right _ List.mem_cons_self)
  rw [List.foldlM_append, run]
  change ((entry :: after).foldlM scanStep (before.map patchOf)) = _
  rw [List.foldlM_cons, scanStep_fault here free fault]
  rfl

/-- Either one of the pushbuffers is distant and none of them can be converted, or all have their
ranges. -/
theorem mapM_commandRange? {pushbuffers : List PushBuffer}
    (ordered : ∀ pushbuffer ∈ pushbuffers, pushbuffer.Ordered) :
    ((∃ pushbuffer ∈ pushbuffers, pushbuffer.Distant) →
        pushbuffers.mapM PushBuffer.commandRange? = .error .offsetOverflow) ∧
      ((∀ pushbuffer ∈ pushbuffers, ¬ pushbuffer.Distant) →
        pushbuffers.mapM PushBuffer.commandRange? = .ok (pushbuffers.map PushBuffer.range)) := by
  have near : (∀ pushbuffer ∈ pushbuffers, ¬ pushbuffer.Distant) →
      pushbuffers.mapM PushBuffer.commandRange? = .ok (pushbuffers.map PushBuffer.range) := by
    intro all
    rw [Action.mapM_eq_ok_iff, List.forall₂_map_right_iff, List.forall₂_same]
    exact fun pushbuffer member =>
      (ordered pushbuffer member).commandRange?_eq.2 (all pushbuffer member)
  refine ⟨?_, near⟩
  rintro ⟨pushbuffer, member, far⟩
  cases given : pushbuffers.mapM PushBuffer.commandRange? with
  | error cause =>
    obtain ⟨other, -, failed⟩ := Action.mapM_eq_error given
    rw [PushBuffer.commandRange?_eq_error failed]
  | ok ranges =>
    obtain ⟨range, -, made⟩ := Action.exists_of_mapM_eq_ok given member
    rw [(ordered pushbuffer member).commandRange?_eq.1 far] at made
    contradiction

/-- Every job that can be converted is, and every other is refused. -/
theorem exists_converts (job : Job) (channel : ChannelId) :
    ∃ outcome, job.Converts channel outcome := by
  by_cases empty : job.pushbuffers = []
  · exact ⟨_, .empty empty⟩
  · by_cases far : ∃ pushbuffer ∈ job.pushbuffers, pushbuffer.Distant
    · obtain ⟨pushbuffer, member, distant⟩ := far
      exact ⟨_, .distant member distant⟩
    · have near : ∀ pushbuffer ∈ job.pushbuffers, ¬ pushbuffer.Distant :=
        fun pushbuffer member distant => far ⟨pushbuffer, member, distant⟩
      rcases faultless_or_first job.relocations with
        free | ⟨before, entry, after, cause, split, first, fault⟩
      · exact ⟨_, .converted empty near free⟩
      · exact ⟨_, .faulty empty near split first fault⟩

/-- What a job with ordered pushbuffers is converted to is what is said of it. -/
theorem Converts.toSubmission_eq {job : Job}
    (ordered : ∀ pushbuffer ∈ job.pushbuffers, pushbuffer.Ordered) {channel : ChannelId}
    {outcome : Except Error Submission} (converts : job.Converts channel outcome) :
    job.toSubmission channel = outcome := by
  have relocations : AllOrdered job.relocations := fun entry member =>
    ⟨ordered entry.1 (mem_relocations.mp member).1, (mem_relocations.mp member).2⟩
  obtain ⟨distant, near⟩ := mapM_commandRange? ordered
  have begun : job.pushbuffers ≠ [] → job.toSubmission channel =
      (do
        let ranges ← job.pushbuffers.mapM PushBuffer.commandRange?
        let patches ← job.relocations.foldlM scanStep []
        pure ⟨channel, job.syncpoint, job.increments, ranges, patches⟩) := by
    intro listed
    rw [toSubmission, if_neg (by rwa [List.isEmpty_iff]), patches?_eq]
  cases converts with
  | empty bare =>
    rw [toSubmission, bare]
    rfl
  | distant member far =>
    rw [begun (List.ne_nil_of_mem member), distant ⟨_, member, far⟩]
    rfl
  | faulty listed all split first fault =>
    rw [begun listed, near all, split, scan_fault (split ▸ relocations) first fault]
    rfl
  | converted listed all free =>
    rw [begun listed, near all, scan_faultless relocations free]
    rfl

end Job

variable {σ : Type} [Device σ]

/-- The buffers that the step uses were made on some host. -/
def JobStep.UsesMade : JobStep σ → Prop
  | .append buffer _ => buffer.Made σ
  | .write _ (.relocate target _ _) => target.Made σ
  | _ => True

/-- A step with such buffers keeps pushbuffers ordered. -/
theorem JobStep.keeps_ordered {step : JobStep σ} (uses : step.UsesMade) :
    step.Keeps PushBuffer.Ordered where
  opened buffer offset same host opened opening := by
    subst same
    exact PushBuffer.ordered_ofMapping? (Buffer.Made.inside uses) opening
  written index change same before after device last ordered pushed := by
    subst same
    cases change with
    | push word => exact ordered.pushWords pushed
    | pushSingle number => exact ordered.pushWords pushed
    | pushWords words => exact ordered.pushWords pushed
    | relocate target offset shift => exact ordered.relocate (Buffer.Made.inside uses) pushed

namespace Job

/-- The conversion of a job is exact. However the job was built, on whatever devices and through
whatever windows, the outcome is the one that `Job.Converts` says: without pushbuffers there is
nothing to convert, a pushbuffer that is too far away or too long is refused before any relocation,
then the first relocation that is too far away or whose word was taken by one before it, and
otherwise there are a range for each pushbuffer and a patch for each relocation, in order. Nothing
in that wraps around: a relocation is of one of the words pushed and of a position in a window, and
both are counted from the start of their allocations. The places of the relocations of one
pushbuffer are all different. -/
theorem conversion_exact (syncpoint increments : Word) (host : Host σ) (steps : List (JobStep σ))
    (uses : ∀ step ∈ steps, step.UsesMade) (channel : ChannelId) :
    (∀ outcome, (course syncpoint increments host steps).1.toSubmission channel = outcome ↔
        (course syncpoint increments host steps).1.Converts channel outcome) ∧
      (∀ pushbuffer ∈ (course syncpoint increments host steps).1.pushbuffers,
        pushbuffer.origin + 4 * pushbuffer.length ≤ pushbuffer.buffer.allocation.size.toNat ∧
          (∀ relocation ∈ pushbuffer.relocations, ∃ index < pushbuffer.length,
            place (pushbuffer, relocation) =
              (pushbuffer.buffer.handle, pushbuffer.origin + 4 * index)) ∧
          ∀ relocation ∈ pushbuffer.relocations, ∃ (target : Buffer) (offset : UInt64),
            target.Inside ∧ offset ≤ target.size ∧ relocation.target = target.handle ∧
              relocation.targetOffset.toNat = target.offset.toNat + offset.toNat) ∧
      ∀ pushbuffer ∈ (course syncpoint increments host steps).1.pushbuffers,
        pushbuffer.relocations.Pairwise fun first second =>
          place (pushbuffer, first) ≠ place (pushbuffer, second) := by
  have ordered := course_keeps syncpoint increments host fun step member =>
    JobStep.keeps_ordered (uses step member)
  refine ⟨fun outcome => ⟨?_, Converts.toSubmission_eq ordered⟩, ?_, ?_⟩
  · rintro rfl
    obtain ⟨outcome, converts⟩ := exists_converts (course syncpoint increments host steps).1 channel
    rwa [converts.toSubmission_eq ordered]
  · intro pushbuffer member
    have fits := ordered pushbuffer member
    refine ⟨?_, fun relocation recorded => ?_, fits.targets⟩
    · have room := fits.room
      have inside := fits.inside
      have window : pushbuffer.buffer.offset.toNat + pushbuffer.buffer.size.toNat ≤ _ := fits.window
      rw [PushBuffer.origin]
      omega
    · obtain ⟨index, inside, located⟩ := fits.words relocation recorded
      refine ⟨index, inside, ?_⟩
      rw [place, located, PushBuffer.origin, Nat.add_assoc]
  · intro pushbuffer member
    refine (ordered pushbuffer member).ascending.imp fun {first second} before same => ?_
    have distance := congrArg Prod.snd same
    simp only [place] at distance
    omega

/-- A page of the simulated device that the processor can reach. -/
def pageHost : Host Simulator :=
  (Buffer.firstPage.map (Buffer.allocate 0x1000 ⟨0⟩ Buffer.freshHost).2).2

/-- Two pushbuffers start at one place, one in the page and one in a window of it. Each pushes a
word and an address, so that both addresses are to replace the same word. -/
def overlappingSteps : List (JobStep Simulator) :=
  [.append .firstPage 0x800, .append .narrowWindow 0,
    .write 0 (.push 7), .write 0 (.relocate .narrowWindow 8 4),
    .write 1 (.push 7), .write 1 (.relocate .firstPage 0 0)]

/-- The last address is refused, and without it the job is converted. -/
theorem overlapping_views_scanned :
    (∀ step ∈ overlappingSteps, step.UsesMade) ∧
      (course 0 1 pageHost overlappingSteps).1.Converts 0
        (.error (.overlappingRelocation 1 0x804)) ∧
      (course 0 1 pageHost (overlappingSteps.take 5)).1.Converts 0
        (.ok ⟨0, 0, 1, [⟨1, 0x800, 2⟩, ⟨1, 0x800, 1⟩], [⟨1, 0x804, 1, 0x808, 4⟩]⟩) := by
  have page : Buffer.firstPage.Made Simulator := .allocated Buffer.firstPage_allocated
  have window : Buffer.narrowWindow.Made Simulator := .window page Buffer.narrowWindow_put
  have uses : ∀ step ∈ overlappingSteps, step.UsesMade := by
    simp [overlappingSteps, JobStep.UsesMade, page, window]
  have fewer : ∀ step ∈ overlappingSteps.take 5, step.UsesMade :=
    fun step member => uses step (List.mem_of_mem_take member)
  exact ⟨uses, ((conversion_exact 0 1 pageHost _ uses 0).1 _).mp (by decide +kernel),
    ((conversion_exact 0 1 pageHost _ fewer 0).1 _).mp (by decide +kernel)⟩

end Job

end HostChannel
