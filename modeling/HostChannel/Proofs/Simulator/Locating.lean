import HostChannel.Proofs.Simulator.Addresses
import HostChannel.Proofs.Simulator.Patching
import Mathlib.Data.List.Pairwise

/-!
# What patched words say of addresses

A patch writes the low bits of a shifted address, as many as a word has. Where these are all that
there are, the word says where the target is, to the precision that the shift leaves
(`Word.Locates`); so it is on a device that has not handed out addresses which a word cannot hold.
Where there are more, they are dropped, and words for different places may be the same.
-/

namespace HostChannel

/-- A position is among those that a shifted word stands for. -/
def Word.Locates (word : Word) (shift position : Nat) : Prop :=
  word.toNat <<< shift ≤ position ∧ position < (word.toNat + 1) <<< shift

instance (word : Word) (shift position : Nat) : Decidable (word.Locates shift position) :=
  inferInstanceAs (Decidable (_ ∧ _))

/-- The low bits of a shifted position say where it is if they are all of its bits. -/
theorem Word.locates_iff {word : Word} {shift position : Nat}
    (low : word.toNat = (position >>> shift) % UInt32.size) :
    word.Locates shift position ↔ position >>> shift < UInt32.size := by
  have positive := Nat.two_pow_pos shift
  rw [Nat.shiftRight_eq_div_pow] at low ⊢
  rw [Word.Locates, Nat.shiftLeft_eq, Nat.shiftLeft_eq]
  constructor
  · rintro ⟨-, before⟩
    have bound := word.toNat_lt
    have quotient := (Nat.div_lt_iff_lt_mul positive).mpr before
    rw [UInt32.size]
    omega
  · intro fits
    rw [Nat.mod_eq_of_lt fits] at low
    rw [low]
    have quotient := Nat.lt_succ_self (position / 2 ^ shift)
    exact ⟨Nat.div_mul_le_self _ _, (Nat.div_lt_iff_lt_mul positive).mp quotient⟩

/-- Two grants with different handles have no address in common. -/
def Grant.Apart (first second : Grant) : Prop :=
  first.handle ≠ second.handle →
    first.address.toNat + first.size.toNat ≤ second.address.toNat ∨
      second.address.toNat + second.size.toNat ≤ first.address.toNat

instance : Std.Symm Grant.Apart where
  symm _ _ apart different := (apart different.symm).symm

namespace Simulator

/-- The position among all addresses that a patch aims at, if its target is live. -/
def aim? (simulator : Simulator) (patch : Patch) : Option Nat :=
  (simulator.live? patch.target).map fun target =>
    target.address.toNat + patch.targetOffset.toNat

/-- The word in memory that a patch replaces. -/
def wordAt (simulator : Simulator) (patch : Patch) : Word :=
  (simulator.contents patch.source).word patch.sourceOffset.toNat

/-- A position in a live buffer is one of its addresses, or the one behind the last. -/
theorem Holds.aim {simulator : Simulator} {patch : Patch} {length : Nat}
    (holds : simulator.Holds patch.target patch.targetOffset.toNat length) :
    ∃ target, simulator.live? patch.target = some target ∧
      simulator.aim? patch = some (target.address.toNat + patch.targetOffset.toNat) ∧
      patch.targetOffset.toNat + length ≤ target.size.toNat := by
  obtain ⟨target, lives, within⟩ := holds
  refine ⟨target, lives, ?_, within⟩
  rw [aim?, lives, Option.map_some]

/-- Once a submission is accepted, the word of a patch is the low bits of the position that it aims
at, shifted, unless another patch replaces bytes of that word. -/
theorem wordAt_submitted {simulator after : Simulator} {submission : Submission} {fence : Word}
    (addressed : simulator.Addressed) (apart : submission.patches.Pairwise Patch.Apart)
    (accepted : submit submission simulator = (.ok fence, after)) {patch : Patch}
    (asked : patch ∈ submission.patches) (shifts : patch.shift.toNat < 64) :
    ∃ position, simulator.aim? patch = some position ∧
      (after.wordAt patch).toNat = (position >>> patch.shift.toNat) % UInt32.size := by
  obtain ⟨accepts, -, rfl⟩ := submit_eq_ok_iff.mp accepted
  have present : ∀ other ∈ submission.patches, other.source ∈ simulator.buffers :=
    fun other listed => (accepts.patches other listed).1.present
  have target := (accepts.patches patch asked).2
  obtain ⟨address, found, word⟩ := patchedWord_eq addressed target shifts
  obtain ⟨buffer, lives, aim, -⟩ := target.aim
  rw [address?, lives, Option.map_some, Option.some.injEq] at found
  refine ⟨_, aim, ?_⟩
  rw [wordAt, contents_submitted, word_foldl_patched present apart asked, address?, lives,
    Option.map_some, Option.getD_some, found, word, UInt32.toNat_ofNat', ← found]

namespace Charted

variable {history : List Grant} {lost : Nat} {simulator : Simulator}

/-- A live buffer ends before the next address. -/
theorem end_le (charted : Charted history lost simulator) {handle : Handle}
    {buffer : SimulatedBuffer} (lives : simulator.live? handle = some buffer) :
    buffer.address.toNat + buffer.size.toNat ≤ simulator.nextAddress.toNat := by
  have listed := charted.unshared.named handle buffer lives
  have before := (charted.behind _ listed).2
  have rounded := size_le_span buffer.size
  simp only at before
  omega

/-- So a position in a live buffer is not behind it either. -/
theorem position_le (charted : Charted history lost simulator) {patch : Patch} {length : Nat}
    (holds : simulator.Holds patch.target patch.targetOffset.toNat length) {position : Nat}
    (aims : simulator.aim? patch = some position) :
    position ≤ simulator.nextAddress.toNat := by
  obtain ⟨target, lives, aim, within⟩ := holds.aim
  obtain rfl := Option.some.inj (aim.symm.trans aims)
  have last := charted.end_le lives
  omega

/-- Of two live buffers one ends before the other starts. -/
theorem apart (charted : Charted history lost simulator) {one other : Handle}
    {first second : SimulatedBuffer} (livesOne : simulator.live? one = some first)
    (livesOther : simulator.live? other = some second) (different : one ≠ other) :
    first.address.toNat + first.size.toNat ≤ second.address.toNat ∨
      second.address.toNat + second.size.toNat ≤ first.address.toNat := by
  have unshared := charted.unshared
  have ranges : history.Pairwise Grant.Apart :=
    unshared.addresses.imp fun before _ => .inl before
  have reflexive : ∀ grant ∈ history, grant.Apart grant := fun _ _ other => absurd rfl other
  have listedOne := unshared.named one first livesOne
  have listedOther := unshared.named other second livesOther
  exact ranges.forall_of_forall reflexive listedOne listedOther different

/-- Different bytes of live buffers are at different positions. -/
theorem aim_ne (charted : Charted history lost simulator) {first second : Patch}
    (holdsFirst : simulator.Holds first.target first.targetOffset.toNat 1)
    (holdsSecond : simulator.Holds second.target second.targetOffset.toNat 1)
    (different : (first.target, first.targetOffset) ≠ (second.target, second.targetOffset)) :
    simulator.aim? first ≠ simulator.aim? second := by
  obtain ⟨one, livesOne, aimOne, withinOne⟩ := holdsFirst.aim
  obtain ⟨other, livesOther, aimOther, withinOther⟩ := holdsSecond.aim
  rw [aimOne, aimOther]
  intro same
  have position := Option.some.inj same
  by_cases target : first.target = second.target
  · rw [target, livesOther] at livesOne
    obtain rfl := Option.some.inj livesOne
    have offset : first.targetOffset = second.targetOffset := UInt32.toNat.inj (by omega)
    exact different (Prod.ext target offset)
  · rcases charted.apart livesOne livesOther target with before | behind
    · omega
    · omega

end Charted

/-- On any device that requests have brought about, each patch of an accepted submission, of which
no two replace the same byte, writes the low bits of the shifted position that it aims at. So the
word locates the position exactly if a word holds all of them, which it does as long as the device
has handed out no greater address; and two words that are not shifted, for different bytes, are the
same exactly if the positions differ by a multiple of what a word can count. -/
theorem patched_words_locate {settings : SimulatorSettings} {simulator after : Simulator}
    (reached : (initial settings).Reaches simulator) {submission : Submission} {fence : Word}
    (apart : submission.patches.Pairwise Patch.Apart)
    (accepted : Device.submit submission simulator = (.ok fence, after)) :
    (∀ patch ∈ submission.patches, patch.shift.toNat < 64 →
      ∃ position, simulator.aim? patch = some position ∧
        (after.wordAt patch).toNat = (position >>> patch.shift.toNat) % UInt32.size ∧
        ((after.wordAt patch).Locates patch.shift.toNat position ↔
          position >>> patch.shift.toNat < UInt32.size) ∧
        (simulator.nextAddress.toNat < UInt32.size →
          (after.wordAt patch).Locates patch.shift.toNat position)) ∧
      ∀ first ∈ submission.patches, ∀ second ∈ submission.patches,
        first.shift = 0 → second.shift = 0 →
        simulator.Holds first.target first.targetOffset.toNat 1 →
        simulator.Holds second.target second.targetOffset.toNat 1 →
        (first.target, first.targetOffset) ≠ (second.target, second.targetOffset) →
        ∃ one other, simulator.aim? first = some one ∧ simulator.aim? second = some other ∧
          one ≠ other ∧
          (after.wordAt first = after.wordAt second ↔ one % UInt32.size = other % UInt32.size) := by
  obtain ⟨requests, rfl⟩ := reached
  have charted := charted_after settings requests
  have addressed : ((initial settings).after requests).Addressed :=
    Reaches.addressed ⟨requests, rfl⟩
  constructor
  · intro patch asked shifts
    obtain ⟨position, aim, word⟩ := wordAt_submitted addressed apart accepted asked shifts
    refine ⟨position, aim, word, Word.locates_iff word, fun low => ?_⟩
    apply (Word.locates_iff word).mpr
    have target := ((submit_eq_ok_iff.mp accepted).1.patches patch asked).2
    have bound := charted.position_le target aim
    have shifted : position >>> patch.shift.toNat ≤ position := Nat.shiftRight_le _ _
    omega
  · intro first askedFirst second askedSecond unshifted straight holdsFirst holdsSecond different
    have shifts : first.shift.toNat < 64 := by
      rw [unshifted]
      decide
    have turns : second.shift.toNat < 64 := by
      rw [straight]
      decide
    obtain ⟨one, aimOne, wordOne⟩ := wordAt_submitted addressed apart accepted askedFirst shifts
    obtain ⟨other, aimOther, wordOther⟩ :=
      wordAt_submitted addressed apart accepted askedSecond turns
    have distinct := charted.aim_ne holdsFirst holdsSecond different
    rw [aimOne, aimOther] at distinct
    rw [unshifted, UInt32.toNat_zero, Nat.shiftRight_zero] at wordOne
    rw [straight, UInt32.toNat_zero, Nat.shiftRight_zero] at wordOther
    refine ⟨one, other, aimOne, aimOther, fun same => distinct (congrArg some same), ?_⟩
    rw [← wordOne, ← wordOther, UInt32.toNat_inj]

/-- A channel and two buffers on a device, the second of which starts a block behind the first. -/
def blocksApart : Simulator :=
  (initial .standard).after
    [.call (.openChannel 1), .call (.allocate 8 ⟨0⟩), .call (.allocate 16 ⟨0⟩)]

/-- Two patches that write the address of the second buffer, and the block that it is in. -/
theorem near_buffers_located :
    let submission : Submission := ⟨0, 0, 1, [], [⟨1, 0, 2, 4, 0⟩, ⟨1, 4, 2, 4, 12⟩]⟩
    let after := (Device.submit submission blocksApart).2
    (after.wordAt ⟨1, 0, 2, 4, 0⟩).Locates 0 0x40001004 ∧
      (after.wordAt ⟨1, 4, 2, 4, 12⟩).Locates 12 0x40001004 := by
  intro submission after
  have fence : (Device.submit submission blocksApart).1 = .ok 1 := by decide +kernel
  have accepted : Device.submit submission blocksApart = (.ok 1, after) := Prod.ext fence rfl
  have apart : submission.patches.Pairwise Patch.Apart := by decide
  have reached : (initial .standard).Reaches blocksApart := ⟨_, rfl⟩
  have located := (patched_words_locate reached apart accepted).1
  have low : blocksApart.nextAddress.toNat < UInt32.size := by decide
  obtain ⟨first, aimFirst, -, -, locates⟩ := located ⟨1, 0, 2, 4, 0⟩ (by decide) (by decide)
  obtain ⟨second, aimSecond, -, -, places⟩ := located ⟨1, 4, 2, 4, 12⟩ (by decide) (by decide)
  have aims : blocksApart.aim? ⟨1, 0, 2, 4, 0⟩ = some 0x40001004 ∧
      blocksApart.aim? ⟨1, 4, 2, 4, 12⟩ = some 0x40001004 := by decide
  rw [aims.1, Option.some.injEq] at aimFirst
  rw [aims.2, Option.some.injEq] at aimSecond
  exact ⟨aimFirst ▸ locates low, aimSecond ▸ places low⟩

/-- A channel and two small buffers on a device that has handed out, between the two, as many
addresses as a word can count. -/
def wordApart : Simulator :=
  (initial .standard).after
    ([.call (.openChannel 96), .call (.allocate 8 ⟨0⟩)] ++
      (List.range' 2 15).flatMap (fun handle =>
        [.call (.allocate 0x10000000 ⟨0⟩), .call (.release (UInt32.ofNat handle))]) ++
      [.call (.allocate 0xffff000 ⟨0⟩), .call (.release 17), .call (.allocate 4 ⟨0⟩)])

/-- Patches that aim at one and at the other write the same word, which locates the first only. -/
theorem far_buffer_mistaken :
    let submission : Submission := ⟨0, 0, 1, [], [⟨1, 0, 1, 0, 0⟩, ⟨1, 4, 18, 0, 0⟩]⟩
    let after := (Device.submit submission wordApart).2
    (Device.submit submission wordApart).1 = .ok 1 ∧
      submission.patches.Pairwise Patch.Apart ∧
      wordApart.aim? ⟨1, 0, 1, 0, 0⟩ = some 0x40000000 ∧
      wordApart.aim? ⟨1, 4, 18, 0, 0⟩ = some 0x140000000 ∧
      after.wordAt ⟨1, 0, 1, 0, 0⟩ = 0x40000000 ∧ after.wordAt ⟨1, 4, 18, 0, 0⟩ = 0x40000000 ∧
      ¬ (after.wordAt ⟨1, 4, 18, 0, 0⟩).Locates 0 0x140000000 := by
  decide +kernel

end Simulator

end HostChannel
