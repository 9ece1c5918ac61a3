import HostChannel.Proofs.Simulator.Acceptance

/-!
# Why a submission is refused

A device checks a submission for several things, of which whoever made the submission may have seen
to most: that the channel is open, and that ranges, words and targets are within their buffers
(`Simulator.Suits`). What is left is the syncpoint, and the targets, which others may have released
in the meantime. Such a submission is refused for one of these two and nothing else
(`Suits.submit_eq_error`).
-/

namespace HostChannel

/-- What a device may have against a submission that suits it otherwise. -/
inductive Refusal (simulator : Simulator) (submission : Submission) : Failure → Prop where
  /-- There is no syncpoint of the index. -/
  | noSyncpoint (missing : simulator.syncpoints.size ≤ submission.syncpoint.toNat) :
    Refusal simulator submission (.refused (.noSyncpoint submission.syncpoint))
  /-- A target has been released. -/
  | released {patch : Patch} {buffer : SimulatedBuffer} (asked : patch ∈ submission.patches)
    (there : simulator.buffers[patch.target]? = some buffer) (gone : buffer.live = false) :
    Refusal simulator submission (.refused (.unknownHandle patch.target))

namespace Simulator

/-- A submission to an open channel, with ranges and patched words in live buffers, and targets in
buffers that are live or were released. -/
structure Suits (simulator : Simulator) (submission : Submission) : Prop where
  /-- The channel is open. -/
  channel : simulator.channels.contains submission.channel = true
  /-- Every range lies in a live buffer. -/
  ranges : ∀ range ∈ submission.ranges,
    simulator.Holds range.handle range.offset.toNat (range.words.toNat * 4)
  /-- Every patch replaces a word of a live buffer. -/
  sources : ∀ patch ∈ submission.patches,
    simulator.Holds patch.source patch.sourceOffset.toNat 4
  /-- Every target is in a buffer that was handed out, or just behind it. -/
  targets : ∀ patch ∈ submission.patches, ∃ buffer,
    simulator.buffers[patch.target]? = some buffer ∧
      patch.targetOffset.toNat ≤ buffer.size.toNat

namespace Suits

variable {simulator after : Simulator} {submission : Submission}

/-- The target of a patch is in its buffer as long as the buffer is live. -/
theorem holds_target_iff (suits : simulator.Suits submission) {patch : Patch}
    (asked : patch ∈ submission.patches) :
    simulator.Holds patch.target patch.targetOffset.toNat 0 ↔
      (simulator.live? patch.target).isSome = true := by
  constructor
  · rintro ⟨buffer, lives, -⟩
    exact lives ▸ rfl
  · intro lives
    obtain ⟨buffer, found, within⟩ := suits.targets patch asked
    obtain ⟨held, same⟩ := Option.isSome_iff_exists.mp lives
    obtain rfl := Option.some.inj (found.symm.trans (Option.filter_eq_some_iff.mp same).1)
    exact ⟨buffer, same, within⟩

/-- What suits the device is accepted exactly when its syncpoint is there and its targets are
live. -/
theorem accepts_iff (suits : simulator.Suits submission) :
    simulator.Accepts submission ↔
      submission.syncpoint.toNat < simulator.syncpoints.size ∧
        ∀ patch ∈ submission.patches, (simulator.live? patch.target).isSome = true := by
  constructor
  · intro accepts
    exact ⟨accepts.syncpoint, fun patch asked =>
      (suits.holds_target_iff asked).mp (accepts.patches patch asked).2⟩
  · rintro ⟨index, live⟩
    exact ⟨index, suits.channel, suits.ranges, fun patch asked =>
      ⟨suits.sources patch asked, (suits.holds_target_iff asked).mpr (live patch asked)⟩⟩

/-- A patch fails its check only if its target has been released. -/
theorem checkPatch_eq_error (suits : simulator.Suits submission) {patch : Patch}
    (asked : patch ∈ submission.patches) {failure : Failure}
    (failed : checkPatch patch simulator = (.error failure, after)) :
    Refusal simulator submission failure := by
  have source : findRange patch.source patch.sourceOffset.toUInt64 4 simulator =
      (.ok (), simulator) := by
    have holds := suits.sources patch asked
    rwa [findRange_eq_ok_iff, UInt32.toNat_toUInt64]
  cases lives : simulator.live? patch.target with
  | some buffer =>
    have holds := (suits.holds_target_iff asked).mpr (lives ▸ rfl)
    have passed := checkPatch_eq_ok_iff.mpr ⟨suits.sources patch asked, holds⟩
    rw [passed] at failed
    simp at failed
  | none =>
    rw [checkPatch, Action.bind_apply_of_ok source, findRange,
      Action.bind_apply_of_error (findBuffer_of_gone lives)] at failed
    obtain rfl := Except.error.inj (Prod.mk.inj failed).1
    obtain ⟨buffer, found, -⟩ := suits.targets patch asked
    rw [live?, found] at lives
    exact .released asked found (by simpa [Option.filter] using lives)

/-- A submission that suits the device fails its check for want of its syncpoint, or of a target. -/
theorem validate_eq_error (suits : simulator.Suits submission) {failure : Failure}
    (failed : validate submission simulator = (.error failure, after)) :
    Refusal simulator submission failure := by
  by_cases index : submission.syncpoint.toNat < simulator.syncpoints.size
  · have ranged : submission.ranges.forM checkCommandRange simulator = (.ok (), simulator) :=
      (Action.forM_eq_ok_iff checkCommandRange_moves _ _).mpr fun range member =>
        checkCommandRange_eq_ok_iff.mpr (suits.ranges range member)
    rw [validate, Action.bind_apply_of_ok (checkSyncpoint_of_lt index),
      Action.bind_apply_of_ok (checkChannel_of_open suits.channel),
      Action.bind_apply_of_ok ranged] at failed
    obtain ⟨patch, asked, refused⟩ := Action.forM_eq_error checkPatch_moves failed
    exact suits.checkPatch_eq_error asked refused
  · have missing : checkSyncpoint submission.syncpoint simulator =
        (.error (.refused (.noSyncpoint submission.syncpoint)), simulator) := by
      rw [checkSyncpoint, if_neg index]
    rw [validate, Action.bind_apply_of_error missing] at failed
    obtain rfl := Except.error.inj (Prod.mk.inj failed).1
    exact .noSyncpoint (Nat.le_of_not_lt index)

/-- So it is refused for nothing else. -/
theorem submit_eq_error (suits : simulator.Suits submission) {failure : Failure}
    (failed : submit submission simulator = (.error failure, after)) :
    Refusal simulator submission failure := by
  cases checked : validate submission simulator with
  | mk outcome between =>
    cases outcome with
    | error other =>
      rw [submit, Action.bind_apply_of_error checked] at failed
      obtain rfl := Except.error.inj (Prod.mk.inj failed).1
      exact suits.validate_eq_error checked
    | ok value =>
      obtain ⟨_, -, run⟩ := submit_of_accepts (validate_eq_ok_iff.mp checked).1
      rw [run] at failed
      simp at failed

end Suits

namespace OnlyCounted

variable {first second : Simulator} (counted : first.OnlyCounted second) {submission : Submission}

include counted

/-- What suits a device still does after it has counted. -/
theorem suits (suits : first.Suits submission) : second.Suits submission := by
  rw [counted]
  exact ⟨suits.channel, suits.ranges, suits.sources, suits.targets⟩

/-- It is accepted for the same syncpoint and targets. -/
theorem accepts_iff (suits : first.Suits submission) :
    second.Accepts submission ↔
      submission.syncpoint.toNat < first.syncpoints.size ∧
        ∀ patch ∈ submission.patches, (first.live? patch.target).isSome = true := by
  rw [(counted.suits suits).accepts_iff, counted]
  exact Iff.rfl

/-- And it is refused for no other reasons than before. -/
theorem refusal {failure : Failure} (refusal : Refusal second submission failure) :
    Refusal first submission failure := by
  rw [counted] at refusal
  cases refusal with
  | noSyncpoint missing => exact .noSyncpoint missing
  | released asked there gone => exact .released asked there gone

end OnlyCounted

end Simulator

end HostChannel
