import HostChannel.Proofs.Host
import HostChannel.Proofs.Transcript

/-!
# Where relocations aim

A relocation asks for the address of a position in an allocation. The position was checked against
the end of a window when it was recorded, and the window against the end of its allocation when it
was made; so the position is in the allocation, or just behind it. The word to be replaced is one
of those that the pushbuffer holds. Whatever is pushed, both stay so.
-/

namespace HostChannel

/-- What is pushed is a word, or the address of a position in a window on an allocation of the
ledger. -/
def Entry.Known (ledger : List Allocation) : Entry → Prop
  | .word _ => True
  | .address target offset _ => target.Known ledger ∧ offset ≤ target.size

/-- Words are known. -/
theorem Entry.known_words {ledger : List Allocation} (words : List Word) :
    ∀ entry ∈ words.map Entry.word, entry.Known ledger := by
  intro entry member
  obtain ⟨word, -, rfl⟩ := List.mem_map.mp member
  exact trivial

/-- A relocation of the pushbuffer replaces one of its words, by an address in an allocation of the
ledger or just behind it. -/
structure Relocation.Aims (ledger : List Allocation) (pushbuffer : PushBuffer)
    (relocation : Relocation) : Prop where
  /-- The word is one of those pushed. -/
  word : ∃ place < pushbuffer.length,
    relocation.sourceOffset.toNat = pushbuffer.start.toNat + 4 * place
  /-- The address is in an allocation of the ledger, or just behind it. -/
  target : ∃ allocation ∈ ledger, relocation.target = allocation.handle ∧
    relocation.targetOffset.toNat ≤ allocation.size.toNat

/-- Every relocation of the pushbuffers aims at an allocation of the ledger. -/
def AllAim (ledger : List Allocation) (pushbuffers : List PushBuffer) : Prop :=
  ∀ pushbuffer ∈ pushbuffers, ∀ relocation ∈ pushbuffer.relocations,
    relocation.Aims ledger pushbuffer

variable {ledger : List Allocation}

/-- What is aimed at stays in the ledger when it grows. -/
theorem AllAim.grown {pushbuffers : List PushBuffer} (aim : AllAim ledger pushbuffers)
    (more : List Allocation) : AllAim (ledger ++ more) pushbuffers := by
  intro pushbuffer member relocation recorded
  obtain ⟨word, allocation, listed, target⟩ := aim pushbuffer member relocation recorded
  exact ⟨word, allocation, List.mem_append_left more listed, target⟩

/-- An address in a known window is in its allocation, or just behind it. -/
theorem Buffer.Known.position_le {target : Buffer} (known : target.Known ledger) {offset : UInt64}
    (within : offset ≤ target.size) :
    (target.offset + offset).toNat ≤ target.allocation.size.toNat := by
  have window : target.offset.toNat + target.size.toNat ≤ target.allocation.size.toNat :=
    known.inside
  have inside := UInt64.le_iff_toNat_le.mp within
  have fits := target.allocation.size.toNat_lt
  rw [UInt64.toNat_add]
  omega

namespace PushBuffer

/-- The relocations that are recorded with entries aim where the entries say. -/
theorem aims_of_recorded {pushbuffer : PushBuffer} {entries : List Entry}
    (still : (pushbuffer.pushed entries).Sound) (known : ∀ entry ∈ entries, entry.Known ledger)
    {relocation : Relocation}
    (recorded : relocation ∈ recorded pushbuffer.start pushbuffer.length entries) :
    relocation.Aims ledger (pushbuffer.pushed entries) := by
  obtain ⟨index, target, offset, shift, pushed, rfl⟩ := mem_recorded.mp recorded
  obtain ⟨listed, within⟩ := known _ (List.mem_of_getElem? pushed)
  have inside : pushbuffer.length + index < (pushbuffer.pushed entries).length :=
    Nat.add_lt_add_left (List.getElem?_eq_some_iff.mp pushed).1 _
  refine ⟨⟨pushbuffer.length + index, inside, ?_⟩,
    ⟨target.allocation, List.mem_of_getElem? listed.listed, rfl, listed.position_le within⟩⟩
  exact still.toNat_place (Nat.le_trans (Nat.le_of_lt inside) still.inside)

/-- Pushing entries leaves the relocations recorded before, and adds those of the entries. -/
theorem aims_pushed {pushbuffer : PushBuffer} {entries : List Entry}
    (aim : ∀ relocation ∈ pushbuffer.relocations, relocation.Aims ledger pushbuffer)
    (still : (pushbuffer.pushed entries).Sound) (known : ∀ entry ∈ entries, entry.Known ledger) :
    ∀ relocation ∈ (pushbuffer.pushed entries).relocations,
      relocation.Aims ledger (pushbuffer.pushed entries) := by
  intro relocation member
  rcases List.mem_append.mp member with before | new
  · obtain ⟨⟨place, inside, word⟩, target⟩ := aim relocation before
    exact ⟨⟨place, Nat.lt_of_lt_of_le inside (Nat.le_add_right _ _), word⟩, target⟩
  · exact aims_of_recorded still known new

end PushBuffer

end HostChannel
