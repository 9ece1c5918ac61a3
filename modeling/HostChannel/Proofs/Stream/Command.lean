import HostChannel.Proofs.Stream.Header
import HostChannel.Stream.Command

/-!
# Cutting a stream into commands

The items of a stream are what `CommandCursor.next` gives, one after the other. An encoded header
in front of as many words as its truncated fields ask for is cut off as one command, whatever
comes behind it.
-/

namespace HostChannel

namespace CommandCursor

/-- Collecting appends to what was found before. -/
theorem collect_eq (cursor : CommandCursor) (found : Array StreamItem) :
    (cursor.collect found).1.toList = found.toList ++ cursor.items := by
  induction size : cursor.rest.length using Nat.strongRecOn generalizing cursor found with
  | ind size ih =>
    subst size
    rw [items, collect, collect]
    split
    · simp
    · rename_i item behind taken
      have shorter := length_rest_next taken
      rw [ih _ shorter behind _ rfl, ih _ shorter behind (#[].push item) rfl]
      simp

/-- A cursor without a next item stays where it is. -/
theorem behind_of_none {cursor behind : CommandCursor} (taken : cursor.next = (none, behind)) :
    behind = cursor := by
  unfold next at taken
  split at taken
  · exact (Prod.mk.inj taken).2.symm
  · split at taken
    · simp at taken
    · dsimp only at taken
      split at taken <;> simp at taken

/-- A cursor without a next item has no items. -/
theorem items_of_none {cursor behind : CommandCursor} (taken : cursor.next = (none, behind)) :
    cursor.items = [] := by
  rw [items, collect]
  split
  · rfl
  · rename_i given
    simp [taken] at given

/-- The next item comes before those behind it. -/
theorem items_of_some {cursor behind : CommandCursor} {item : StreamItem}
    (taken : cursor.next = (some item, behind)) : cursor.items = item :: behind.items := by
  rw [items, collect]
  split
  · rename_i given
    simp [taken] at given
  · rename_i given
    obtain ⟨same, rfl⟩ := Prod.mk.inj (taken.symm.trans given)
    obtain rfl := Option.some.inj same
    rw [collect_eq]
    rfl

/-- A command that is cut off is a header word and the payload words that it asks for, from the
front of the stream. -/
theorem next_eq_ok {cursor behind : CommandCursor} {command : Command}
    (taken : cursor.next = (some (.ok command), behind)) :
    cursor.rest = command.word :: (command.payload ++ behind.rest) ∧
      command.index = cursor.index ∧ Header.decode? command.word = some command.header ∧
      command.payload.length = command.header.payloadWords ∧
      behind.index = cursor.index + 1 + command.payload.length := by
  unfold next at taken
  split at taken
  · simp at taken
  · rename_i word rest words
    split at taken
    · simp at taken
    · rename_i header decoded
      dsimp only at taken
      split at taken
      · simp at taken
      · rename_i enough
        obtain ⟨same, rfl⟩ := Prod.mk.inj taken
        obtain rfl := Except.ok.inj (Option.some.inj same)
        have length : (rest.take header.payloadWords).length = header.payloadWords :=
          Nat.le_antisymm (List.length_take_le _ _) (Nat.not_lt.mp enough)
        refine ⟨?_, rfl, decoded, length, by rw [length]⟩
        rw [words, List.take_append_drop]

/-- A word that is no header is cut off alone. -/
theorem next_unknown (index : Nat) {word : Word} (unassigned : Header.decode? word = none)
    (rest : List Word) :
    next ⟨index, word :: rest⟩ =
      (some (.error (.unknownOpcode index word (Opcode.numberOf word))), ⟨index + 1, rest⟩) := by
  simp only [next, unassigned]

/-- A header that asks for more words than remain leaves none. -/
theorem next_truncated (index : Nat) {word : Word} {header : Header}
    (decoded : Header.decode? word = some header) {rest : List Word}
    (short : rest.length < header.payloadWords) :
    next ⟨index, word :: rest⟩ =
      (some (.error (.truncated index header.opcode header.payloadWords rest.length)),
        ⟨index, []⟩) := by
  have few : (rest.take header.payloadWords).length < header.payloadWords :=
    Nat.lt_of_le_of_lt (List.length_take_le' _ _) short
  simp only [next, decoded, if_pos few]

/-- A header is cut off with as many of the words behind it as it asks for. -/
theorem next_command (index : Nat) {word : Word} {header : Header}
    (decoded : Header.decode? word = some header) {payload : List Word}
    (framed : payload.length = header.payloadWords) (rest : List Word) :
    next ⟨index, word :: (payload ++ rest)⟩ =
      (some (.ok ⟨index, word, header, payload⟩), ⟨index + (payload.length + 1), rest⟩) := by
  have taken : (payload ++ rest).take header.payloadWords = payload := List.take_left' framed
  have behind : (payload ++ rest).drop header.payloadWords = rest := List.drop_left' framed
  have enough : ¬ payload.length < header.payloadWords := by omega
  simp only [next, decoded, taken, behind, if_neg enough]
  rw [← framed, Nat.add_assoc, Nat.add_comm 1]

/-- A command in front of a stream is cut off with the words that its header asks for. -/
theorem next_encode (index : Nat) (header : Header) (values rest : List Word)
    (framed : values.length = header.truncate.payloadWords) :
    next ⟨index, header.encode :: values ++ rest⟩ =
      (some (.ok ⟨index, header.encode, header.truncate, values⟩),
        ⟨index + (values.length + 1), rest⟩) :=
  next_command index (Header.decode?_encode header) framed rest

/-- So its items are the command and those of the rest. -/
theorem items_encode (index : Nat) (header : Header) (values rest : List Word)
    (framed : values.length = header.truncate.payloadWords) :
    items ⟨index, header.encode :: values ++ rest⟩ =
      .ok ⟨index, header.encode, header.truncate, values⟩ ::
        items ⟨index + (values.length + 1), rest⟩ :=
  items_of_some (next_encode index header values rest framed)

end CommandCursor

end HostChannel
