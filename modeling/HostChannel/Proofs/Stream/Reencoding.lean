import HostChannel.Proofs.Stream.Framing
import HostChannel.Proofs.Stream.RegisterWrite

/-!
# Streams written anew

A stream is written anew by encoding the header of each of its commands again; words that are no
headers, payload and what a truncated header leaves are taken over. The result is the stream
without the bits that a header without fields leaves unused. It is cut like the stream, makes the
same register writes, and stays as it is when it is written anew (`reencoding_normalises`).
-/

namespace HostChannel

/-- The command with its header written anew. -/
def Command.reencoded (command : Command) : Command :=
  { command with word := command.header.encode }

/-- The item with the header of its command written anew; an anomaly stays. -/
def StreamItem.reencoded (item : StreamItem) : StreamItem :=
  item.map Command.reencoded

/-- The stream with the header of each command written anew. -/
def reencoded (words : List Word) : List Word :=
  ((commands words).map StreamItem.reencoded).flatMap (StreamItem.span words)

/-- The item is a command at the index whose header has no fields. -/
def StreamItem.bareAt (index : Nat) : StreamItem → Bool
  | .ok command => command.index == index && command.header.bare
  | .error _ => false

/-- What writing anew makes of the word at an index: the low bits of a header without fields are
cleared. -/
def normalised (items : List StreamItem) (index : Nat) (word : Word) : Word :=
  if items.any (StreamItem.bareAt index) then word &&& 0xf0000000 else word

namespace Header

/-- Writing a decoded header anew clears the low bits if it has no fields. -/
theorem encode_of_decode? {word : Word} {header : Header} (decoded : decode? word = some header) :
    header.encode = if header.bare then word &&& 0xf0000000 else word := by
  obtain ⟨opcode, found, rfl⟩ := Option.map_eq_some_iff.mp decoded
  exact encode_ofWord found

/-- It is decoded to the same header. -/
theorem decode?_encode_of_decode? {word : Word} {header : Header}
    (decoded : decode? word = some header) : decode? header.encode = some header := by
  rw [decode?_encode, truncate_of_decode? decoded]

end Header

namespace Framing

variable {index : Nat} {front payload rest : List Word} {items : List StreamItem}

/-- The words of the items written anew are framed by these. -/
theorem reencoded (framing : Framing index rest items) (length : front.length = index) :
    Framing index ((items.map StreamItem.reencoded).flatMap (StreamItem.span (front ++ rest)))
      (items.map StreamItem.reencoded) := by
  induction framing generalizing front with
  | ended index => exact .ended index
  | @unknown index word rest items unassigned behind ih =>
    have later := @ih (front ++ [word]) (by simp [length])
    rw [List.append_assoc, List.singleton_append] at later
    exact .unknown unassigned later
  | @truncated index word rest header decoded short =>
    rw [List.map_singleton, List.flatMap_singleton]
    have same : StreamItem.span (front ++ word :: rest) (StreamItem.reencoded
        (.error (.truncated index header.opcode header.payloadWords rest.length))) = word :: rest :=
      List.drop_left' length
    rw [same]
    exact .truncated decoded short
  | @command index word header payload rest items decoded framed behind ih =>
    have later := @ih (front ++ word :: payload) (by simp [length])
    rw [List.append_assoc, List.cons_append] at later
    exact .command (Header.decode?_encode_of_decode? decoded) framed later

/-- A word where no item starts is left as it is. -/
theorem normalised_of_away {position : Nat} (away : ∀ item ∈ items, item.index ≠ position)
    (word : Word) : normalised items position word = word := by
  rw [normalised, if_neg]
  rw [Bool.not_eq_true, List.any_eq_false]
  rintro (anomaly | command) among bare
  · contradiction
  · exact away _ among (beq_iff_eq.mp (Bool.and_eq_true_iff.mp bare).1)

/-- An anomaly makes no difference. -/
theorem normalised_anomaly (anomaly : Anomaly) (position : Nat) (word : Word) :
    normalised (.error anomaly :: items) position word = normalised items position word := rfl

/-- A command that starts at another index makes no difference. -/
theorem normalised_command {command : Command} {position : Nat} (apart : command.index ≠ position)
    (word : Word) :
    normalised (.ok command :: items) position word = normalised items position word := by
  have away : StreamItem.bareAt position (.ok command) = false :=
    Bool.and_eq_false_imp.mpr fun same => absurd (beq_iff_eq.mp same) apart
  rw [normalised, normalised, List.any_cons, away, Bool.false_or]

/-- The payload of a command is left as it is. -/
theorem normalised_payload {command : Command}
    (later : ∀ item ∈ items, command.index + command.payload.length < item.index) :
    (command.payload.zipIdx (command.index + 1)).map (fun entry =>
      normalised (.ok command :: items) entry.2 entry.1) = command.payload := by
  refine (List.map_congr_left fun entry among => ?_).trans (List.zipIdx_map_fst _ _)
  have bounds := List.mem_zipIdx among
  rw [normalised_command (Nat.ne_of_lt bounds.1), normalised_of_away]
  intro item among
  have := later item among
  omega

/-- A command makes no difference to the words that come after its header. -/
theorem normalised_behind {command : Command} {start : Nat} (past : command.index < start)
    (rest : List Word) :
    (rest.zipIdx start).map (fun entry => normalised (.ok command :: items) entry.2 entry.1) =
      (rest.zipIdx start).map fun entry => normalised items entry.2 entry.1 := by
  refine List.map_congr_left fun entry among => normalised_command ?_ _
  exact Nat.ne_of_lt (Nat.lt_of_lt_of_le past (List.mem_zipIdx among).1)

/-- Where a command starts, its header is written anew. -/
theorem normalised_header {command : Command}
    (decoded : Header.decode? command.word = some command.header)
    (away : ∀ item ∈ items, item.index ≠ command.index) :
    normalised (.ok command :: items) command.index command.word = command.header.encode := by
  have same : StreamItem.bareAt command.index (.ok command) = command.header.bare := by
    rw [StreamItem.bareAt, beq_self_eq_true, Bool.true_and]
  have others := normalised_of_away away command.word
  rw [Header.encode_of_decode? decoded, normalised, List.any_cons, same]
  rw [normalised] at others
  cases command.header.bare with
  | false => rw [Bool.false_or, others, if_neg Bool.false_ne_true]
  | true => rfl

/-- The words of the items written anew are the words, but for the low bits of headers without
fields. -/
theorem flatMap_reencoded (framing : Framing index rest items) (length : front.length = index) :
    (items.map StreamItem.reencoded).flatMap (StreamItem.span (front ++ rest)) =
      (rest.zipIdx index).map fun entry => normalised items entry.2 entry.1 := by
  induction framing generalizing front with
  | ended index => rfl
  | @unknown index word rest items unassigned behind ih =>
    have later := @ih (front ++ [word]) (by simp [length])
    rw [List.append_assoc, List.singleton_append] at later
    have away : ∀ item ∈ items, item.index ≠ index := fun item among =>
      Nat.ne_of_gt (behind.le_index item among)
    simp only [List.map_cons, List.flatMap_cons, later, List.zipIdx_cons, normalised_anomaly,
      normalised_of_away away]
    rfl
  | @truncated index word rest header decoded short =>
    rw [List.map_singleton, List.flatMap_singleton]
    exact (List.drop_left' length).trans (List.zipIdx_map_fst _ _).symm
  | @command index word header payload rest items decoded framed behind ih =>
    have later := @ih (front ++ word :: payload) (by simp [length])
    rw [List.append_assoc, List.cons_append] at later
    have starts : ∀ item ∈ items, index + payload.length < item.index := behind.le_index
    have away : ∀ item ∈ items, item.index ≠ index := by
      intro item among
      have := starts item among
      omega
    have first := @normalised_header items ⟨index, word, header, payload⟩ decoded away
    have carried := @normalised_payload items ⟨index, word, header, payload⟩ starts
    have others := @normalised_behind items ⟨index, word, header, payload⟩
      (index + 1 + payload.length) (by dsimp only; omega) rest
    dsimp only at first carried
    rw [List.map_cons, List.flatMap_cons, later, List.zipIdx_cons, List.map_cons,
      List.zipIdx_append, List.map_append, first, carried, others, Nat.add_assoc, Nat.add_comm 1]
    rfl

end Framing

/-- Decoding does not look at the words of headers. -/
theorem threaded_reencoded (active : Word) (items : List StreamItem) :
    threaded StreamItem.decoded active (items.map StreamItem.reencoded) =
      threaded StreamItem.decoded active items := by
  induction items generalizing active with
  | nil => rfl
  | cons item rest ih =>
    rw [List.map_cons, threaded_cons, threaded_cons]
    cases item <;> exact congrArg _ (ih _)

/-- Writing a stream anew encodes its headers again, and keeps its length and each of its words but
for the low bits of headers without fields, which are cleared. The result is cut into the same
items, of which the commands have their words written anew, and has the same register writes and
anomalies. Writing it anew once more changes nothing. -/
theorem reencoding_normalises (words : List Word) :
    (reencoded words).length = words.length ∧
      (reencoded words = words.mapIdx fun position word =>
        if (commands words).any (StreamItem.bareAt position) then word &&& 0xf0000000 else word) ∧
      commands (reencoded words) = (commands words).map StreamItem.reencoded ∧
      Decoder.given (reencoded words) = Decoder.given words ∧
      reencoded (reencoded words) = reencoded words := by
  have framing := framing_commands words
  have rewritten := framing.reencoded (show ([] : List Word).length = 0 from rfl)
  have normal := framing.flatMap_reencoded (show ([] : List Word).length = 0 from rfl)
  rw [List.nil_append] at rewritten normal
  have cut : commands (reencoded words) = (commands words).map StreamItem.reencoded :=
    rewritten.eq_commands.symm
  refine ⟨?_, ?_, cut, ?_, ?_⟩
  · rw [reencoded, normal, List.length_map, List.length_zipIdx]
  · rw [List.mapIdx_eq_zipIdx_map]
    exact normal
  · rw [Decoder.given_eq, Decoder.given_eq, registerWrites, registerWrites, cut,
      threaded_reencoded]
  · have again : (commands (reencoded words)).map StreamItem.reencoded =
        commands (reencoded words) := by
      rw [cut, List.map_map]
      exact List.map_congr_left fun item _ => by cases item <;> rfl
    rw [reencoded, again, flatMap_span_commands]

-- The low bits of a restart are cleared; the same word behind a truncated header is left alone.
example : reencoded [0x5000abcd, 0xb0000000, 0x10000002, 0x5000abcd] =
    [0x50000000, 0xb0000000, 0x10000002, 0x5000abcd] := by cbv

end HostChannel
