import HostChannel.Proofs.Listing.Lines
import HostChannel.Proofs.Stream.Framing
import HostChannel.Proofs.Stream.RegisterWrite

/-!
# Words of a listing

The lines of a listing that begin with a digit show the words of the stream, one each and in order,
up to a truncated header. They are read back from the text, so two streams with the same listing
have the same words up to there (`listing_shows_every_word`).
-/

namespace HostChannel

namespace Listing

open Text.Hexadecimal

/-- A line begins with a hexadecimal digit, in lower or upper case. -/
def beginsWithDigit (line : String) : Bool :=
  line.toList.head?.any fun character => isDigit character || ('A' ≤ character && character ≤ 'F')

/-- The index and the word in front of a line: at least four digits, a colon, exactly eight digits
and a blank. -/
def readPlace? (line : String) : Option (Nat × Word) :=
  let index := line.toList.takeWhile isDigit
  match line.toList.dropWhile isDigit with
  | ':' :: ' ' :: behind =>
    let word := behind.takeWhile isDigit
    if 4 ≤ index.length ∧ word.length = 8 ∧ (behind.dropWhile isDigit).head? = some ' ' then do
      pure (← number? index, UInt32.ofNat (← number? word))
    else none
  | _ => none

/-- Digits are taken from the front up to the first character that is none. -/
theorem span_digits (least number : Nat) {character : Char} (other : isDigit character = false)
    (rest : List Char) :
    (digits least number ++ character :: rest).takeWhile isDigit = digits least number ∧
      (digits least number ++ character :: rest).dropWhile isDigit = character :: rest := by
  constructor
  · rw [List.takeWhile_append_of_pos isDigit_of_mem_digits,
      List.takeWhile_cons_of_neg (by simp [other]), List.append_nil]
  · rw [List.dropWhile_append_of_pos isDigit_of_mem_digits,
      List.dropWhile_cons_of_neg (by simp [other])]

/-- The index and the word in front of a line, with a blank behind them. -/
theorem toList_location (index : Nat) (word : Word) (rest : List Char) :
    (location index word).toList ++ ' ' :: rest =
      digits 4 index ++ ':' :: ' ' :: (digits 8 word.toNat ++ ' ' :: rest) := by
  simp [location, padded]

/-- A line that shows a word begins with its index and the word. -/
theorem lineText_of_place? {line : ListingLine} {index : Nat} {word : Word}
    (shown : line.place? = some (index, word)) :
    ∃ rest, (lineText line).toList = (location index word).toList ++ ' ' :: rest := by
  match line with
  | .header index word header =>
    obtain ⟨rfl, rfl⟩ := Prod.mk.inj (Option.some.inj shown)
    change ∃ rest, (location index word ++ "  " ++ headerText header).toList = _
    simp
  | .gatherBase index word =>
    obtain ⟨rfl, rfl⟩ := Prod.mk.inj (Option.some.inj shown)
    change ∃ rest, (location index word ++ "      base").toList = _
    simp
  | .write (some (index, word)) write =>
    obtain ⟨rfl, rfl⟩ := Prod.mk.inj (Option.some.inj shown)
    change ∃ rest, (location index word ++ "      " ++ writeText write).toList = _
    simp
  | .anomaly (.unknownOpcode index word number) =>
    obtain ⟨rfl, rfl⟩ := Prod.mk.inj (Option.some.inj shown)
    change ∃ rest, (location index word ++ "  ??? opcode=" ++ _).toList = _
    simp

/-- A line that shows no word begins with a blank. -/
theorem head?_lineText_of_place?_eq_none {line : ListingLine} (none : line.place? = none) :
    (lineText line).toList.head? = some ' ' := by
  match line with
  | .write .none write =>
    change ("                    " ++ writeText write).toList.head? = _
    simp
  | .anomaly (.truncated index opcode needed available) =>
    change ("      ; " ++ _).toList.head? = _
    simp

/-- So the lines that show a word are those that begin with a digit. -/
theorem beginsWithDigit_lineText (line : ListingLine) :
    beginsWithDigit (lineText line) = line.place?.isSome := by
  cases shown : line.place? with
  | none =>
    rw [beginsWithDigit, head?_lineText_of_place?_eq_none shown]
    rfl
  | some place =>
    obtain ⟨index, word⟩ := place
    obtain ⟨rest, text⟩ := lineText_of_place? shown
    rw [toList_location] at text
    have four := le_length_digits 4 index
    cases front : digits 4 index with
    | nil => simp [front] at four
    | cons first others =>
      have digit : isDigit first = true :=
        isDigit_of_mem_digits first (front ▸ List.mem_cons_self)
      rw [front] at text
      simp [beginsWithDigit, text, digit]

/-- The index and the word are read back from the line. -/
theorem readPlace?_lineText {line : ListingLine} {place : Nat × Word}
    (shown : line.place? = some place) : readPlace? (lineText line) = some place := by
  obtain ⟨index, word⟩ := place
  obtain ⟨rest, text⟩ := lineText_of_place? shown
  rw [toList_location] at text
  have four : 4 ≤ (digits 4 index).length := le_length_digits 4 index
  have eight : (digits 8 word.toNat).length = 8 := length_digits_word _ word.toNat_lt
  have colon : isDigit ':' = false := rfl
  have blank : isDigit ' ' = false := rfl
  obtain ⟨first, behind⟩ :=
    span_digits 4 index colon (' ' :: (digits 8 word.toNat ++ ' ' :: rest))
  obtain ⟨second, last⟩ := span_digits 8 word.toNat blank rest
  simp only [readPlace?, text, first, behind, second, last]
  rw [if_pos ⟨four, eight, rfl⟩, number?_digits, number?_digits]
  simp

/-- Reading the lines that begin with a digit gives the words that the lines show. -/
theorem readPlace?_lines (lines : List ListingLine) :
    ((lines.map lineText).filter beginsWithDigit).map readPlace? =
      (lines.filterMap ListingLine.place?).map some := by
  induction lines with
  | nil => rfl
  | cons line rest ih =>
    rw [List.map_cons, List.filter_cons, beginsWithDigit_lineText, List.filterMap_cons]
    cases shown : line.place? with
    | none => exact ih
    | some place =>
      rw [Option.isSome_some, if_pos rfl, List.map_cons, List.map_cons, readPlace?_lineText shown,
        ih]

/-- Where items that end at an index stop being shown: at a truncated header, or at the end. -/
def stop (finish : Nat) (items : List StreamItem) : Nat :=
  ((items.find? StreamItem.cutShort).map StreamItem.index).getD finish

/-- The number of words of a stream before a truncated header. -/
def legible (words : List Word) : Nat :=
  stop words.length (commands words)

/-- The words with their indexes, the index in front. -/
def numbered (index : Nat) (words : List Word) : List (Nat × Word) :=
  (words.zipIdx index).map Prod.swap

/-- The first word has the index itself. -/
theorem numbered_cons (index : Nat) (word : Word) (rest : List Word) :
    numbered index (word :: rest) = (index, word) :: numbered (index + 1) rest := by
  rw [numbered, List.zipIdx_cons, List.map_cons]
  rfl

/-- Words behind others are numbered on from them. -/
theorem numbered_append (index : Nat) (front back : List Word) :
    numbered index (front ++ back) = numbered index front ++ numbered (index + front.length) back := by
  rw [numbered, List.zipIdx_append, List.map_append]
  rfl

/-- Without their indexes they are the words. -/
theorem snd_numbered (index : Nat) (words : List Word) :
    (numbered index words).map Prod.snd = words := by
  rw [numbered, List.map_map]
  exact List.zipIdx_map_fst index words

/-- The lines of at least as many register writes as there are payload words show the payload. -/
theorem places_writes {writes : List RegisterWrite} {payload : List Word} (start : Nat)
    (enough : payload.length ≤ writes.length) :
    (writes.mapIdx fun position write => ListingLine.write
        (payload[position]?.map fun word => (start + position, word)) write).filterMap
      ListingLine.place? = numbered start payload := by
  induction writes generalizing payload start with
  | nil =>
    rw [List.eq_nil_of_length_eq_zero (Nat.le_zero.mp enough)]
    rfl
  | cons write others ih =>
    rw [List.mapIdx_cons, List.filterMap_cons]
    cases payload with
    | nil => exact @ih [] start (Nat.zero_le _)
    | cons word rest =>
      have later := ih (start + 1) (Nat.le_of_succ_le_succ enough)
      simp only [Nat.add_assoc, Nat.add_comm 1] at later
      rw [numbered_cons, ← later]
      rfl

/-- Payload words that are as many as the bits of a mask are all written. -/
theorem length_selectedWrites (engineClass offset : Word) {mask : Word} {payload : List Word}
    (framed : payload.length = Word.bitCount mask) :
    payload.length ≤ (Command.selectedWrites engineClass offset mask payload).length := by
  rw [Command.selectedWrites, List.length_zipWith]
  exact Nat.le_min.mpr ⟨Nat.le_of_eq framed, Nat.le_refl _⟩

/-- The lines behind a header show its payload. -/
theorem places_body {command : Command}
    (framed : command.payload.length = command.header.payloadWords) (active : Word) :
    (body command active).filterMap ListingLine.place? =
      numbered (command.index + 1) command.payload := by
  obtain ⟨index, word, header, payload⟩ := command
  cases header with
  | gather offset insert sequential count =>
    obtain ⟨address, rfl⟩ := List.length_eq_one_iff.mp framed
    rfl
  | setClass | masked => exact places_writes _ (length_selectedWrites _ _ framed)
  | incrementing => exact places_writes _ (Nat.le_of_eq (List.length_mapIdx ..).symm)
  | nonIncrementing => exact places_writes _ (Nat.le_of_eq (List.length_map ..).symm)
  | immediate | restart | extend | channelDone =>
    exact places_writes _ (framed.trans_le (Nat.zero_le _))

/-- Items are shown from their first index on. -/
theorem le_stop {index : Nat} {words : List Word} {items : List StreamItem}
    (framing : Framing index words items) : index ≤ stop (index + words.length) items := by
  rw [stop]
  cases found : items.find? StreamItem.cutShort with
  | none => exact Nat.le_add_right _ _
  | some item => exact framing.le_index item (List.mem_of_find?_eq_some found)

/-- The lines of items show the words from the index on, up to a truncated header. -/
theorem places_threaded {index : Nat} {words : List Word} {items : List StreamItem}
    (framing : Framing index words items) (active : Word) :
    (threaded itemLines active items).filterMap ListingLine.place? =
      numbered index (words.take (stop (index + words.length) items - index)) := by
  induction framing generalizing active with
  | ended index => rw [List.take_nil]; rfl
  | @unknown index word rest items unassigned behind ih =>
    have shown := le_stop behind
    have same : stop (index + (word :: rest).length)
        (.error (.unknownOpcode index word (Opcode.numberOf word)) :: items) =
          stop (index + 1 + rest.length) items := by
      rw [List.length_cons, Nat.add_assoc, Nat.add_comm 1]
      rfl
    have step : stop (index + 1 + rest.length) items - index =
        stop (index + 1 + rest.length) items - (index + 1) + 1 := by omega
    rw [threaded_cons, List.filterMap_append, ih, same, step, List.take_succ_cons, numbered_cons]
    rfl
  | @truncated index word rest header decoded short =>
    rw [threaded_cons, threaded_nil]
    have same : stop (index + (word :: rest).length)
        [.error (.truncated index header.opcode header.payloadWords rest.length)] = index := rfl
    rw [same, Nat.sub_self, List.take_zero]
    rfl
  | @command index word header payload rest items decoded framed behind ih =>
    have shown := le_stop behind
    have ends : index + (word :: (payload ++ rest)).length =
        index + (payload.length + 1) + rest.length := by
      simp only [List.length_cons, List.length_append]
      omega
    have same : stop (index + (word :: (payload ++ rest)).length)
        (.ok ⟨index, word, header, payload⟩ :: items) =
          stop (index + (payload.length + 1) + rest.length) items := by
      rw [ends]
      rfl
    rw [same]
    generalize stop (index + (payload.length + 1) + rest.length) items = finish at shown ih ⊢
    have step : finish - index = payload.length + (finish - (index + (payload.length + 1))) + 1 := by
      omega
    rw [threaded_cons, List.filterMap_append, ih, step, List.take_succ_cons, numbered_cons,
      List.take_length_add_append, numbered_append, Nat.add_assoc, Nat.add_comm 1]
    have front := @places_body ⟨index, word, header, payload⟩ framed (header.classAfter active)
    exact congrArg (fun places => (index, word) :: (places ++ _)) front

/-- The lines of a listing that begin with a digit show the words of the stream in order, each with
its index in front, up to a truncated header. So the text of a listing tells these words. -/
theorem listing_shows_every_word (words : List Word) :
    ((Text.lines (text words)).filter beginsWithDigit).map readPlace? =
        (numbered 0 (words.take (legible words))).map some ∧
      ∀ other, text words = text other →
        words.take (legible words) = other.take (legible other) := by
  have shown : ∀ words, ((Text.lines (text words)).filter beginsWithDigit).map readPlace? =
      (numbered 0 (words.take (legible words))).map some := by
    intro words
    have places := places_threaded (framing_commands words) 0
    rw [text, lines_append, readPlace?_lines, lines, places, Nat.zero_add, Nat.sub_zero]
    rfl
  refine ⟨shown words, fun other same => ?_⟩
  have read := shown words
  rw [same, shown other] at read
  have numbers := (List.map_inj_right fun _ _ => Option.some.inj).mp read
  rw [← snd_numbered 0 (words.take _), ← numbers, snd_numbered]

end Listing

end HostChannel
