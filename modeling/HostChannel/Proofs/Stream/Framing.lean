import HostChannel.Proofs.Stream.Command

/-!
# Framing

`Framing` says how a stream is cut without cutting it: one rule for each kind of item. A stream
has exactly one framing, and it is the items of the cursor, so what holds of them is shown by
induction on the rules. The spans of the items, put one behind the other, are the stream, and what
each item tells of the words at its index is so (`every_word_accounted_for`).
-/

namespace HostChannel

/-- The words from an index on are cut into items. -/
inductive Framing : Nat → List Word → List StreamItem → Prop where
  /-- No words are no items. -/
  | ended (index : Nat) : Framing index [] []
  /-- A word that is no header is an item of its own. -/
  | unknown {index : Nat} {word : Word} {rest : List Word} {items : List StreamItem}
      (unassigned : Header.decode? word = none) (behind : Framing (index + 1) rest items) :
      Framing index (word :: rest)
        (.error (.unknownOpcode index word (Opcode.numberOf word)) :: items)
  /-- A header that asks for more words than remain is the last item. -/
  | truncated {index : Nat} {word : Word} {rest : List Word} {header : Header}
      (decoded : Header.decode? word = some header) (short : rest.length < header.payloadWords) :
      Framing index (word :: rest)
        [.error (.truncated index header.opcode header.payloadWords rest.length)]
  /-- A header is an item with as many of the words behind it as it asks for. -/
  | command {index : Nat} {word : Word} {header : Header} {payload rest : List Word}
      {items : List StreamItem} (decoded : Header.decode? word = some header)
      (framed : payload.length = header.payloadWords)
      (behind : Framing (index + (payload.length + 1)) rest items) :
      Framing index (word :: (payload ++ rest)) (.ok ⟨index, word, header, payload⟩ :: items)

namespace CommandCursor

/-- The items of a cursor frame the words that it has not cut. -/
theorem framing_items (cursor : CommandCursor) :
    Framing cursor.index cursor.rest cursor.items := by
  induction size : cursor.rest.length using Nat.strongRecOn generalizing cursor with
  | ind size ih =>
    subst size
    obtain ⟨index, words⟩ := cursor
    cases words with
    | nil =>
      rw [items_of_none rfl]
      exact .ended index
    | cons word rest =>
      cases decoded : Header.decode? word with
      | none =>
        rw [items_of_some (next_unknown index decoded rest)]
        exact .unknown decoded (ih _ (Nat.lt_succ_self _) ⟨index + 1, rest⟩ rfl)
      | some header =>
        by_cases short : rest.length < header.payloadWords
        · rw [items_of_some (next_truncated index decoded short), items_of_none rfl]
          exact .truncated decoded short
        · -- The rest is what the header asks for and what is behind that.
          obtain ⟨payload, behind, rfl, framed⟩ :
              ∃ payload behind, rest = payload ++ behind ∧ payload.length = header.payloadWords :=
            ⟨_, _, (List.take_append_drop _ _).symm,
              List.length_take_of_le (Nat.not_lt.mp short)⟩
          rw [items_of_some (next_command index decoded framed behind)]
          refine .command decoded framed (ih _ ?_ ⟨_, behind⟩ rfl)
          simp only [List.length_cons, List.length_append]
          omega

end CommandCursor

/-- The items of a stream frame it. -/
theorem framing_commands (words : List Word) : Framing 0 words (commands words) :=
  (CommandCursor.ofWords words).framing_items

namespace Framing

variable {index : Nat} {words : List Word} {items : List StreamItem}

/-- No other items frame the words. -/
theorem eq_items (framing : Framing index words items) :
    items = CommandCursor.items ⟨index, words⟩ := by
  induction framing with
  | ended index => exact (CommandCursor.items_of_none rfl).symm
  | unknown unassigned behind ih =>
    rw [CommandCursor.items_of_some (CommandCursor.next_unknown _ unassigned _), ← ih]
  | truncated decoded short =>
    rw [CommandCursor.items_of_some (CommandCursor.next_truncated _ decoded short),
      CommandCursor.items_of_none rfl]
  | command decoded framed behind ih =>
    rw [CommandCursor.items_of_some (CommandCursor.next_command _ decoded framed _), ← ih]

/-- So items that frame a stream are its items. -/
theorem eq_commands (framing : Framing 0 words items) : items = commands words :=
  framing.eq_items

/-- Each item takes up at least one word. -/
theorem length_le (framing : Framing index words items) : items.length ≤ words.length := by
  induction framing with
  | ended index => exact Nat.le_refl _
  | unknown unassigned behind ih => exact Nat.succ_le_succ ih
  | truncated decoded short => exact Nat.succ_le_succ (Nat.zero_le _)
  | command decoded framed behind ih =>
    simp only [List.length_cons, List.length_append]
    omega

end Framing

namespace CommandCursor

/-- The cursor after a number of requests for the next item. -/
def after (cursor : CommandCursor) : Nat → CommandCursor
  | 0 => cursor
  | count + 1 => cursor.next.2.after count

/-- Requests are answered with the items in order, and with nothing from then on. -/
theorem next_after (cursor : CommandCursor) (count : Nat) :
    (cursor.after count).next.1 = cursor.items[count]? := by
  induction count generalizing cursor with
  | zero =>
    rw [after]
    cases taken : cursor.next with
    | mk item behind =>
      cases item with
      | none => rw [items_of_none taken, List.getElem?_nil]
      | some item => rw [items_of_some taken, List.getElem?_cons_zero]
  | succ count ih =>
    rw [after, ih]
    cases taken : cursor.next with
    | mk item behind =>
      cases item with
      | none =>
        rw [behind_of_none taken, items_of_none taken, List.getElem?_nil, List.getElem?_nil]
      | some item => rw [items_of_some taken, List.getElem?_cons_succ]

end CommandCursor

namespace StreamItem

/-- The index of the first word of an item. -/
def index : StreamItem → Nat
  | .ok command => command.index
  | .error (.unknownOpcode index _ _) => index
  | .error (.truncated index _ _ _) => index

/-- The words that an item takes up in a stream: a command with its payload, a word that is no
header, or all words from a truncated header on. -/
def span (words : List Word) : StreamItem → List Word
  | .ok command => command.word :: command.payload
  | .error (.unknownOpcode _ word _) => [word]
  | .error (.truncated index _ _ _) => words.drop index

/-- The item is a truncated command. -/
def cutShort : StreamItem → Bool
  | .error (.truncated ..) => true
  | _ => false

/-- A header at an index asks for more words than remain behind it. -/
def Overruns (words : List Word) (index : Nat) : Prop :=
  ∃ word header, words[index]? = some word ∧ Header.decode? word = some header ∧
    words.length - (index + 1) < header.payloadWords

/-- What an item tells of the words at its index is so. -/
def Tells (words : List Word) : StreamItem → Prop
  | .ok command =>
    words[command.index]? = some command.word ∧ Header.decode? command.word = some command.header ∧
      command.payload.length = command.header.payloadWords ∧
      command.payload = (words.drop (command.index + 1)).take command.header.payloadWords
  | .error (.unknownOpcode index word number) =>
    words[index]? = some word ∧ Header.decode? word = none ∧ number = word >>> 28
  | .error (.truncated index opcode needed available) =>
    ∃ word header, words[index]? = some word ∧ Header.decode? word = some header ∧
      opcode = header.opcode ∧ needed = header.payloadWords ∧
      available = words.length - (index + 1) ∧ available < needed

end StreamItem

/-- The number of an operation is the word without its low bits. -/
theorem Opcode.numberOf_eq (word : Word) : numberOf word = word >>> 28 := by
  have bound := word.toNat_lt
  apply UInt32.toNat.inj
  rw [numberOf, BitField.toNat_extract, UInt32.toNat_shiftRight, Nat.shiftRight_eq_div_pow,
    Nat.shiftRight_eq_div_pow]
  change word.toNat / 2 ^ 28 % 2 ^ 4 = word.toNat / 2 ^ 28
  omega

namespace Framing

variable {index : Nat} {front rest : List Word} {items : List StreamItem} {item : StreamItem}

/-- A framing is taken up again behind any of its items, where their spans end. -/
theorem resumed (framing : Framing index rest items) (length : front.length = index)
    (position : Nat) :
    ∃ behind, rest = (items.take position).flatMap (StreamItem.span (front ++ rest)) ++ behind ∧
      Framing (index + ((items.take position).flatMap (StreamItem.span (front ++ rest))).length)
        behind (items.drop position) := by
  induction framing generalizing front position with
  | ended index =>
    rw [List.take_nil, List.drop_nil]
    exact ⟨[], rfl, .ended _⟩
  | @unknown index word rest items unassigned behind ih =>
    cases position with
    | zero => exact ⟨_, rfl, .unknown unassigned behind⟩
    | succ position =>
      obtain ⟨later, spans, resumed⟩ := @ih (front ++ [word]) (by simp [length]) position
      rw [List.append_assoc, List.singleton_append] at spans resumed
      rw [List.take_succ_cons, List.drop_succ_cons, List.flatMap_cons]
      refine ⟨later, congrArg (word :: ·) spans, ?_⟩
      rw [List.length_append, ← Nat.add_assoc]
      exact resumed
  | @truncated index word rest header decoded short =>
    cases position with
    | zero => exact ⟨_, rfl, .truncated decoded short⟩
    | succ position =>
      rw [List.take_succ_cons, List.take_nil, List.drop_succ_cons, List.drop_nil,
        List.flatMap_singleton]
      exact ⟨[], by simp [StreamItem.span, ← length], .ended _⟩
  | @command index word header payload rest items decoded framed behind ih =>
    cases position with
    | zero => exact ⟨_, rfl, .command decoded framed behind⟩
    | succ position =>
      obtain ⟨later, spans, resumed⟩ :=
        @ih (front ++ word :: payload) (by simp [length]) position
      rw [List.append_assoc, List.cons_append] at spans resumed
      rw [List.take_succ_cons, List.drop_succ_cons, List.flatMap_cons]
      refine ⟨later, ?_, ?_⟩
      · rw [List.append_assoc, ← spans]
        rfl
      · rw [List.length_append, ← Nat.add_assoc]
        exact resumed

/-- The spans of all items are the words. -/
theorem flatMap_span (framing : Framing index rest items) (length : front.length = index) :
    items.flatMap (StreamItem.span (front ++ rest)) = rest := by
  obtain ⟨behind, spans, resumed⟩ := framing.resumed length items.length
  rw [List.take_length] at spans
  rw [List.drop_length] at resumed
  cases resumed
  rw [List.append_nil] at spans
  exact spans.symm

/-- The first item starts at the first word. -/
theorem index_head (framing : Framing index rest (item :: items)) : item.index = index := by
  cases framing <;> rfl

/-- No item starts before the index. -/
theorem le_index (framing : Framing index rest items) : ∀ item ∈ items, index ≤ item.index := by
  induction framing with
  | ended index => simp
  | unknown unassigned behind ih =>
    rintro item (_ | ⟨_, later⟩)
    · exact Nat.le_refl _
    · exact Nat.le_of_succ_le (ih item later)
  | truncated decoded short =>
    rintro item (_ | ⟨_, later⟩)
    · exact Nat.le_refl _
    · contradiction
  | command decoded framed behind ih =>
    rintro item (_ | ⟨_, later⟩)
    · exact Nat.le_refl _
    · exact Nat.le_of_add_right_le (ih item later)

/-- The word behind a number of words has their number as its index. -/
theorem getElem?_front (front rest : List Word) (word : Word) :
    (front ++ word :: rest)[front.length]? = some word := by
  rw [List.getElem?_append_right (Nat.le_refl _), Nat.sub_self, List.getElem?_cons_zero]

/-- The words behind it begin at the next index. -/
theorem drop_front (front rest : List Word) (word : Word) :
    (front ++ word :: rest).drop (front.length + 1) = rest := by
  rw [← List.drop_drop, List.drop_left, List.drop_succ_cons, List.drop_zero]

/-- So many words are left there. -/
theorem length_front (front rest : List Word) (word : Word) :
    (front ++ word :: rest).length - (front.length + 1) = rest.length := by
  rw [← List.length_drop, drop_front]

/-- What the first item tells is so. -/
theorem tells_head (framing : Framing index rest (item :: items))
    (length : front.length = index) : item.Tells (front ++ rest) := by
  subst length
  cases framing with
  | unknown unassigned behind =>
    exact ⟨getElem?_front _ _ _, unassigned, Opcode.numberOf_eq _⟩
  | truncated decoded short =>
    exact ⟨_, _, getElem?_front _ _ _, decoded, rfl, rfl, (length_front _ _ _).symm, short⟩
  | command decoded framed behind =>
    refine ⟨getElem?_front _ _ _, decoded, framed, ?_⟩
    rw [drop_front]
    exact (List.take_left' framed).symm

/-- The first item is cut short exactly when its header asks for too many words. -/
theorem cutShort_head (framing : Framing index rest (item :: items))
    (length : front.length = index) :
    item.cutShort = true ↔ StreamItem.Overruns (front ++ rest) index := by
  subst length
  cases framing with
  | unknown unassigned behind =>
    refine iff_of_false Bool.false_ne_true ?_
    rintro ⟨word, header, found, decoded, -⟩
    rw [getElem?_front] at found
    rw [Option.some.inj found, decoded] at unassigned
    contradiction
  | truncated decoded short =>
    refine iff_of_true rfl ⟨_, _, getElem?_front _ _ _, decoded, ?_⟩
    rw [length_front]
    exact short
  | command decoded framed behind =>
    refine iff_of_false Bool.false_ne_true ?_
    rintro ⟨word, header, found, other, short⟩
    rw [getElem?_front] at found
    rw [Option.some.inj found, other] at decoded
    rw [length_front, Option.some.inj decoded, ← framed, List.length_append] at short
    omega

/-- Nothing comes behind an item that is cut short. -/
theorem nil_of_cutShort (framing : Framing index rest (item :: items))
    (short : item.cutShort = true) : items = [] := by
  cases framing with
  | unknown unassigned behind => contradiction
  | truncated decoded short => rfl
  | command decoded framed behind => contradiction

end Framing

/-- The spans of the items of a stream are the stream. -/
theorem flatMap_span_commands (words : List Word) :
    (commands words).flatMap (StreamItem.span words) = words :=
  (framing_commands words).flatMap_span (show ([] : List Word).length = 0 from rfl)

/-- Every word of a stream is accounted for. Requests for its items end, after at most one for each
word, and are answered with nothing from then on. The spans of the items are the stream. Each item
starts where the spans before it end and tells what stands there; it is cut short exactly when its
header asks for more words than remain, and then it is the last. -/
theorem every_word_accounted_for (words : List Word) :
    (commands words).length ≤ words.length ∧
      (∀ count, ((CommandCursor.ofWords words).after count).next.1 = (commands words)[count]?) ∧
      (commands words).flatMap (StreamItem.span words) = words ∧
      ∀ position item, (commands words)[position]? = some item →
        item.index = (((commands words).take position).flatMap (StreamItem.span words)).length ∧
          item.Tells words ∧
          (item.cutShort = true ↔ StreamItem.Overruns words item.index) ∧
          (item.cutShort = true → position + 1 = (commands words).length) := by
  have framing := framing_commands words
  refine ⟨framing.length_le, CommandCursor.next_after _, flatMap_span_commands words, ?_⟩
  intro position item found
  obtain ⟨inside, rfl⟩ := List.getElem?_eq_some_iff.mp found
  obtain ⟨behind, spans, resumed⟩ :=
    framing.resumed (show ([] : List Word).length = 0 from rfl) position
  rw [List.nil_append] at spans resumed
  rw [Nat.zero_add, List.drop_eq_getElem_cons inside] at resumed
  have start := resumed.index_head
  have tells := resumed.tells_head rfl
  have short := resumed.cutShort_head rfl
  rw [← spans] at tells short
  refine ⟨start, tells, start ▸ short, fun cut => ?_⟩
  have last := congrArg List.length (resumed.nil_of_cutShort cut)
  rw [List.length_drop, List.length_nil] at last
  omega

end HostChannel
