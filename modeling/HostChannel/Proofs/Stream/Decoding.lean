import HostChannel.Proofs.Stream.Composition
import Mathlib.Data.List.Induction

/-!
# A decoder at every call

What a stream gives can be said without a decoder: each of its items gives an anomaly, or the
writes of a command under the class that was selected last, up to and including the command
(`flattened`). A decoder that is asked again and again answers with just these, and has entered no
more of the stream than it needed to: an item is entered exactly if what is before it has been
asked for and more (`Standing`). Its class is the one selected last among what was entered.
-/

namespace HostChannel

namespace StreamItem

/-- The class that an item selects, if it does. -/
def selection? : StreamItem → Option Word
  | .ok command =>
    match command.header with
    | .setClass _ engineClass _ => some engineClass
    | _ => none
  | .error _ => none

/-- What an item gives under a class: its anomaly, or the writes of its command. -/
def given (active : Word) : StreamItem → List DecodedItem
  | .error anomaly => [.error anomaly]
  | .ok command => (command.writes active).map .ok

end StreamItem

/-- The class that was selected last, and zero if none was. -/
def selectedClass (items : List StreamItem) : Word :=
  (items.filterMap StreamItem.selection?).getLast?.getD 0

/-- What items give, each under the class selected last, up to and including itself. -/
def flattened (items : List StreamItem) : List DecodedItem :=
  (items.mapIdx fun place item => item.given (selectedClass (items.take (place + 1)))).flatten

/-- An item behind others selects the class, if it selects any. -/
theorem selectedClass_concat (items : List StreamItem) (item : StreamItem) :
    selectedClass (items ++ [item]) = item.selection?.getD (selectedClass items) := by
  rw [selectedClass, List.filterMap_append, List.filterMap_cons, List.filterMap_nil]
  cases item.selection? with
  | none => rw [List.append_nil, Option.getD_none, selectedClass]
  | some engineClass => rw [List.getLast?_concat, Option.getD_some, Option.getD_some]

/-- It adds what it gives. -/
theorem flattened_concat (items : List StreamItem) (item : StreamItem) :
    flattened (items ++ [item]) =
      flattened items ++ item.given (selectedClass (items ++ [item])) := by
  have earlier : (items.mapIdx fun place other =>
        other.given (selectedClass ((items ++ [item]).take (place + 1)))) =
      items.mapIdx fun place other => other.given (selectedClass (items.take (place + 1))) := by
    apply List.mapIdx_eq_mapIdx_iff.mpr
    intro place within
    rw [List.take_append_of_le_length within]
  have whole : (items ++ [item]).take (items.length + 1) = items ++ [item] := by
    apply List.take_of_length_le
    rw [List.length_append, List.length_singleton]
  rw [flattened, List.mapIdx_concat, earlier, whole, List.flatten_concat, flattened]

/-- What items give stays where others come behind them. -/
theorem flattened_front (items more : List StreamItem) :
    flattened items <+: flattened (items ++ more) := by
  induction more using List.reverseRecOn with
  | nil => simp only [List.append_nil, List.prefix_rfl]
  | append_singleton more item ih =>
    rw [← List.append_assoc, flattened_concat]
    exact ih.trans (List.prefix_append _ _)

/-- The more items, the more they give. -/
theorem length_flattened_take_le (items : List StreamItem) {few many : Nat} (less : few ≤ many) :
    (flattened (items.take few)).length ≤ (flattened (items.take many)).length := by
  have front : (items.take many).take few = items.take few := by
    rw [List.take_take, Nat.min_eq_left less]
  have parts := List.take_append_drop few (items.take many)
  rw [front] at parts
  have shorter := (flattened_front (items.take few) ((items.take many).drop few)).length_le
  rwa [parts] at shorter

/-- The class after a command is the one that it selects, if any. -/
theorem Header.classAfter_eq (command : Command) (active : Word) :
    command.header.classAfter active =
      (StreamItem.selection? (.ok command)).getD active := by
  rw [StreamItem.selection?]
  cases command.header with
  | setClass offset engineClass mask => rfl
  | _ => rfl

/-- Running through items leaves the class that was selected last. -/
theorem carried_decoded (items : List StreamItem) :
    carried StreamItem.decoded 0 items = selectedClass items := by
  induction items using List.reverseRecOn with
  | nil => rfl
  | append_singleton items item ih =>
    rw [carried, List.foldl_append, List.foldl_cons, List.foldl_nil, selectedClass_concat, ← ih]
    cases item with
    | error anomaly => rfl
    | ok command => exact Header.classAfter_eq command _

/-- And gives what they give. -/
theorem threaded_decoded (items : List StreamItem) :
    threaded StreamItem.decoded 0 items = flattened items := by
  induction items using List.reverseRecOn with
  | nil => rfl
  | append_singleton items item ih =>
    rw [threaded_append, carried_decoded, threaded_cons, threaded_nil, List.append_nil, ih,
      flattened_concat, selectedClass_concat]
    cases item with
    | error anomaly => rfl
    | ok command => rw [← Header.classAfter_eq]; rfl

/-- A request more is one behind the others. -/
theorem CommandCursor.after_succ (cursor : CommandCursor) (count : Nat) :
    cursor.after (count + 1) = (cursor.after count).next.2 := by
  induction count generalizing cursor with
  | zero => rfl
  | succ count ih => exact ih cursor.next.2

namespace Decoder

/-- The decoder after a number of calls for the next item. -/
def after (decoder : Decoder) : Nat → Decoder
  | 0 => decoder
  | calls + 1 => decoder.next.2.after calls

/-- A call more is one behind the others. -/
theorem after_succ (decoder : Decoder) (calls : Nat) :
    decoder.after (calls + 1) = (decoder.after calls).next.2 := by
  induction calls generalizing decoder with
  | zero => rfl
  | succ calls ih => exact ih decoder.next.2

/-- Calls are answered with the items in order, and with nothing from then on. -/
theorem next_after (decoder : Decoder) (calls : Nat) :
    (decoder.after calls).next.1 = decoder.items[calls]? := by
  induction calls generalizing decoder with
  | zero =>
    rw [after]
    rcases next_cases decoder with ⟨behind, given, none, -⟩ | ⟨item, behind, given, split, -⟩
    · rw [given, none, List.getElem?_nil]
    · rw [given, split, List.getElem?_cons_zero]
  | succ calls ih =>
    rw [after, ih]
    rcases next_cases decoder with ⟨behind, given, none, last⟩ | ⟨item, behind, given, split, -⟩
    · rw [given, none, last, List.getElem?_nil, List.getElem?_nil]
    · rw [given, split, List.getElem?_cons_succ]

/-- The items of a stream are what its commands and anomalies give. -/
theorem items_eq_flattened (words : List Word) :
    (ofWords words).items = flattened (HostChannel.commands words) := by
  rw [items_ofWords, registerWrites, threaded_decoded]

/-- How far a decoder of a stream is when it has entered a number of items, has given a number of
items, and is or was asked for as many as there are calls. -/
structure Standing (words : List Word) (entered given calls : Nat) (decoder : Decoder) : Prop where
  /-- No more items are entered than there are. -/
  within : entered ≤ (HostChannel.commands words).length
  /-- The cursor is behind those entered. -/
  behind : decoder.commands = (CommandCursor.ofWords words).after entered
  /-- The class is the one selected last among them. -/
  selected : decoder.engineClass = selectedClass ((HostChannel.commands words).take entered)
  /-- What they give is given, or comes next. -/
  pending : given + decoder.current.items.length =
    (flattened ((HostChannel.commands words).take entered)).length
  /-- None was entered before what is in front of it had been given. -/
  early : ∀ place < entered, (flattened ((HostChannel.commands words).take place)).length < calls

namespace Standing

variable {words : List Word} {entered given calls : Nat} {decoder : Decoder}

/-- Before the first call nothing is entered and nothing is given. -/
theorem ofWords (words : List Word) : Standing words 0 0 0 (ofWords words) where
  within := Nat.zero_le _
  behind := rfl
  selected := rfl
  pending := by
    rw [Decoder.ofWords, WriteCursor.finished, WriteCursor.items_nothing]
    rfl
  early place before := absurd before (Nat.not_lt_zero place)

/-- Another call changes nothing by itself. -/
theorem asked (standing : Standing words entered given calls decoder) :
    Standing words entered given (calls + 1) decoder where
  within := standing.within
  behind := standing.behind
  selected := standing.selected
  pending := standing.pending
  early place before := Nat.lt_succ_of_lt (standing.early place before)

/-- A write that comes next is given. -/
theorem written (standing : Standing words entered given calls decoder) {write : RegisterWrite}
    {current : WriteCursor} (taken : decoder.current.next = (some write, current)) :
    Standing words entered (given + 1) calls { decoder with current } where
  within := standing.within
  behind := standing.behind
  selected := standing.selected
  pending := by
    have pending := standing.pending
    rw [WriteCursor.items_of_some taken, List.length_cons] at pending
    show given + 1 + current.items.length = _
    omega
  early := standing.early

section Enter

variable (standing : Standing words entered given calls decoder)
  (idle : decoder.current.items = []) (more : given < calls)

include standing

/-- Where the cursor has no next item, all are entered. -/
theorem entered_all {commands : CommandCursor} (taken : decoder.commands.next = (none, commands)) :
    entered = (HostChannel.commands words).length := by
  have next := CommandCursor.next_after (CommandCursor.ofWords words) entered
  rw [← standing.behind, taken] at next
  have past := List.getElem?_eq_none_iff.mp next.symm
  exact Nat.le_antisymm standing.within past

/-- The next item of the cursor is the next one of the stream. -/
theorem take_succ {item : StreamItem} {commands : CommandCursor}
    (taken : decoder.commands.next = (some item, commands)) :
    entered < (HostChannel.commands words).length ∧
      commands = (CommandCursor.ofWords words).after (entered + 1) ∧
      (HostChannel.commands words).take (entered + 1) =
        (HostChannel.commands words).take entered ++ [item] := by
  have next := CommandCursor.next_after (CommandCursor.ofWords words) entered
  rw [← standing.behind, taken] at next
  obtain ⟨inside, found⟩ := List.getElem?_eq_some_iff.mp next.symm
  refine ⟨inside, ?_, ?_⟩
  · rw [CommandCursor.after_succ, ← standing.behind, taken]
  · rw [← found]
    exact List.take_succ_eq_append_getElem inside

include idle more

/-- Entering an item that is called for leaves what it gives to be given next. -/
theorem enter {item : StreamItem} {commands : CommandCursor}
    (taken : decoder.commands.next = (some item, commands)) {engineClass : Word}
    (selected : engineClass = item.selection?.getD decoder.engineClass) {current : WriteCursor}
    {found : Nat} (rest : found + current.items.length = (item.given engineClass).length) :
    Standing words (entered + 1) (given + found) calls ⟨commands, engineClass, current⟩ := by
  obtain ⟨inside, behind, front⟩ := standing.take_succ taken
  have pending := standing.pending
  rw [idle, List.length_nil, Nat.add_zero] at pending
  have chosen : engineClass = selectedClass ((HostChannel.commands words).take (entered + 1)) := by
    rw [front, selectedClass_concat, ← standing.selected, selected]
  refine ⟨inside, behind, chosen, ?_, ?_⟩
  · have adds := flattened_concat ((HostChannel.commands words).take entered) item
    rw [← front, ← chosen] at adds
    rw [adds, List.length_append, ← rest, ← pending, Nat.add_assoc]
  · intro place before
    rcases Nat.lt_succ_iff_lt_or_eq.mp before with earlier | rfl
    · exact standing.early place earlier
    · rw [← pending]
      exact more

end Enter

/-- A call that was not answered before gives one item more, or all items are entered. -/
theorem next (standing : Standing words entered given calls decoder) (more : given < calls) :
    ∃ last given', Standing words last given' calls decoder.next.2 ∧ entered ≤ last ∧
      (given' = given + 1 ∨ given' = given ∧ last = (HostChannel.commands words).length) := by
  induction size : decoder.commands.rest.length using Nat.strongRecOn
    generalizing decoder entered with
  | ind size ih =>
    subst size
    rw [Decoder.next]
    split
    case h_1 write current taken =>
      exact ⟨entered, given + 1, standing.written taken, Nat.le_refl _, .inl rfl⟩
    case h_2 current exhausted =>
      have idle := WriteCursor.items_of_none exhausted
      have finished : WriteCursor.finished.items = [] := WriteCursor.items_nothing 0 []
      split
      case h_1 commands taken =>
        obtain rfl := CommandCursor.behind_of_none taken
        have pending := standing.pending
        rw [idle, ← finished] at pending
        refine ⟨entered, given, ?_, Nat.le_refl _, .inr ⟨rfl, standing.entered_all taken⟩⟩
        exact ⟨standing.within, standing.behind, standing.selected, pending, standing.early⟩
      case h_2 anomaly commands taken =>
        have anomalies : 1 + WriteCursor.finished.items.length =
            (StreamItem.given decoder.engineClass (.error anomaly)).length := by
          rw [finished]
          rfl
        have answered := standing.enter idle more taken rfl anomalies
        exact ⟨entered + 1, given + 1, answered, Nat.le_succ _, .inl rfl⟩
      case h_3 command commands taken =>
        have shorter := CommandCursor.length_rest_next taken
        have writes : 0 + (command.writeCursor
              (command.header.classAfter decoder.engineClass)).items.length =
            (StreamItem.given (command.header.classAfter decoder.engineClass)
              (.ok command)).length := by
          rw [Command.items_writeCursor, StreamItem.given, List.length_map, Nat.zero_add]
        have inside := standing.enter idle more taken
          (Header.classAfter_eq command decoder.engineClass) writes
        obtain ⟨last, given', after, further, reached⟩ := ih _ shorter inside rfl
        exact ⟨last, given', after, Nat.le_of_succ_le further, reached⟩

/-- Where each call gave an item or all items are entered, those that are entered are those before
which fewer were given than were called for. -/
theorem early_iff (standing : Standing words entered given calls decoder)
    (settled : given = calls ∨ entered = (HostChannel.commands words).length) {place : Nat}
    (inside : place < (HostChannel.commands words).length) :
    place < entered ↔ (flattened ((HostChannel.commands words).take place)).length < calls := by
  constructor
  · exact standing.early place
  · intro fewer
    apply Nat.lt_of_not_le
    intro behind
    have more := length_flattened_take_le (HostChannel.commands words) behind
    have pending := standing.pending
    rcases settled with answered | all
    · omega
    · omega

end Standing

/-- After any number of calls, each gave an item or all items are entered. -/
theorem standing_after (words : List Word) (calls : Nat) :
    ∃ entered given, Standing words entered given calls ((ofWords words).after calls) ∧
      (given = calls ∨ given < calls ∧ entered = (HostChannel.commands words).length) := by
  induction calls with
  | zero => exact ⟨0, 0, Standing.ofWords words, .inl rfl⟩
  | succ calls ih =>
    obtain ⟨entered, given, standing, settled⟩ := ih
    have more : given < calls + 1 := by omega
    obtain ⟨last, given', after, further, reached⟩ := standing.asked.next more
    have within := after.within
    rw [after_succ]
    exact ⟨last, given', after, by omega⟩

end Decoder

/-- A command that is cut short at the end of a stream selects no class. -/
theorem selectedClass_take_truncated {items front : List StreamItem} {anomaly : Anomaly}
    (ends : items = front ++ [.error anomaly]) (entered : Nat) :
    selectedClass (items.take entered) = selectedClass (front.take entered) := by
  rw [ends, List.take_append]
  cases entered - front.length with
  | zero => rw [List.take_zero, List.append_nil]
  | succ past =>
    rw [List.take_succ_cons, List.take_nil, selectedClass_concat]
    rfl

/-- At every call a decoder does what the items of its stream say. It answers with what they give,
in order, and with nothing from then on; it has entered those items before which fewer were given
than were called for; and its class is the one that was selected last among these, to which a
command that is cut short adds nothing. -/
theorem decoder_follows_items (words : List Word) :
    let items := commands words
    let decoder := Decoder.ofWords words
    (∀ calls, (decoder.after calls).next.1 = (flattened items)[calls]?) ∧
      (∀ calls, ∃ entered ≤ items.length,
        (decoder.after calls).commands = (CommandCursor.ofWords words).after entered ∧
          (∀ place < items.length,
            place < entered ↔ (flattened (items.take place)).length < calls) ∧
          (decoder.after calls).engineClass = selectedClass (items.take entered) ∧
          ∀ front index opcode needed available,
            items = front ++ [.error (.truncated index opcode needed available)] →
              (decoder.after calls).engineClass = selectedClass (front.take entered)) ∧
      ∀ calls later, (decoder.after calls).next.1 = none → calls ≤ later →
        (decoder.after later).next.1 = none := by
  intro items decoder
  have answers : ∀ calls, (decoder.after calls).next.1 = (flattened items)[calls]? := by
    intro calls
    rw [Decoder.next_after, Decoder.items_eq_flattened]
  refine ⟨answers, fun calls => ?_, fun calls later ended behind => ?_⟩
  · obtain ⟨entered, given, standing, settled⟩ := Decoder.standing_after words calls
    refine ⟨entered, standing.within, standing.behind, ?_, standing.selected, ?_⟩
    · intro place inside
      exact standing.early_iff (settled.imp_right And.right) inside
    · intro front index opcode needed available ends
      rw [standing.selected]
      exact selectedClass_take_truncated ends entered
  · rw [answers, List.getElem?_eq_none_iff] at ended ⊢
    exact Nat.le_trans ended behind

/-- A class is selected when the write behind it is called for, and not when the one before it is
given. -/
example :
    let decoder := Decoder.ofWords [0x40000001, 0x00000400, 0x40000002]
    (decoder.after 1).engineClass = 0 ∧ (decoder.after 2).engineClass = 0x10 := by
  decide +kernel

/-- A stream of a class selection and a write, which ends with the selection of another class that
asks for two words and has one. -/
def selectingShort : List Word :=
  [0x00000400, 0x40010002, 0x00000803, 7]

/-- The call that comes to the command that is cut short answers so and keeps the class, and no call
behind it is answered. -/
theorem short_selection_ignored :
    let decoder := Decoder.ofWords selectingShort
    (decoder.after 1).next.1 = some (.error (.truncated 2 .setClass 2 1)) ∧
      (decoder.after 2).engineClass = 0x10 ∧ (decoder.after 5).next.1 = none := by
  intro decoder
  obtain ⟨answers, places, fused⟩ := decoder_follows_items selectingShort
  have ends : commands selectingShort =
      [.ok ⟨0, 0x00000400, .setClass 0 0x10 0, []⟩, .ok ⟨1, 0x40010002, .immediate 1 2, []⟩] ++
        [.error (.truncated 2 .setClass 2 1)] := by cbv
  have gives : flattened (commands selectingShort) =
      [.ok ⟨0x10, 1, 2⟩, .error (.truncated 2 .setClass 2 1)] := by decide +kernel
  have length : (commands selectingShort).length = 3 := by rw [ends]; rfl
  have before : (flattened ((commands selectingShort).take 2)).length = 1 := by decide +kernel
  obtain ⟨entered, within, -, early, -, kept⟩ := places 2
  have all : 2 < entered := (early 2 (by omega)).mpr (by omega)
  obtain rfl : entered = 3 := by omega
  refine ⟨?_, kept _ _ _ _ _ ends, ?_⟩
  · rw [answers, gives]
    rfl
  · apply fused 2 5 ?_ (by decide)
    rw [answers, gives]
    rfl

end HostChannel
