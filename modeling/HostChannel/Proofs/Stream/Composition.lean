import HostChannel.Proofs.Stream.Framing
import HostChannel.Proofs.Stream.RegisterWrite

/-!
# Streams one behind the other

A stream that is cut up to its end is cut in the same way in front of another one, and the items of
the other follow, moved by its length. The class goes over from the one to the other, up to where
the other selects a class itself. Of a stream that ends with a truncated command, the items before
it stay (`streams_compose`).
-/

namespace HostChannel

/-- The anomaly with a number of words in front of its stream. -/
def Anomaly.moved (distance : Nat) : Anomaly → Anomaly
  | .unknownOpcode index word number => .unknownOpcode (distance + index) word number
  | .truncated index opcode needed available =>
    .truncated (distance + index) opcode needed available

/-- The command with a number of words in front of its stream. -/
def Command.moved (distance : Nat) (command : Command) : Command :=
  { command with index := distance + command.index }

namespace StreamItem

/-- The item with a number of words in front of its stream. -/
def moved (distance : Nat) : StreamItem → StreamItem
  | .ok command => .ok (command.moved distance)
  | .error anomaly => .error (anomaly.moved distance)

/-- The item is a command that selects a class. -/
def selects : StreamItem → Bool
  | .ok command =>
    match command.header with
    | .setClass .. => true
    | _ => false
  | .error _ => false

end StreamItem

namespace DecodedItem

/-- The item with a number of words in front of its stream; only anomalies tell where they are. -/
def moved (distance : Nat) (item : DecodedItem) : DecodedItem :=
  item.mapError (Anomaly.moved distance)

/-- The item with another class for the register that it writes. -/
def inClass (engineClass : Word) (item : DecodedItem) : DecodedItem :=
  item.map fun write => { write with engineClass }

end DecodedItem

namespace Decoder

/-- The class that is active when a decoder has given all items of a stream. -/
def lastClass (words : List Word) : Word :=
  (ofWords words).takeAll.2.engineClass

/-- Number of items that come from what is before the first command that selects a class. -/
def unselected (words : List Word) : Nat :=
  (((HostChannel.commands words).takeWhile fun item => !item.selects).flatMap
    fun item => (item.decoded 0).2).length

/-- The items of a stream in front of which a class was selected: what is written before the stream
selects a class is written in that class. -/
def givenUnder (active : Word) (words : List Word) : List DecodedItem :=
  ((given words).take (unselected words)).map (DecodedItem.inClass active) ++
    (given words).drop (unselected words)

end Decoder

namespace Framing

variable {index : Nat} {words more : List Word} {items later : List StreamItem}

/-- Words in front of a stream move its items. -/
theorem moved (framing : Framing index words items) (distance : Nat) :
    Framing (distance + index) words (items.map (StreamItem.moved distance)) := by
  induction framing with
  | ended index => exact .ended _
  | unknown unassigned behind ih => exact .unknown unassigned ih
  | truncated decoded short => exact .truncated decoded short
  | command decoded framed behind ih =>
    refine .command decoded framed ?_
    rw [Nat.add_assoc]
    exact ih

/-- Where nothing is cut short, a stream goes on behind its last item. -/
theorem append (framing : Framing index words items)
    (whole : ∀ item ∈ items, item.cutShort = false)
    (behind : Framing (index + words.length) more later) :
    Framing index (words ++ more) (items ++ later) := by
  induction framing with
  | ended index => exact behind
  | unknown unassigned _ ih =>
    refine .unknown unassigned (ih (fun item among => whole item (.tail _ among)) ?_)
    rw [Nat.add_assoc, Nat.add_comm 1]
    exact behind
  | truncated decoded short => exact absurd (whole _ (.head _)) (by simp [StreamItem.cutShort])
  | @command index word header payload rest items decoded framed _ ih =>
    rw [List.cons_append, List.append_assoc]
    refine .command decoded framed (ih (fun item among => whole item (.tail _ among)) ?_)
    have distance : index + (word :: (payload ++ rest)).length =
        index + (payload.length + 1) + rest.length := by
      simp only [List.length_cons, List.length_append]
      omega
    rw [← distance]
    exact behind

/-- The items before the last one stay whatever comes behind the stream. -/
theorem followed {front : List StreamItem} (framing : Framing index words (front ++ later))
    (last : later ≠ []) (more : List Word) :
    ∃ others, Framing index (words ++ more) (front ++ others) := by
  induction front generalizing index words with
  | nil => exact ⟨_, CommandCursor.framing_items ⟨index, words ++ more⟩⟩
  | cons item front ih =>
    rw [List.cons_append] at framing
    generalize behind : front ++ later = rest at framing
    cases framing with
    | unknown unassigned framed =>
      obtain ⟨others, resumed⟩ := ih (behind ▸ framed)
      exact ⟨others, .unknown unassigned resumed⟩
    | truncated decoded short => exact absurd (List.append_eq_nil_iff.mp behind).2 last
    | command decoded length framed =>
      obtain ⟨others, resumed⟩ := ih (behind ▸ framed)
      refine ⟨others, ?_⟩
      rw [List.cons_append, List.append_assoc]
      exact .command decoded length resumed

end Framing

section Threaded

variable {σ α β : Type} (step : σ → α → σ × List β)

/-- The state after running through a list. -/
def carried (state : σ) (elements : List α) : σ :=
  elements.foldl (fun state element => (step state element).1) state

/-- Two lists give what the first gives, and what the second gives from where the first ends. -/
theorem threaded_append (state : σ) (first second : List α) :
    threaded step state (first ++ second) =
      threaded step state first ++ threaded step (carried step state first) second := by
  induction first generalizing state with
  | nil => rfl
  | cons head rest ih =>
    rw [List.cons_append, threaded_cons, threaded_cons, ih, List.append_assoc]
    rfl

end Threaded

/-- Words in front of a stream move its anomalies. -/
theorem threaded_moved (distance : Nat) (active : Word) (items : List StreamItem) :
    threaded StreamItem.decoded active (items.map (StreamItem.moved distance)) =
      (threaded StreamItem.decoded active items).map (DecodedItem.moved distance) := by
  induction items generalizing active with
  | nil => rfl
  | cons item rest ih =>
    rw [List.map_cons, threaded_cons, threaded_cons, List.map_append]
    cases item with
    | error anomaly => exact congrArg (_ :: ·) (ih active)
    | ok command =>
      have writes : (StreamItem.decoded active (.ok (command.moved distance))).2 =
          (StreamItem.decoded active (.ok command)).2.map (DecodedItem.moved distance) := by
        simp only [StreamItem.decoded, List.map_map]
        rfl
      exact congrArg₂ (· ++ ·) writes (ih _)

/-- A command that selects no class writes the same registers of any class. -/
theorem StreamItem.decoded_inClass {item : StreamItem} (plain : item.selects = false)
    (active other : Word) :
    item.decoded active =
      (active, (item.decoded other).2.map (DecodedItem.inClass active)) := by
  rcases item with anomaly | ⟨index, word, header, payload⟩
  · rfl
  · cases header with
    | setClass offset engineClass mask => simp [selects] at plain
    | incrementing offset count =>
      simp [decoded, Header.classAfter, Command.writes, Function.comp_def, DecodedItem.inClass,
        Except.map, List.mapIdx_eq_zipIdx_map]
    | nonIncrementing offset count =>
      simp [decoded, Header.classAfter, Command.writes, Function.comp_def, DecodedItem.inClass,
        Except.map]
    | masked offset mask =>
      simp [decoded, Header.classAfter, Command.writes, Command.selectedWrites,
        DecodedItem.inClass, Except.map, List.map_zipWith]
    | immediate offset data => rfl
    | restart => rfl
    | gather offset insert sequential count => rfl
    | extend operation value => rfl
    | channelDone => rfl

/-- A command that selects a class does so whatever class is active before. -/
theorem StreamItem.decoded_of_selects {item : StreamItem} (selecting : item.selects = true)
    (active other : Word) : item.decoded active = item.decoded other := by
  rcases item with anomaly | ⟨index, word, header, payload⟩
  · simp [selects] at selecting
  · cases header with
    | setClass offset engineClass mask => rfl
    | _ => simp [selects] at selecting

/-- Another class makes a difference to what is written before a class is selected, and to nothing
behind that. -/
theorem threaded_inClass (active : Word) (items : List StreamItem) :
    threaded StreamItem.decoded active items =
      ((threaded StreamItem.decoded 0 items).take
          ((items.takeWhile fun item => !item.selects).flatMap
            fun item => (item.decoded 0).2).length).map (DecodedItem.inClass active) ++
        (threaded StreamItem.decoded 0 items).drop
          ((items.takeWhile fun item => !item.selects).flatMap
            fun item => (item.decoded 0).2).length := by
  induction items with
  | nil => rfl
  | cons item rest ih =>
    rw [threaded_cons, threaded_cons]
    cases selecting : item.selects with
    | true =>
      rw [List.takeWhile_cons_of_neg (by simp [selecting]),
        StreamItem.decoded_of_selects selecting active 0]
      rfl
    | false =>
      have same : (item.decoded 0).1 = 0 := by
        rw [StreamItem.decoded_inClass selecting 0 0]
      rw [List.takeWhile_cons_of_pos (by simp [selecting]), List.flatMap_cons, List.length_append,
        List.take_length_add_append, List.drop_length_add_append, same,
        StreamItem.decoded_inClass selecting active 0, ih, List.map_append, List.append_assoc]

namespace Decoder

/-- The class that will be active when all commands have been entered. -/
def finalClass (decoder : Decoder) : Word :=
  carried StreamItem.decoded decoder.engineClass decoder.commands.items

/-- Asking for an item does not change it, and no command is left where there is no item. -/
theorem finalClass_next (decoder : Decoder) :
    decoder.next.2.finalClass = decoder.finalClass ∧
      (decoder.next.1 = none → decoder.next.2.commands.items = []) := by
  induction size : decoder.commands.rest.length using Nat.strongRecOn generalizing decoder with
  | ind size ih =>
    subst size
    rw [next]
    split
    · exact ⟨rfl, fun absent => by contradiction⟩
    · split
      · rename_i commands taken
        obtain rfl := CommandCursor.behind_of_none taken
        exact ⟨rfl, fun _ => CommandCursor.items_of_none taken⟩
      · rename_i anomaly commands taken
        refine ⟨?_, fun absent => by contradiction⟩
        rw [finalClass, finalClass, CommandCursor.items_of_some taken]
        rfl
      · rename_i command commands taken
        obtain ⟨same, empty⟩ := ih _ (CommandCursor.length_rest_next taken)
          ⟨commands, command.header.classAfter decoder.engineClass,
            command.writeCursor (command.header.classAfter decoder.engineClass)⟩ rfl
        refine ⟨same.trans ?_, empty⟩
        rw [finalClass, finalClass, CommandCursor.items_of_some taken]
        rfl

/-- Where a decoder has nothing more to give, its class is the final one. -/
theorem engineClass_take {count : Nat} {decoder : Decoder} (enough : decoder.size < count)
    (found : Array (DecodedItem × Word)) :
    (decoder.take count found).2.engineClass = decoder.finalClass := by
  induction count generalizing decoder found with
  | zero => exact absurd enough (Nat.not_lt_zero _)
  | succ count ih =>
    obtain ⟨same, empty⟩ := finalClass_next decoder
    rw [take]
    rcases next_cases decoder with ⟨behind, given, -⟩ | ⟨item, behind, given, -, less⟩
    · rw [given] at same empty ⊢
      rw [← same, finalClass, empty rfl]
      rfl
    · rw [given] at same ⊢
      exact (ih (by omega) _).trans same

/-- The class at the end of a stream is the one that its commands leave active. -/
theorem lastClass_eq (words : List Word) :
    lastClass words = carried StreamItem.decoded 0 (HostChannel.commands words) :=
  engineClass_take (Nat.lt_succ_self _) #[]

/-- The items of a stream are those that its commands give from class zero on. -/
theorem given_eq_threaded (words : List Word) :
    given words = threaded StreamItem.decoded 0 (HostChannel.commands words) :=
  given_eq words

end Decoder

/-- Streams compose. Behind a stream that is cut up to its end, another one is cut as by itself but
for the indices; and it is decoded as by itself but for these and for the class of what it writes
before it selects one, which is the last class of the first stream. Of a stream that ends with a
truncated command, all that comes before it stays, whatever is put behind. -/
theorem streams_compose (first second : List Word) :
    ((∀ item ∈ commands first, item.cutShort = false) →
        commands (first ++ second) =
            commands first ++ (commands second).map (StreamItem.moved first.length) ∧
          Decoder.given (first ++ second) =
            Decoder.given first ++ (Decoder.givenUnder (Decoder.lastClass first) second).map
              (DecodedItem.moved first.length)) ∧
      ∀ front index opcode needed available,
        commands first = front ++ [.error (.truncated index opcode needed available)] →
          front <+: commands (first ++ second) ∧
            ∃ before,
              Decoder.given first = before ++ [.error (.truncated index opcode needed available)] ∧
                before <+: Decoder.given (first ++ second) := by
  have framing := framing_commands first
  refine ⟨fun whole => ?_, fun front index opcode needed available ends => ?_⟩
  · have behind := (framing_commands second).moved first.length
    rw [Nat.add_zero, ← Nat.zero_add first.length] at behind
    have cut : commands (first ++ second) =
        commands first ++ (commands second).map (StreamItem.moved first.length) := by
      rw [← (framing.append whole behind).eq_commands, Nat.zero_add]
    refine ⟨cut, ?_⟩
    rw [Decoder.given_eq_threaded, cut, threaded_append, threaded_moved, Decoder.lastClass_eq,
      Decoder.givenUnder, Decoder.given_eq_threaded, Decoder.given_eq_threaded, Decoder.unselected,
      ← threaded_inClass]
  · rw [ends] at framing
    obtain ⟨others, resumed⟩ := framing.followed (List.cons_ne_nil _ _) second
    have cut := resumed.eq_commands
    refine ⟨⟨others, cut⟩, threaded StreamItem.decoded 0 front, ?_, ?_⟩
    · rw [Decoder.given_eq_threaded, ends, threaded_append]
      rfl
    · rw [Decoder.given_eq_threaded, ← cut, threaded_append]
      exact List.prefix_append _ _

/-- A stream of a class selection and a write, with a word that is no header behind. -/
def selecting : List Word :=
  [0x00000400, 0x40000001, 0x70000000]

/-- A stream that writes, selects another class and writes again, and ends with a header that asks
for two words. -/
def selectingLate : List Word :=
  [0x40020005, 0x90000000, 0x00000800, 0x40030006, 0x10000002, 7]

/-- What the second stream writes before its selection goes to the class of the first; and the
command that is cut short takes in the words behind it, while all that comes before it stays. -/
theorem selecting_streams_compose :
    (∀ item ∈ commands selecting, item.cutShort = false) ∧
      Decoder.given (selecting ++ selectingLate) =
        [.ok ⟨0x10, 0, 1⟩, .error (.unknownOpcode 2 0x70000000 7), .ok ⟨0x10, 2, 5⟩,
          .error (.unknownOpcode 4 0x90000000 9), .ok ⟨0x20, 3, 6⟩,
          .error (.truncated 7 .incrementing 2 1)] ∧
      ∃ front, commands selectingLate = front ++ [.error (.truncated 4 .incrementing 2 1)] ∧
        front.length = 4 ∧ front <+: commands (selectingLate ++ [8, 9]) := by
  have cut : commands selecting =
      [.ok ⟨0, 0x00000400, .setClass 0 0x10 0, []⟩, .ok ⟨1, 0x40000001, .immediate 0 1, []⟩,
        .error (.unknownOpcode 2 0x70000000 7)] := by cbv
  have whole : ∀ item ∈ commands selecting, item.cutShort = false := by
    rw [cut]
    decide
  have decoded : Decoder.given selecting ++
      (Decoder.givenUnder (Decoder.lastClass selecting) selectingLate).map
        (DecodedItem.moved selecting.length) =
        [.ok ⟨0x10, 0, 1⟩, .error (.unknownOpcode 2 0x70000000 7), .ok ⟨0x10, 2, 5⟩,
          .error (.unknownOpcode 4 0x90000000 9), .ok ⟨0x20, 3, 6⟩,
          .error (.truncated 7 .incrementing 2 1)] := by decide +kernel
  have ends : commands selectingLate =
      [.ok ⟨0, 0x40020005, .immediate 2 5, []⟩, .error (.unknownOpcode 1 0x90000000 9),
        .ok ⟨2, 0x00000800, .setClass 0 0x20 0, []⟩, .ok ⟨3, 0x40030006, .immediate 3 6, []⟩] ++
        [.error (.truncated 4 .incrementing 2 1)] := by cbv
  exact ⟨whole, ((streams_compose selecting selectingLate).1 whole).2.trans decoded, _, ends, rfl,
    ((streams_compose selectingLate [8, 9]).2 _ _ _ _ _ ends).1⟩

end HostChannel
