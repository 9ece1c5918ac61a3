import HostChannel.Proofs.Stream.Command
import HostChannel.Stream.RegisterWrite

/-!
# Register writes one at a time

A command's writes taken one at a time are those listed at once, and so are the writes of a
stream: asking a decoder again and again gives every item of `registerWrites` in order, and then
nothing more. For a mask this rests on what clearing the lowest set bit leaves: the positions of
all set bits but the first.
-/

namespace HostChannel

namespace Word

/-- The lowest set bit is the first of the positions. -/
theorem lowestBit?_eq (word : Word) : lowestBit? word = (setBits word).head? :=
  (List.head?_filter ..).symm

/-- The positions are in ascending order. -/
theorem pairwise_setBits (word : Word) : (setBits word).Pairwise (· < ·) :=
  List.Pairwise.filter _ List.pairwise_lt_range

/-- A position is listed exactly when its bit is set. -/
theorem mem_setBits {word : Word} {index : Nat} :
    index ∈ setBits word ↔ word.toNat.testBit index = true := by
  rw [setBits, List.mem_filter, List.mem_range]
  exact and_iff_right_of_imp lt_of_testBit

/-- Taking one from a number and keeping the common bits clears the lowest set bit and no other. -/
theorem testBit_and_sub_one {number lowest : Nat} (set : number.testBit lowest = true)
    (clear : ∀ index < lowest, number.testBit index = false) (index : Nat) :
    (number &&& (number - 1)).testBit index = (number.testBit index && index != lowest) := by
  -- Below and at the lowest set bit the number is a power of two.
  have low : number % 2 ^ (lowest + 1) = 2 ^ lowest := by
    apply Nat.eq_of_testBit_eq
    intro position
    rw [Nat.testBit_mod_two_pow, Nat.testBit_two_pow]
    rcases Nat.lt_trichotomy position lowest with below | rfl | above
    · simp [clear position below, Nat.ne_of_gt below]
    · simp [set]
    · simp [Nat.not_lt.mpr above, Nat.ne_of_lt above]
  have parts := Nat.div_add_mod number (2 ^ (lowest + 1))
  have positive := Nat.two_pow_pos lowest
  have double : 2 ^ (lowest + 1) = 2 * 2 ^ lowest := Nat.pow_succ'
  rw [low] at parts
  have before : number - 1 = 2 ^ (lowest + 1) * (number / 2 ^ (lowest + 1)) + (2 ^ lowest - 1) := by
    omega
  rw [Nat.testBit_and, before, Nat.testBit_two_pow_mul_add _ (by omega), Nat.testBit_two_pow_sub_one]
  rcases Nat.lt_trichotomy index lowest with below | rfl | above
  · simp [clear index below]
  · simp
  · have apart : (index != lowest) = true := by simpa using Nat.ne_of_gt above
    have same : number.testBit index = (number / 2 ^ (lowest + 1)).testBit (index - (lowest + 1)) := by
      rw [Nat.testBit_div_two_pow, Nat.sub_add_cancel above]
    rw [if_neg (by omega), ← same, apart]
    simp

/-- Clearing the lowest set bit leaves the positions of the others. -/
theorem setBits_clearLowest {word : Word} {lowest : Nat} {rest : List Nat}
    (bits : setBits word = lowest :: rest) : setBits (clearLowest word) = rest := by
  have ordered := pairwise_setBits word
  rw [bits] at ordered
  obtain ⟨first, others⟩ := List.pairwise_cons.mp ordered
  have set : word.toNat.testBit lowest = true := mem_setBits.mp (bits ▸ List.mem_cons_self)
  have clear : ∀ index < lowest, word.toNat.testBit index = false := by
    intro index below
    rw [← Bool.not_eq_true]
    intro found
    rcases List.mem_cons.mp (bits ▸ mem_setBits.mpr found) with rfl | later
    · exact Nat.lt_irrefl _ below
    · exact Nat.lt_asymm below (first index later)
  have positive : 1 ≤ word.toNat := by
    rcases Nat.eq_zero_or_pos word.toNat with zero | positive
    · simp [zero] at set
    · exact positive
  have cleared : (clearLowest word).toNat = word.toNat &&& (word.toNat - 1) := by
    rw [clearLowest, UInt32.toNat_and, UInt32.toNat_sub_of_le]
    · rfl
    · exact UInt32.le_iff_toNat_le.mpr positive
  have kept : setBits (clearLowest word) = (setBits word).filter (· != lowest) := by
    rw [setBits, setBits, List.filter_filter]
    refine List.filter_congr fun index _ => ?_
    rw [cleared, testBit_and_sub_one set clear, Bool.and_comm]
  rw [kept, bits, List.filter_cons_of_neg (by simp), List.filter_eq_self]
  exact fun index later => by simpa using Nat.ne_of_gt (first index later)

end Word

namespace WriteCursor

/-- Collecting appends to what was found before. -/
theorem collect_eq (cursor : WriteCursor) (found : Array RegisterWrite) :
    (cursor.collect found).1.toList = found.toList ++ cursor.items := by
  induction size : cursor.size using Nat.strongRecOn generalizing cursor found with
  | ind size ih =>
    subst size
    rw [items, collect, collect]
    split
    · simp
    · rename_i write behind taken
      have shorter := size_next taken
      rw [ih _ shorter behind _ rfl, ih _ shorter behind (#[].push write) rfl]
      simp

/-- A cursor without a next write has no writes. -/
theorem items_of_none {cursor behind : WriteCursor} (taken : cursor.next = (none, behind)) :
    cursor.items = [] := by
  rw [items, collect]
  split
  · rfl
  · rename_i given
    simp [taken] at given

/-- The next write comes before those behind it. -/
theorem items_of_some {cursor behind : WriteCursor} {write : RegisterWrite}
    (taken : cursor.next = (some write, behind)) : cursor.items = write :: behind.items := by
  rw [items, collect]
  split
  · rename_i given
    simp [taken] at given
  · rename_i given
    obtain ⟨same, rfl⟩ := Prod.mk.inj (taken.symm.trans given)
    obtain rfl := Option.some.inj same
    rw [collect_eq]
    rfl

variable (engineClass : Word)

/-- Payload words for ascending registers are written one register behind the other. -/
theorem items_ascending (register : Word) (payload : List Word) :
    items ⟨engineClass, .ascending register, payload⟩ =
      payload.mapIdx fun index value => ⟨engineClass, register + UInt32.ofNat index, value⟩ := by
  induction payload generalizing register with
  | nil => exact items_of_none rfl
  | cons value rest ih =>
    rw [items_of_some rfl, ih, List.mapIdx_cons]
    simp [UInt32.add_assoc, UInt32.add_comm 1]

/-- Payload words for one register are written to it one after the other. -/
theorem items_fixed (register : Word) (payload : List Word) :
    items ⟨engineClass, .fixed register, payload⟩ =
      payload.map fun value => ⟨engineClass, register, value⟩ := by
  induction payload with
  | nil => exact items_of_none rfl
  | cons value rest ih => rw [items_of_some rfl, ih, List.map_cons]

/-- Payload words for a mask are written to the registers of its set bits, in ascending order. -/
theorem items_selected (offset mask : Word) (payload : List Word) :
    items ⟨engineClass, .selected offset mask, payload⟩ =
      Command.selectedWrites engineClass offset mask payload := by
  rw [Command.selectedWrites]
  induction payload generalizing mask with
  | nil =>
    rw [List.zipWith_nil_right]
    cases bits : Word.lowestBit? mask with
    | none =>
      have taken : next ⟨engineClass, .selected offset mask, []⟩ =
          (none, ⟨engineClass, .selected offset mask, []⟩) := by simp only [next, bits]
      exact items_of_none taken
    | some bit =>
      have taken : next ⟨engineClass, .selected offset mask, []⟩ =
          (none, ⟨engineClass, .selected offset (Word.clearLowest mask), []⟩) := by
        simp only [next, bits]
        rfl
      exact items_of_none taken
  | cons value rest ih =>
    cases bits : Word.setBits mask with
    | nil =>
      have empty : Word.lowestBit? mask = none := by rw [Word.lowestBit?_eq, bits, List.head?_nil]
      have taken : next ⟨engineClass, .selected offset mask, value :: rest⟩ =
          (none, ⟨engineClass, .selected offset mask, value :: rest⟩) := by
        simp only [next, empty]
      exact items_of_none taken
    | cons lowest others =>
      have first : Word.lowestBit? mask = some lowest := by
        rw [Word.lowestBit?_eq, bits, List.head?_cons]
      have taken : next ⟨engineClass, .selected offset mask, value :: rest⟩ =
          (some ⟨engineClass, offset + UInt32.ofNat lowest, value⟩,
            ⟨engineClass, .selected offset (Word.clearLowest mask), rest⟩) := by
        simp only [next, first]
        rfl
      rw [items_of_some taken, ih, Word.setBits_clearLowest bits, List.zipWith_cons_cons]

/-- Nothing is written by a command that writes nothing. -/
theorem items_nothing (payload : List Word) : items ⟨engineClass, .nothing, payload⟩ = [] :=
  items_of_none rfl

/-- One value is written once. -/
theorem items_single (register value : Word) (payload : List Word) :
    items ⟨engineClass, .single register value, payload⟩ = [⟨engineClass, register, value⟩] := by
  rw [items_of_some rfl, items_nothing]

end WriteCursor

/-- The writes of a command taken one at a time are those listed at once. -/
theorem Command.items_writeCursor (command : Command) (active : Word) :
    (command.writeCursor active).items = command.writes active := by
  rw [writeCursor, writes]
  cases command.header with
  | setClass offset engineClass mask => exact WriteCursor.items_selected engineClass offset mask _
  | incrementing offset count => exact WriteCursor.items_ascending active offset _
  | nonIncrementing offset count => exact WriteCursor.items_fixed active offset _
  | masked offset mask => exact WriteCursor.items_selected active offset mask _
  | immediate offset data => exact WriteCursor.items_single active offset data _
  | restart => exact WriteCursor.items_nothing active _
  | gather offset insert sequential count => exact WriteCursor.items_nothing active _
  | extend operation value => exact WriteCursor.items_nothing active _
  | channelDone => exact WriteCursor.items_nothing active _

section Threaded

variable {σ α β : Type} (step : σ → α → σ × List β)

/-- What is found is appended to what was found before. -/
theorem foldl_threaded (state : σ) (found : Array β) (elements : List α) :
    (elements.foldl (fun (state, found) element =>
        ((step state element).1, found.appendList (step state element).2)) (state, found)).2.toList =
      found.toList ++ threaded step state elements := by
  induction elements generalizing state found with
  | nil => simp [threaded]
  | cons head rest ih =>
    rw [threaded, List.foldl_cons, List.foldl_cons, ih, ih]
    simp

/-- An empty list gives nothing. -/
theorem threaded_nil (state : σ) : threaded step state ([] : List α) = [] := rfl

/-- A list gives what its head gives, and what the rest gives in the state after that. -/
theorem threaded_cons (state : σ) (head : α) (rest : List α) :
    threaded step state (head :: rest) =
      (step state head).2 ++ threaded step (step state head).1 rest := by
  rw [threaded, List.foldl_cons]
  exact (foldl_threaded step _ _ rest).trans (by simp)

end Threaded

namespace Decoder

/-- The items that are still to come. -/
def items (decoder : Decoder) : List DecodedItem :=
  decoder.current.items.map .ok ++
    threaded StreamItem.decoded decoder.engineClass decoder.commands.items

/-- The items of a stream are its register writes. -/
theorem items_ofWords (words : List Word) : (ofWords words).items = registerWrites words := by
  rw [items, ofWords, WriteCursor.finished, WriteCursor.items_nothing]
  rfl

/-- A command that is entered takes at least as much from the bound as its writes add to it. -/
theorem size_entered {commands behind : CommandCursor} {command : Command}
    (taken : commands.next = (some (.ok command), behind)) (active : Word) :
    (command.writeCursor active).size + 2 * behind.rest.length < 2 * commands.rest.length := by
  obtain ⟨words, -⟩ := CommandCursor.next_eq_ok taken
  have bound : (command.writeCursor active).size ≤ command.payload.length + 1 := by
    rw [Command.writeCursor]
    cases command.header <;> simp [WriteCursor.size]
  rw [words, List.length_cons, List.length_append]
  omega

/-- A decoder has no items left and gives none, or gives the first of its items, the others being
those of the decoder behind it. -/
theorem next_cases (decoder : Decoder) :
    (∃ behind, decoder.next = (none, behind) ∧ decoder.items = [] ∧ behind.items = []) ∨
      ∃ item behind, decoder.next = (some item, behind) ∧ decoder.items = item :: behind.items ∧
        behind.size < decoder.size := by
  induction size : decoder.commands.rest.length using Nat.strongRecOn generalizing decoder with
  | ind size ih =>
    subst size
    rw [next]
    split
    · rename_i write current taken
      refine .inr ⟨_, _, rfl, ?_, ?_⟩
      · rw [items, items, WriteCursor.items_of_some taken]
        rfl
      · have shorter := WriteCursor.size_next taken
        simp only [Decoder.size]
        omega
    · rename_i finished exhausted
      have none : decoder.items =
          threaded StreamItem.decoded decoder.engineClass decoder.commands.items := by
        rw [items, WriteCursor.items_of_none exhausted]
        rfl
      split
      · rename_i commands taken
        obtain rfl := CommandCursor.behind_of_none taken
        refine .inl ⟨_, rfl, ?_, ?_⟩
        · rw [none, CommandCursor.items_of_none taken, threaded_nil]
        · rw [items, WriteCursor.finished, WriteCursor.items_nothing,
            CommandCursor.items_of_none taken, threaded_nil]
          rfl
      · rename_i anomaly commands taken
        refine .inr ⟨_, _, rfl, ?_, ?_⟩
        · rw [none, CommandCursor.items_of_some taken, threaded_cons, items, WriteCursor.finished,
            WriteCursor.items_nothing]
          rfl
        · have shorter := CommandCursor.length_rest_next taken
          simp only [Decoder.size, WriteCursor.finished, WriteCursor.size, List.length_nil]
          omega
      · rename_i command commands taken
        have shorter := CommandCursor.length_rest_next taken
        have entered := size_entered taken (command.header.classAfter decoder.engineClass)
        have same : decoder.items = items ⟨commands, command.header.classAfter decoder.engineClass,
            command.writeCursor (command.header.classAfter decoder.engineClass)⟩ := by
          rw [none, CommandCursor.items_of_some taken, threaded_cons, items,
            Command.items_writeCursor]
          rfl
        rw [same]
        rcases ih _ shorter ⟨commands, _, command.writeCursor _⟩ rfl with
          exhausted | ⟨item, behind, given, split, less⟩
        · exact .inl exhausted
        · refine .inr ⟨item, behind, given, split, Nat.lt_trans less ?_⟩
          simp only [Decoder.size]
          omega

/-- Asking for more items than there can be lists all of them, and leaves none. -/
theorem take_eq {count : Nat} {decoder : Decoder} (enough : decoder.size < count)
    (found : Array (DecodedItem × Word)) :
    (decoder.take count found).1.toList.map Prod.fst =
        found.toList.map Prod.fst ++ decoder.items ∧
      (decoder.take count found).2.items = [] := by
  induction count generalizing decoder found with
  | zero => exact absurd enough (Nat.not_lt_zero _)
  | succ count ih =>
    rw [take]
    rcases next_cases decoder with
      ⟨behind, exhausted, empty, last⟩ | ⟨item, behind, given, split, less⟩
    · rw [exhausted, empty]
      exact ⟨(List.append_nil _).symm, last⟩
    · rw [given, split]
      have smaller : behind.size < count := by omega
      obtain ⟨listed, last⟩ := ih smaller (found.push (item, behind.engineClass))
      refine ⟨?_, last⟩
      rw [listed]
      simp

/-- Taking all items of a stream one after the other gives its register writes, and nothing is
left. -/
theorem takeAll_eq (words : List Word) :
    (ofWords words).takeAll.1.toList.map Prod.fst = registerWrites words ∧
      (ofWords words).takeAll.2.next.1 = none := by
  obtain ⟨listed, last⟩ := take_eq (Nat.lt_succ_self (ofWords words).size) #[]
  refine ⟨listed.trans (items_ofWords words), ?_⟩
  rcases next_cases (ofWords words).takeAll.2 with
    ⟨behind, exhausted, -⟩ | ⟨item, behind, -, split, -⟩
  · rw [exhausted]
  · rw [takeAll, last] at split
    contradiction

/-- The items that a decoder gives for a stream until it is asked in vain. -/
def given (words : List Word) : List DecodedItem :=
  (ofWords words).takeAll.1.toList.map Prod.fst

/-- They are the register writes of the stream. -/
theorem given_eq (words : List Word) : given words = registerWrites words :=
  (takeAll_eq words).1

end Decoder

end HostChannel
