import HostChannel.Proofs.Stream.RegisterWrite

/-!
# The writes of one command, call by call

A command may come from anywhere, so its payload may be shorter or longer than its header asks for.
Where the header has a register for a call and the command a value, the call is answered with the
write of the one to the other, and otherwise with nothing, then and from then on
(`next_after_writeCursor`). A mask has a register for as many calls as it has set bits, which are
taken in ascending order; it is looked at before the payload is, so that the two could only fall out
of step when there is nothing more to write.
-/

namespace HostChannel

/-- A number that satisfies a predicate comes behind just as many that do as are below it. -/
theorem getElem?_filter_range_of_holds {holds : Nat → Bool} {count number : Nat}
    (below : number < count) (satisfied : holds number = true) :
    ((List.range count).filter holds)[((List.range number).filter holds).length]? =
      some number := by
  have parts : List.range count =
      List.range number ++ (List.range (count - number)).map (number + ·) := by
    rw [← List.range_add, Nat.add_sub_cancel' (Nat.le_of_lt below)]
  have first : List.range (count - number) =
      0 :: (List.range (count - number - 1)).map Nat.succ := by
    rw [← List.range_succ_eq_map, Nat.sub_add_cancel (by omega)]
  rw [parts, List.filter_append, List.getElem?_append_right (Nat.le_refl _), Nat.sub_self, first,
    List.map_cons, Nat.add_zero, List.filter_cons_of_pos satisfied, List.getElem?_cons_zero]

/-- Among the first numbers, the one at a place satisfies a predicate that just as many below it
satisfy. -/
theorem getElem?_filter_range {holds : Nat → Bool} {count place number : Nat} :
    ((List.range count).filter holds)[place]? = some number ↔
      number < count ∧ holds number = true ∧
        ((List.range number).filter holds).length = place := by
  constructor
  · intro found
    have listed := List.mem_filter.mp (List.mem_of_getElem? found)
    have below := List.mem_range.mp listed.1
    have counted := getElem?_filter_range_of_holds below listed.2
    have within := (List.getElem?_eq_some_iff.mp counted).1
    have distinct : ((List.range count).filter holds).Nodup := List.nodup_range.filter _
    exact ⟨below, listed.2, (List.getElem?_inj within distinct).mp (counted.trans found.symm)⟩
  · rintro ⟨below, satisfied, rfl⟩
    exact getElem?_filter_range_of_holds below satisfied

namespace Word

/-- The positions of the set bits, the lowest first, are those of set bits with just as many set
bits below them. -/
theorem getElem?_setBits {word : Word} {place bit : Nat} :
    (setBits word)[place]? = some bit ↔
      word.toNat.testBit bit = true ∧
        ((List.range bit).filter word.toNat.testBit).length = place := by
  rw [setBits, getElem?_filter_range]
  constructor
  · exact And.right
  · intro set
    exact ⟨lt_of_testBit set.1, set⟩

end Word

namespace Header

/-- The header has a register for the call behind a number of others: the register of a set bit with
just as many set bits below it, the register that many behind the offset, or the offset itself. -/
def AimsAt (header : Header) (call register : Nat) : Prop :=
  match header with
  | setClass offset _ mask | masked offset mask =>
    ∃ bit, mask.toNat.testBit bit = true ∧
      ((List.range bit).filter mask.toNat.testBit).length = call ∧ register = offset.toNat + bit
  | incrementing offset _ => register = offset.toNat + call
  | nonIncrementing offset _ => register = offset.toNat
  | immediate offset _ => call = 0 ∧ register = offset.toNat
  | restart | gather .. | extend .. | channelDone => False

end Header

namespace Command

/-- The value that a command has for the call behind a number of others: immediate data, and else a
payload word. -/
def value? (command : Command) (call : Nat) : Option Word :=
  match command.header with
  | .immediate _ data => some data
  | _ => command.payload[call]?

/-- The command has a write for the call behind a number of others: of the value that it has, to the
register that its header has, of the class that its header selects or leaves active. -/
def Makes (command : Command) (active : Word) (call : Nat) (write : RegisterWrite) : Prop :=
  ∃ register value, command.header.AimsAt call register ∧ command.value? call = some value ∧
    write = ⟨command.header.classAfter active, UInt32.ofNat register, value⟩

/-- The writes for a mask are those of payload words to the registers of its set bits. -/
theorem getElem?_selectedWrites {engineClass offset mask : Word} {payload : List Word} {call : Nat}
    {write : RegisterWrite} :
    (selectedWrites engineClass offset mask payload)[call]? = some write ↔
      ∃ register value, (∃ bit, mask.toNat.testBit bit = true ∧
          ((List.range bit).filter mask.toNat.testBit).length = call ∧
          register = offset.toNat + bit) ∧
        payload[call]? = some value ∧ write = ⟨engineClass, UInt32.ofNat register, value⟩ := by
  rw [selectedWrites, List.getElem?_zipWith_eq_some]
  constructor
  · rintro ⟨bit, value, set, given, rfl⟩
    obtain ⟨one, below⟩ := Word.getElem?_setBits.mp set
    refine ⟨_, value, ⟨bit, one, below, rfl⟩, given, ?_⟩
    rw [UInt32.ofNat_add, UInt32.ofNat_toNat]
  · rintro ⟨_, value, ⟨bit, one, below, rfl⟩, given, rfl⟩
    refine ⟨bit, value, Word.getElem?_setBits.mpr ⟨one, below⟩, given, ?_⟩
    rw [UInt32.ofNat_add, UInt32.ofNat_toNat]

/-- The writes listed for a command are those that it has. -/
theorem getElem?_writes (command : Command) (active : Word) (call : Nat) (write : RegisterWrite) :
    (command.writes active)[call]? = some write ↔ command.Makes active call write := by
  obtain ⟨index, word, header, payload⟩ := command
  cases header with
  | setClass offset engineClass mask => exact getElem?_selectedWrites
  | masked offset mask => exact getElem?_selectedWrites
  | incrementing offset count =>
    simp [writes, Makes, Header.AimsAt, value?, Header.classAfter, UInt32.ofNat_add, eq_comm]
  | nonIncrementing offset count =>
    simp [writes, Makes, Header.AimsAt, value?, Header.classAfter, eq_comm]
  | immediate offset data =>
    simp [writes, Makes, Header.AimsAt, value?, Header.classAfter, List.getElem?_singleton, eq_comm]
  | restart | gather | extend | channelDone => simp [writes, Makes, Header.AimsAt]

end Command

namespace WriteCursor

/-- The cursor after a number of calls for the next write. -/
def after (cursor : WriteCursor) : Nat → WriteCursor
  | 0 => cursor
  | calls + 1 => cursor.next.2.after calls

/-- A cursor that has no next write has none behind it, although it moves on: without payload there
is nothing for the register behind the next, nor for a mask with one bit less. -/
theorem items_behind_none {cursor behind : WriteCursor} (taken : cursor.next = (none, behind)) :
    behind.items = [] := by
  obtain ⟨engineClass, pattern, payload⟩ := cursor
  have unmoved : behind = ⟨engineClass, pattern, payload⟩ → behind.items = [] := by
    rintro rfl
    exact items_of_none taken
  -- A pattern that still has a register finds the payload used up.
  have spent : ∀ {register : Word} {moved : WritePattern},
      writePayload ⟨engineClass, pattern, payload⟩ register moved = (none, behind) →
        behind = ⟨engineClass, moved, []⟩ := by
    intro register moved given
    cases payload with
    | nil => exact (Prod.mk.inj given).2.symm
    | cons value rest => cases (Prod.mk.inj given).1
  cases pattern with
  | nothing => exact unmoved (Prod.mk.inj taken).2.symm
  | single register value => cases (Prod.mk.inj taken).1
  | ascending register =>
    rw [spent taken, items_ascending]
    rfl
  | fixed register =>
    rw [spent taken, items_fixed]
    rfl
  | selected offset mask =>
    cases lowest : Word.lowestBit? mask with
    | none =>
      simp only [next, lowest] at taken
      exact unmoved (Prod.mk.inj taken).2.symm
    | some bit =>
      simp only [next, lowest] at taken
      rw [spent taken, items_selected, Command.selectedWrites, List.zipWith_nil_right]

/-- Calls are answered with the writes in order, and with nothing from then on. -/
theorem next_after (cursor : WriteCursor) (calls : Nat) :
    (cursor.after calls).next.1 = cursor.items[calls]? := by
  induction calls generalizing cursor with
  | zero =>
    rw [after]
    rcases taken : cursor.next with ⟨_ | write, behind⟩
    · rw [items_of_none taken, List.getElem?_nil]
    · rw [items_of_some taken, List.getElem?_cons_zero]
  | succ calls ih =>
    rw [after, ih]
    rcases taken : cursor.next with ⟨_ | write, behind⟩
    · rw [items_of_none taken, items_behind_none taken, List.getElem?_nil, List.getElem?_nil]
    · rw [items_of_some taken, List.getElem?_cons_succ]

end WriteCursor

/-- Whatever the header and the payload of a command, and whatever class is active, each call for
the next write is answered with the write that the command has for it, if it has one; and after a
call that was answered with nothing, so are all others. -/
theorem Command.next_after_writeCursor (command : Command) (active : Word) (calls : Nat) :
    (∀ write, ((command.writeCursor active).after calls).next.1 = some write ↔
        command.Makes active calls write) ∧
      (((command.writeCursor active).after calls).next.1 = none →
        ∀ later, calls ≤ later → ((command.writeCursor active).after later).next.1 = none) := by
  simp only [WriteCursor.next_after, items_writeCursor]
  refine ⟨getElem?_writes command active calls, fun exhausted later behind => ?_⟩
  have length := List.getElem?_eq_none_iff.mp exhausted
  exact List.getElem?_eq_none (Nat.le_trans length behind)

end HostChannel
