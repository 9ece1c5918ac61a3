import HostChannel.Memory

/-!
# Words in memory

What is written to memory as words is read back as words, and words away from what is written
stay as they are. Words are read byte by byte, so all of it follows from what a write does to
each byte.
-/

namespace HostChannel.Memory

/-- A byte outside the range written is kept. -/
theorem byte_write_of_outside {memory : Memory} {start position : Nat} {data : List UInt8}
    (outside : position < start ∨ start + data.length ≤ position) :
    (memory.write start data).byte position = memory.byte position := by
  rw [byte_write]
  split
  · rw [List.getD_eq_getElem?_getD, List.getElem?_eq_none (by omega), Option.getD_none]
  · rfl

/-- Words are the same where the bytes are. -/
theorem word_congr {first second : Memory} {position : Nat}
    (same : ∀ offset, offset < 4 → first.byte (position + offset) = second.byte (position + offset)) :
    first.word position = second.word position := by
  have start := same 0 (by omega)
  rw [Nat.add_zero] at start
  rw [word, word, start, same 1 (by omega), same 2 (by omega), same 3 (by omega)]

/-- A word that is written is read back. -/
theorem word_write_bytes (memory : Memory) (position : Nat) (word : Word) :
    (memory.write position (Word.bytes word)).word position = word := by
  simp only [Memory.word, byte_write, Word.bytes, Nat.le_refl, Nat.le_add_right, if_true,
    Nat.sub_self, Nat.add_sub_cancel_left, List.getD_cons_zero, List.getD_cons_succ,
    Word.ofBytes_bytes]

/-- No words are read of an empty range. -/
theorem readWords_zero (memory : Memory) (position : Nat) : memory.readWords position 0 = [] := rfl

/-- Nothing written changes nothing. -/
theorem write_nil (memory : Memory) (position : Nat) : memory.write position [] = memory := rfl

/-- The words that are read, each by its position. -/
theorem getElem?_readWords (memory : Memory) (position count index : Nat) :
    (memory.readWords position count)[index]? =
      if index < count then some (memory.word (position + 4 * index)) else none := by
  rw [readWords, List.getElem?_map]
  by_cases inside : index < count
  · rw [if_pos inside, List.getElem?_range' inside, Option.map_some]
  · rw [if_neg inside, List.getElem?_eq_none (by rw [List.length_range']; omega), Option.map_none]

/-- Words are read in two parts as they are read in one. -/
theorem readWords_add (memory : Memory) (position first second : Nat) :
    memory.readWords position (first + second) =
      memory.readWords position first ++ memory.readWords (position + 4 * first) second := by
  rw [readWords, readWords, readWords, ← List.map_append, List.range'_append]

/-- Words are the same where all bytes of their range are. -/
theorem readWords_congr {first second : Memory} {position count : Nat}
    (same : ∀ place, position ≤ place → place < position + 4 * count →
      first.byte place = second.byte place) :
    first.readWords position count = second.readWords position count := by
  apply List.ext_getElem?
  intro index
  rw [getElem?_readWords, getElem?_readWords]
  split
  · congr 1
    apply word_congr
    intro offset small
    exact same _ (by omega) (by omega)
  · rfl

/-- Words before or behind what is written are kept. -/
theorem readWords_write_of_outside {memory : Memory} {start position count : Nat}
    {data : List UInt8}
    (outside : position + 4 * count ≤ start ∨ start + data.length ≤ position) :
    (memory.write start data).readWords position count = memory.readWords position count := by
  apply readWords_congr
  intro place after before
  apply byte_write_of_outside
  omega

/-- A word takes four bytes, and so many words four times as many. -/
theorem length_flatMap_bytes (words : List Word) :
    (words.flatMap Word.bytes).length = 4 * words.length := by
  induction words with
  | nil => rfl
  | cons word rest ih =>
    rw [List.flatMap_cons, List.length_append, ih, Word.length_bytes, List.length_cons]
    omega

/-- Bytes are written in two parts as they are written in one. -/
theorem write_append (memory : Memory) (position : Nat) (first second : List UInt8) :
    memory.write position (first ++ second) =
      (memory.write position first).write (position + first.length) second := by
  induction first generalizing memory position with
  | nil => rfl
  | cons byte rest ih =>
    rw [List.cons_append, write, write, ih, List.length_cons]
    congr 1
    omega

/-- What was written to a memory, after more is written to it. -/
theorem getElem?_written_write (memory : Memory) (start : Nat) (data : List UInt8)
    (position : Nat) :
    (memory.write start data).written[position]? =
      if start ≤ position then data[position - start]?.or memory.written[position]?
      else memory.written[position]? := by
  induction data generalizing memory start with
  | nil => simp [write]
  | cons head rest ih =>
    rw [write, ih]
    simp only [Std.ExtTreeMap.getElem?_insert, Std.LawfulEqCmp.compare_eq_iff_eq]
    by_cases same : start = position
    · subst same
      rw [if_neg (by omega), if_pos rfl, if_pos (Nat.le_refl _), Nat.sub_self]
      rfl
    · by_cases before : start ≤ position
      · have further : position - start = position - (start + 1) + 1 := by omega
        rw [if_pos before, if_pos (by omega), if_neg same, further, List.getElem?_cons_succ]
      · rw [if_neg before, if_neg (by omega), if_neg same]

/-- Memories of one size to which the same was written are the same. -/
theorem eq_of_written {first second : Memory} (sizes : first.size = second.size)
    (written : first.written = second.written) : first = second := by
  cases first
  cases second
  obtain rfl := sizes
  obtain rfl := written
  rfl

/-- Bytes of ranges that are apart may be written in either order. -/
theorem write_comm (memory : Memory) {first second : Nat} {data more : List UInt8}
    (apart : first + data.length ≤ second ∨ second + more.length ≤ first) :
    (memory.write first data).write second more = (memory.write second more).write first data := by
  have written : ((memory.write first data).write second more).written =
      ((memory.write second more).write first data).written := by
    apply Std.ExtTreeMap.ext_getElem?
    intro position
    simp only [getElem?_written_write]
    by_cases inside : first ≤ position ∧ position < first + data.length
    · have outside : ¬ second ≤ position ∨ more.length ≤ position - second := by omega
      rcases outside with before | behind
      · simp [before]
      · simp [behind]
    · have outside : ¬ first ≤ position ∨ data.length ≤ position - first := by omega
      rcases outside with before | behind
      · simp [before]
      · simp [behind]
  exact eq_of_written (by simp only [size_write]) written

/-- Words that are written are read back. -/
theorem readWords_write (memory : Memory) (position : Nat) (words : List Word) :
    (memory.write position (words.flatMap Word.bytes)).readWords position words.length = words := by
  induction words generalizing memory position with
  | nil => rfl
  | cons word rest ih =>
    rw [List.flatMap_cons, write_append, List.length_cons, Nat.add_comm rest.length 1,
      readWords_add, Word.length_bytes]
    have first : (((memory.write position (Word.bytes word)).write (position + 4)
        (rest.flatMap Word.bytes)).readWords position 1) = [word] := by
      rw [readWords_write_of_outside (Or.inl (by omega))]
      change [(memory.write position (Word.bytes word)).word position] = [word]
      rw [word_write_bytes]
    rw [first, Nat.mul_one, ih]
    rfl

/-- Words that are written behind others are read behind them. -/
theorem readWords_write_behind (memory : Memory) (position count : Nat) (words : List Word) :
    (memory.write (position + 4 * count) (words.flatMap Word.bytes)).readWords position
        (count + words.length) =
      memory.readWords position count ++ words := by
  rw [readWords_add, readWords_write, readWords_write_of_outside (.inl (Nat.le_refl _))]

/-- The words of a range are those that its bytes spell. -/
theorem listOfBytes_read (memory : Memory) (position count : Nat) :
    Word.listOfBytes (memory.read position (4 * count)) = memory.readWords position count := by
  induction count generalizing position with
  | zero => rfl
  | succ count ih =>
    have four : 4 * (count + 1) = 4 * count + 1 + 1 + 1 + 1 := by omega
    rw [Nat.add_comm count 1, readWords_add, ← ih, Nat.add_comm 1 count, four]
    simp only [read, List.range'_succ, List.map_cons, Word.listOfBytes]
    rfl

end HostChannel.Memory
