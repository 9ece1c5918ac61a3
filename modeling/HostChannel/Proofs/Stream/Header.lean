import HostChannel.Stream.Header
import Mathlib.Data.Nat.Bitwise

/-!
# Headers read back

A run of bits is read back from a word as it was placed there, and other runs that were placed
beside it do not show in it. So the header that an encoded header decodes to has the same fields,
each with the low bits that its run has room for. The other way round, a header that was read from a
word is written as the word, unless it has no fields: then the bits that it leaves unused are
cleared.
-/

namespace HostChannel

/-- A word has 32 bits. -/
theorem Word.lt_of_testBit {word : Word} {index : Nat}
    (set : word.toNat.testBit index = true) : index < 32 := by
  by_contra outside
  have bound : word.toNat < 2 ^ index :=
    Nat.lt_of_lt_of_le word.toNat_lt
      (Nat.pow_le_pow_right (by decide) (Nat.not_lt.mp outside))
  rw [Nat.testBit_lt_two_pow bound] at set
  contradiction

namespace BitField

/-- The bits of an extracted value. -/
theorem testBit_extract (field : BitField) (word : Word) (index : Nat) :
    (field.extract word).toNat.testBit index =
      (decide (index < field.width) && word.toNat.testBit (field.low + index)) := by
  rw [toNat_extract, count, Nat.one_shiftLeft, Nat.testBit_mod_two_pow, Nat.testBit_shiftRight]

/-- The bits of a truncated value. -/
theorem testBit_truncate (field : BitField) (value : Word) (index : Nat) :
    (field.truncate value).toNat.testBit index =
      (decide (index < field.width) && value.toNat.testBit index) := by
  rw [toNat_truncate, count, Nat.one_shiftLeft, Nat.testBit_mod_two_pow]

/-- The bits of a word in which a value was placed. -/
theorem testBit_place (field : BitField) (value : Word) (inside : field.low + field.width ≤ 32)
    (index : Nat) :
    (field.place value).toNat.testBit index =
      (decide (field.low ≤ index) && (decide (index - field.low < field.width) &&
        value.toNat.testBit (index - field.low))) := by
  rw [toNat_place _ _ inside, count, Nat.one_shiftLeft, Nat.testBit_shiftLeft,
    Nat.testBit_mod_two_pow]

/-- Extraction looks at each bit by itself. -/
theorem extract_or (field : BitField) (first second : Word) :
    field.extract (first ||| second) = field.extract first ||| field.extract second := by
  apply UInt32.toNat.inj
  apply Nat.eq_of_testBit_eq
  intro index
  rw [UInt32.toNat_or, Nat.testBit_or]
  simp only [testBit_extract, UInt32.toNat_or, Nat.testBit_or]
  exact Bool.and_or_distrib_left _ _ _

/-- What was placed in a run is read back from it, up to its width. -/
theorem extract_place (field : BitField) (value : Word) (inside : field.low + field.width ≤ 32) :
    field.extract (field.place value) = field.truncate value := by
  apply UInt32.toNat.inj
  apply Nat.eq_of_testBit_eq
  intro index
  rw [testBit_extract, testBit_place _ _ inside, testBit_truncate]
  simp

/-- What was placed in one run does not show in another that is apart from it. -/
theorem extract_place_of_apart (field other : BitField) (value : Word)
    (inside : other.low + other.width ≤ 32)
    (apart : field.low + field.width ≤ other.low ∨ other.low + other.width ≤ field.low) :
    field.extract (other.place value) = 0 := by
  apply UInt32.toNat.inj
  apply Nat.eq_of_testBit_eq
  intro index
  rw [testBit_extract, testBit_place _ _ inside, UInt32.toNat_zero, Nat.zero_testBit]
  simp only [Bool.and_eq_false_iff, decide_eq_false_iff_not]
  omega

/-- An empty word holds zero in every run. -/
theorem extract_zero (field : BitField) : field.extract 0 = 0 := by
  apply UInt32.toNat.inj
  rw [toNat_extract, UInt32.toNat_zero, Nat.zero_shiftRight, Nat.zero_mod]

/-- Truncation keeps the low bits. -/
theorem truncate_eq_and (field : BitField) (value mask : Word)
    (ones : mask.toNat = 2 ^ field.width - 1) : field.truncate value = value &&& mask := by
  apply UInt32.toNat.inj
  rw [toNat_truncate, UInt32.toNat_and, ones, Nat.and_two_pow_sub_one_eq_mod, count,
    Nat.one_shiftLeft]

/-- A value that was read from a run fits the run. -/
theorem truncate_extract (field : BitField) (word : Word) :
    field.truncate (field.extract word) = field.extract word := by
  apply UInt32.toNat.inj
  rw [toNat_truncate, toNat_extract, Nat.mod_mod]

/-- Placing what was read from a run keeps the bits of the run and clears the others. -/
theorem testBit_place_extract (field : BitField) (word : Word)
    (inside : field.low + field.width ≤ 32) (index : Nat) :
    (field.place (field.extract word)).toNat.testBit index =
      (decide (field.low ≤ index ∧ index < field.low + field.width) && word.toNat.testBit index) := by
  rw [testBit_place _ _ inside, testBit_extract]
  by_cases above : field.low ≤ index
  · rw [Nat.add_sub_cancel' above]
    by_cases below : index < field.low + field.width
    · simp [above, below, show index - field.low < field.width by omega]
    · simp [below, show ¬ index - field.low < field.width by omega]
  · simp [above]

/-- A flag that was read from a single bit is placed like the bit. -/
theorem place_flag (field : BitField) (word : Word) (single : field.width = 1) :
    field.place (field.extract word != 0).toUInt32 = field.place (field.extract word) := by
  have bit : (field.extract word).toNat < 2 := by
    rw [toNat_extract, count, single]
    exact Nat.mod_lt _ (by decide)
  congr 1
  apply UInt32.toNat.inj
  rcases Nat.lt_succ_iff_lt_or_eq.mp bit with zero | one
  · have : field.extract word = 0 := UInt32.toNat.inj (by simpa using zero)
    rw [this]
    rfl
  · have : field.extract word = 1 := UInt32.toNat.inj (by simpa using one)
    rw [this]
    rfl

end BitField

namespace Opcode

/-- An operation has the number that it was read from. -/
theorem number_of_ofNumber? {number : Word} {opcode : Opcode}
    (found : ofNumber? number = some opcode) : opcode.number = number := by
  apply UInt32.toNat.inj
  unfold ofNumber? at found
  split at found <;> cases found <;> rename_i named <;> exact named.symm

end Opcode

namespace Header

/-- Every header's operation is read back from its word. -/
theorem numberOf_encode (header : Header) :
    Opcode.numberOf header.encode = header.opcode.number := by
  have apart : Opcode.field.extract header.fieldBits = 0 := by
    cases header <;>
      simp [fieldBits, BitField.extract_or, BitField.extract_zero, BitField.extract_place_of_apart,
        Opcode.field, offsetField, classField, classMaskField, countField, maskField, dataField,
        gatherInsertField, gatherSequentialField, gatherCountField, operationField, valueField]
  have kept : Opcode.field.truncate header.opcode.number = header.opcode.number := by
    cases header <;> rfl
  rw [Opcode.numberOf, encode, BitField.extract_or, apart,
    BitField.extract_place _ _ (by decide), kept, UInt32.or_zero]

/-- A flag is read back from its bit. -/
theorem truncate_flag (flag : Bool) (field : BitField) (single : field.width = 1) :
    (field.truncate flag.toUInt32 != 0) = flag := by
  rw [BitField.truncate, BitField.count, single]
  cases flag <;> rfl

/-- Reading the fields of an encoded header gives the fields, each cut down to its width. -/
theorem ofWord_encode (header : Header) : ofWord header.opcode header.encode = header.truncate := by
  have apart : ∀ (field : BitField) (number : Word), field.low + field.width ≤ 28 →
      field.extract (Opcode.field.place number) = 0 := fun field number below =>
    field.extract_place_of_apart Opcode.field number (by decide) (.inl below)
  cases header <;>
    simp [ofWord, encode, opcode, fieldBits, truncate, truncate_flag, apart, BitField.extract_or,
      BitField.extract_place, BitField.extract_place_of_apart, offsetField, classField,
      classMaskField, countField, maskField, dataField, gatherInsertField, gatherSequentialField,
      gatherCountField, operationField, valueField]

/-- An encoded header decodes to the header with each field cut down to its width. -/
theorem decode?_encode (header : Header) : decode? header.encode = some header.truncate := by
  rw [decode?, numberOf_encode, Opcode.ofNumber?_number, Option.map_some, ofWord_encode]

/-- The header has no fields. -/
def bare : Header → Bool
  | restart => true
  | channelDone => true
  | _ => false

/-- The fields of a header that was read from a word are not too wide. -/
theorem truncate_ofWord (opcode : Opcode) (word : Word) :
    (ofWord opcode word).truncate = ofWord opcode word := by
  cases opcode <;> simp only [ofWord, truncate, BitField.truncate_extract]

/-- So a decoded header is its own truncation. -/
theorem truncate_of_decode? {word : Word} {header : Header}
    (decoded : decode? word = some header) : header.truncate = header := by
  obtain ⟨opcode, -, rfl⟩ := Option.map_eq_some_iff.mp decoded
  exact truncate_ofWord opcode word

/-- The operation number alone is the word without its low bits. -/
theorem place_numberOf (word : Word) :
    Opcode.field.place (Opcode.numberOf word) = word &&& 0xf0000000 := by
  apply UInt32.toNat.inj
  apply Nat.eq_of_testBit_eq
  intro index
  have mask : (0xf0000000 : Word).toNat = (2 ^ 4 - 1) <<< 28 := by decide
  have same : decide (28 ≤ index ∧ index < 28 + 4) =
      (decide (28 ≤ index) && decide (index - 28 < 4)) := by
    rw [← Bool.decide_and]
    exact decide_eq_decide.mpr (by omega)
  rw [Opcode.numberOf, BitField.testBit_place_extract _ _ (by decide), UInt32.toNat_and,
    Nat.testBit_and, mask, Nat.testBit_shiftLeft, Nat.testBit_two_pow_sub_one, Bool.and_comm]
  exact congrArg _ same

/-- A header that was read from a word is written as the word, but for the low bits of a header
without fields, which are cleared. -/
theorem encode_ofWord {opcode : Opcode} {word : Word}
    (found : Opcode.ofNumber? (Opcode.numberOf word) = some opcode) :
    (ofWord opcode word).encode =
      if (ofWord opcode word).bare then word &&& 0xf0000000 else word := by
  rw [encode, opcode_ofWord, Opcode.number_of_ofNumber? found]
  cases opcode with
  | restart | channelDone => simp [ofWord, fieldBits, bare, place_numberOf]
  | setClass | incrementing | nonIncrementing | masked | immediate | gather | extend =>
    -- The runs of the fields and of the operation number together are all bits of the word.
    apply UInt32.toNat.inj
    apply Nat.eq_of_testBit_eq
    intro index
    simp only [ofWord, fieldBits, bare, Opcode.numberOf, UInt32.toNat_or, Nat.testBit_or,
      BitField.testBit_place_extract, BitField.place_flag, Opcode.field, offsetField, classField,
      classMaskField, countField, maskField, dataField, gatherInsertField, gatherSequentialField,
      gatherCountField, operationField, valueField, Nat.reduceAdd, Nat.reduceLeDiff,
      Bool.false_eq_true, ↓reduceIte]
    cases set : word.toNat.testBit index with
    | false => simp
    | true =>
      have inside : index < 32 := Word.lt_of_testBit set
      simp only [Bool.and_true, Bool.or_eq_true, decide_eq_true_eq]
      omega

end Header

end HostChannel
