/-!
# Command words

A command stream is a sequence of 32-bit words. This module reads and writes a run of
bits inside a word, lists the positions of the set bits of a mask, and lays a word out
as four bytes with the least significant byte first.
-/

namespace HostChannel

/-- A 32-bit word of a command stream, a register value or a counter. -/
abbrev Word := UInt32

/-- A run of bits inside a word. -/
structure BitField where
  /-- Position of the least significant bit of the run. -/
  low : Nat
  /-- Number of bits in the run. -/
  width : Nat
  deriving DecidableEq, Repr

namespace BitField

/-- Number of values that the run can hold. -/
def count (field : BitField) : Nat :=
  1 <<< field.width

/-- The value that a word holds in the run. -/
def extract (field : BitField) (word : Word) : Word :=
  UInt32.ofNat ((word.toNat >>> field.low) % field.count)

/-- The word that holds the low bits of a value in the run and zero elsewhere. -/
def place (field : BitField) (value : Word) : Word :=
  UInt32.ofNat ((value.toNat % field.count) <<< field.low)

/-- The low bits of a value that fit the run. -/
def truncate (field : BitField) (value : Word) : Word :=
  UInt32.ofNat (value.toNat % field.count)

/-- Truncation is the remainder modulo the number of values of the run. -/
theorem toNat_truncate (field : BitField) (value : Word) :
    (field.truncate value).toNat = value.toNat % field.count := by
  have bound : value.toNat % field.count ≤ value.toNat := Nat.mod_le _ _
  have fits := value.toNat_lt
  simp only [truncate, UInt32.toNat_ofNat']
  exact Nat.mod_eq_of_lt (by omega)

/-- Extraction is a shift followed by a remainder. -/
theorem toNat_extract (field : BitField) (word : Word) :
    (field.extract word).toNat = (word.toNat >>> field.low) % field.count := by
  have bound : (word.toNat >>> field.low) % field.count ≤ word.toNat := by
    rw [Nat.shiftRight_eq_div_pow]
    exact Nat.le_trans (Nat.mod_le _ _) (Nat.div_le_self _ _)
  have fits := word.toNat_lt
  simp only [extract, UInt32.toNat_ofNat']
  exact Nat.mod_eq_of_lt (by omega)

/-- A run that ends inside the word keeps all of its bits when it is placed. -/
theorem toNat_place (field : BitField) (value : Word) (inside : field.low + field.width ≤ 32) :
    (field.place value).toNat = (value.toNat % field.count) <<< field.low := by
  have bound : value.toNat % 2 ^ field.width < 2 ^ field.width :=
    Nat.mod_lt _ (Nat.two_pow_pos _)
  have scaled : value.toNat % 2 ^ field.width * 2 ^ field.low < 2 ^ field.width * 2 ^ field.low :=
    Nat.mul_lt_mul_of_pos_right bound (Nat.two_pow_pos _)
  rw [← Nat.pow_add] at scaled
  have total : 2 ^ (field.width + field.low) ≤ 2 ^ 32 :=
    Nat.pow_le_pow_right (by decide) (by omega)
  simp only [place, count, UInt32.toNat_ofNat', Nat.shiftLeft_eq, Nat.one_mul]
  exact Nat.mod_eq_of_lt (by omega)

end BitField

namespace Word

/-- Half the number of values of a word. -/
def half : Nat := 0x80000000

/-- Positions of the set bits of a word, in ascending order. -/
def setBits (word : Word) : List Nat :=
  (List.range 32).filter word.toNat.testBit

/-- Number of set bits of a word. -/
def bitCount (word : Word) : Nat :=
  (setBits word).length

/-- The four bytes of a word, least significant first. -/
def bytes (word : Word) : List UInt8 :=
  [word.toUInt8, (word >>> 8).toUInt8, (word >>> 16).toUInt8, (word >>> 24).toUInt8]

/-- The word that four bytes spell, least significant first. -/
def ofBytes (first second third fourth : UInt8) : Word :=
  UInt32.ofNat (first.toNat + second.toNat * 0x100 + third.toNat * 0x10000 +
    fourth.toNat * 0x1000000)

/-- The words that bytes spell, four bytes each; a shorter rest spells none. -/
def listOfBytes : List UInt8 → List Word
  | first :: second :: third :: fourth :: rest =>
    ofBytes first second third fourth :: listOfBytes rest
  | _ => []

/-- A word takes four bytes. -/
@[simp] theorem length_bytes (word : Word) : (bytes word).length = 4 := rfl

/-- The bytes of a word spell the word. -/
theorem ofBytes_bytes (word : Word) :
    ofBytes word.toUInt8 (word >>> 8).toUInt8 (word >>> 16).toUInt8 (word >>> 24).toUInt8 =
      word := by
  have bound := word.toNat_lt
  apply UInt32.toNat.inj
  simp only [ofBytes, UInt32.toNat_ofNat', UInt32.toNat_toUInt8, UInt32.toNat_shiftRight,
    Nat.shiftRight_eq_div_pow, UInt32.reduceToNat, Nat.reduceMod, Nat.reducePow]
  omega

/-- Words are read back from their bytes. -/
theorem listOfBytes_flatMap_bytes (words : List Word) :
    listOfBytes (words.flatMap bytes) = words := by
  induction words with
  | nil => rfl
  | cons word rest ih =>
    simp only [List.flatMap_cons, bytes, List.cons_append, List.nil_append, listOfBytes,
      ofBytes_bytes]
    exact congrArg (word :: ·) ih

end Word

end HostChannel
