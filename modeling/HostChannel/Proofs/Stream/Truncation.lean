import HostChannel.Proofs.Stream.Header

/-!
# Headers that are too wide

A header's fields are words, and a command word has fewer bits for each of them. Encoding a header
keeps the low bits of every field and lets none of the others through to another field or to the
operation number: the header that is read back has the same fields, each reduced modulo what its
width can count (`decode?_encode_mod_widths`).
-/

namespace HostChannel

namespace BitField

/-- Only the low bits of a value are placed. -/
theorem place_truncate (field : BitField) (value : Word) :
    field.place (field.truncate value) = field.place value := by
  rw [place, toNat_truncate, Nat.mod_mod]
  rfl

end BitField

namespace Header

/-- The fields of a header in order, each with the number of bits that a command word has for it. A
flag takes one bit. -/
def fields : Header → List (Nat × Nat)
  | setClass offset engineClass mask =>
    [(12, offset.toNat), (10, engineClass.toNat), (6, mask.toNat)]
  | incrementing offset count => [(12, offset.toNat), (16, count.toNat)]
  | nonIncrementing offset count => [(12, offset.toNat), (16, count.toNat)]
  | masked offset mask => [(12, offset.toNat), (16, mask.toNat)]
  | immediate offset data => [(12, offset.toNat), (16, data.toNat)]
  | restart => []
  | gather offset insert sequential count =>
    [(12, offset.toNat), (1, insert.toNat), (1, sequential.toNat), (14, count.toNat)]
  | extend operation value => [(4, operation.toNat), (24, value.toNat)]
  | channelDone => []

/-- The fields of a header, each reduced modulo the number of values of its width. -/
def reducedFields (header : Header) : List (Nat × Nat) :=
  header.fields.map fun field => (field.1, field.2 % 2 ^ field.1)

/-- A header is known by its operation and its fields. -/
theorem eq_of_fields {header other : Header} (opcodes : header.opcode = other.opcode)
    (fields : header.fields = other.fields) : header = other := by
  cases header <;> cases other <;> try contradiction
  all_goals simp_all [Header.fields, UInt32.toNat_inj]
  -- What is left are the flags of a gather, which were compared as numbers.
  have flag : ∀ {value value' : Bool}, value.toNat = value'.toNat → value = value' := by decide
  exact ⟨flag fields.2.1, flag fields.2.2.1⟩

/-- Truncation does not change the operation. -/
@[simp] theorem opcode_truncate (header : Header) : header.truncate.opcode = header.opcode := by
  cases header <;> rfl

/-- Truncation reduces each field. -/
theorem fields_truncate (header : Header) : header.truncate.fields = header.reducedFields := by
  have flag : ∀ value : Bool, value.toNat % 2 = value.toNat := fun value => by
    cases value <;> rfl
  cases header <;>
    simp [truncate, fields, reducedFields, flag, BitField.toNat_truncate, BitField.count,
      offsetField, classField, classMaskField, countField, maskField, dataField, gatherCountField,
      operationField, valueField]

/-- A header and its truncation are written as the same word. -/
theorem encode_truncate (header : Header) : header.truncate.encode = header.encode := by
  cases header <;> simp only [encode, opcode, fieldBits, truncate, BitField.place_truncate]

/-- Reducing the fields changes nothing exactly when each fits its width. -/
theorem reducedFields_eq_iff (header : Header) :
    header.reducedFields = header.fields ↔
      ∀ field ∈ header.fields, field.2 < 2 ^ field.1 := by
  have unchanged : ∀ field : Nat × Nat,
      (field.1, field.2 % 2 ^ field.1) = field ↔ field.2 < 2 ^ field.1 := by
    intro field
    have positive : 0 < 2 ^ field.1 := Nat.two_pow_pos _
    rw [Prod.ext_iff]
    simp [Nat.mod_eq_iff_lt positive.ne']
  have identity := List.map_eq_map_iff (l := header.fields) (g := id)
    (f := fun field : Nat × Nat => (field.1, field.2 % 2 ^ field.1))
  rw [List.map_id] at identity
  rw [reducedFields, identity]
  simp only [unchanged, id_eq]

/-- Two headers have the same truncation exactly when they are of the same operation and their
fields agree modulo their widths. -/
theorem truncate_eq_iff (header other : Header) :
    header.truncate = other.truncate ↔
      header.opcode = other.opcode ∧ header.reducedFields = other.reducedFields := by
  constructor
  · intro same
    rw [← fields_truncate, ← fields_truncate, ← opcode_truncate header, ← opcode_truncate other,
      same]
    exact ⟨rfl, rfl⟩
  · rintro ⟨opcodes, fields⟩
    apply eq_of_fields
    · rw [opcode_truncate, opcode_truncate, opcodes]
    · rw [fields_truncate, fields_truncate, fields]

/-- Two headers are written as the same word exactly when they have the same truncation. -/
theorem encode_eq_iff (header other : Header) :
    header.encode = other.encode ↔ header.truncate = other.truncate := by
  constructor
  · intro same
    have decoded := decode?_encode header
    rw [same, decode?_encode] at decoded
    exact (Option.some.inj decoded).symm
  · intro same
    rw [← encode_truncate header, same, encode_truncate]

/-- Whatever the fields of a header, its word names its operation and decodes to a header of that
operation with each field reduced modulo its width. That is the header itself exactly when every
field fits its width, and two headers share a word exactly when they are of one operation with
fields that agree modulo their widths. -/
theorem decode?_encode_mod_widths (header : Header) :
    Opcode.numberOf header.encode = header.opcode.number ∧
    (∃ decoded, decode? header.encode = some decoded ∧ decoded.opcode = header.opcode ∧
      decoded.fields = header.reducedFields) ∧
    (decode? header.encode = some header ↔
      ∀ field ∈ header.fields, field.2 < 2 ^ field.1) ∧
    ∀ other : Header, header.encode = other.encode ↔
      header.opcode = other.opcode ∧ header.reducedFields = other.reducedFields := by
  refine ⟨numberOf_encode header, ⟨header.truncate, decode?_encode header, opcode_truncate header,
    fields_truncate header⟩, ?_, fun other => ?_⟩
  · rw [decode?_encode, Option.some.injEq, ← reducedFields_eq_iff, ← fields_truncate]
    constructor
    · intro same
      rw [same]
    · intro fields
      exact eq_of_fields (opcode_truncate header) fields
  · rw [encode_eq_iff, truncate_eq_iff]

end Header

end HostChannel
