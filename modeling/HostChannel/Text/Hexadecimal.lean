/-!
# Hexadecimal numbers

Numbers are written in lower-case hexadecimal, with leading zeros up to a least number
of digits. `prefixed` puts `0x` in front. Bytes are written with two digits each and nothing
between them; `bytesOfDigits?` reads back exactly what was written so.
-/

namespace HostChannel.Text.Hexadecimal

/-- The digits of a number, with zeros in front up to `least` digits. -/
def digits (least number : Nat) : List Char :=
  let shortest := Nat.toDigits 16 number
  List.replicate (least - shortest.length) '0' ++ shortest

/-- The text of a number with at least `least` digits. -/
def padded (least number : Nat) : String :=
  String.ofList (digits least number)

/-- The text of a number with at least `least` digits after `0x`. -/
def prefixed (least number : Nat) : String :=
  "0x" ++ padded least number

/-- A number has at least the digits asked for. -/
theorem le_length_digits (least number : Nat) : least ≤ (digits least number).length := by
  simp only [digits, List.length_append, List.length_replicate]
  omega

/-- The two digits of a byte. -/
def byteDigits (byte : UInt8) : List Char :=
  digits 2 byte.toNat

/-- The text of bytes. -/
def ofBytes (bytes : List UInt8) : String :=
  String.ofList (bytes.flatMap byteDigits)

/-- The value of a digit. -/
def digitValue? (digit : Char) : Option Nat :=
  if digit.isDigit then some (digit.toNat - '0'.toNat)
  else if 'a' ≤ digit ∧ digit ≤ 'f' then some (digit.toNat - 'a'.toNat + 10)
  else none

/-- The bytes that digits spell; an odd number of digits spells none. -/
def bytesOfDigits? : List Char → Option (List UInt8)
  | [] => some []
  | [_] => none
  | high :: low :: rest => do
    let high ← digitValue? high
    let low ← digitValue? low
    let bytes ← bytesOfDigits? rest
    pure (UInt8.ofNat (high * 16 + low) :: bytes)

/-- The bytes that a text spells. -/
def bytes? (text : String) : Option (List UInt8) :=
  bytesOfDigits? text.toList

/-- The digits of a number below 256 are two, and their values give the number back. -/
theorem bytesOfDigits?_digits :
    ∀ number < 256, bytesOfDigits? (digits 2 number) = some [UInt8.ofNat number] ∧
      (digits 2 number).length = 2 := by
  decide +kernel

/-- Bytes are read back from their digits. -/
theorem bytesOfDigits?_flatMap_byteDigits (bytes : List UInt8) :
    bytesOfDigits? (bytes.flatMap byteDigits) = some bytes := by
  induction bytes with
  | nil => rfl
  | cons byte rest ih =>
    obtain ⟨spelled, two⟩ := bytesOfDigits?_digits byte.toNat byte.toNat_lt
    rw [List.flatMap_cons, byteDigits]
    match pair : digits 2 byte.toNat with
    | [] => simp [pair] at two
    | [_] => simp [pair] at two
    | [high, low] =>
      rw [pair] at spelled
      simp only [List.cons_append, List.nil_append, bytesOfDigits?] at spelled ⊢
      rw [ih]
      cases first : digitValue? high with
      | none => simp [first] at spelled
      | some high =>
        cases second : digitValue? low with
        | none => simp [first, second] at spelled
        | some low => simp_all
    | _ :: _ :: _ :: _ => simp [pair] at two

end HostChannel.Text.Hexadecimal
