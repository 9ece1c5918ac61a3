import HostChannel.Word

/-!
# Decimal numbers

A number is read from the digits 0 to 9, with leading zeros as they come and at most one
plus sign in front. A text with any other character, without digits, or with a number
that a word cannot hold is no number.
-/

namespace HostChannel.Text.Decimal

/-- The number that digits spell; none if some character is no digit. -/
def digitsValue? (digits : List Char) : Option Nat :=
  digits.foldlM (fun value digit =>
    if digit.isDigit then some (value * 10 + (digit.toNat - '0'.toNat)) else none) 0

/-- The characters without a plus sign in front. -/
def withoutSign : List Char → List Char
  | '+' :: digits => digits
  | digits => digits

/-- The word that a text spells. -/
def word? (text : String) : Option Word :=
  let digits := withoutSign text.toList
  if digits.isEmpty then none
  else
    (digitsValue? digits).bind fun value =>
      if value < UInt32.size then some (UInt32.ofNat value) else none

end HostChannel.Text.Decimal
