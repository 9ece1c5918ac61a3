import HostChannel.Text.Hexadecimal

/-!
# Hexadecimal numbers read back

The digits of a number, with or without zeros in front, spell the number. A word has exactly eight
digits when eight are asked for.
-/

namespace HostChannel.Text.Hexadecimal

/-- The character is one of the digits that numbers are written with. -/
def isDigit (character : Char) : Bool :=
  (digitValue? character).isSome

/-- The number that digits spell; none if some character is no digit. -/
def number? (digits : List Char) : Option Nat :=
  digits.foldlM (fun value digit => (digitValue? digit).map (value * 16 + ·)) 0

/-- Each digit has its value. -/
theorem digitValue?_digitChar : ∀ value < 16, digitValue? (Nat.digitChar value) = some value := by
  decide

/-- Numbers are written with digits. -/
theorem isDigit_of_mem_toDigits {number : Nat} :
    ∀ character ∈ Nat.toDigits 16 number, isDigit character = true := by
  induction number using Nat.strongRecOn with
  | ind number ih =>
    rw [Nat.toDigits_eq_if (by decide)]
    split
    · rename_i small
      simp [isDigit, digitValue?_digitChar number small]
    · rename_i large
      have smaller : number / 16 < number := by omega
      have last : number % 16 < 16 := Nat.mod_lt _ (by decide)
      intro character among
      rcases List.mem_append.mp among with earlier | latest
      · exact ih _ smaller character earlier
      · simp [List.mem_singleton.mp latest, isDigit, digitValue?_digitChar _ last]

/-- Zeros in front are digits too. -/
theorem isDigit_of_mem_digits {least number : Nat} :
    ∀ character ∈ digits least number, isDigit character = true := by
  intro character among
  rcases List.mem_append.mp among with zero | shown
  · rw [(List.mem_replicate.mp zero).2]
    rfl
  · exact isDigit_of_mem_toDigits character shown

/-- The shortest digits of a number spell it. -/
theorem number?_toDigits (number : Nat) : number? (Nat.toDigits 16 number) = some number := by
  induction number using Nat.strongRecOn with
  | ind number ih =>
    rw [Nat.toDigits_eq_if (by decide)]
    split
    · rename_i small
      simp [number?, digitValue?_digitChar number small]
    · rename_i large
      have front := ih (number / 16) (by omega)
      have last := digitValue?_digitChar (number % 16) (Nat.mod_lt _ (by decide))
      rw [number?] at front ⊢
      rw [List.foldlM_append, front]
      simp [last, Nat.div_add_mod']

/-- So do its digits with zeros in front. -/
theorem number?_digits (least number : Nat) : number? (digits least number) = some number := by
  have zeros : ∀ count, number? (List.replicate count '0') = some 0 := by
    intro count
    induction count with
    | zero => rfl
    | succ count ih => exact ih
  have shown := number?_toDigits number
  rw [number?] at shown ⊢
  rw [digits, List.foldlM_append]
  have front := zeros (least - (Nat.toDigits 16 number).length)
  rw [number?] at front
  rw [front]
  exact shown

/-- A word has eight digits when eight are asked for. -/
theorem length_digits_word (word : Nat) (fits : word < UInt32.size) :
    (digits 8 word).length = 8 := by
  have few : (Nat.toDigits 16 word).length ≤ 8 :=
    (Nat.length_toDigits_le_iff (by decide) (by decide)).mpr fits
  rw [digits, List.length_append, List.length_replicate]
  omega

/-- Numbers with the same digits are the same. -/
theorem digits_injective {least first second : Nat}
    (same : digits least first = digits least second) : first = second := by
  have spelled := number?_digits least first
  rw [same, number?_digits] at spelled
  exact (Option.some.inj spelled).symm

end HostChannel.Text.Hexadecimal
