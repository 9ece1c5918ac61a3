import HostChannel.Text.Blank
import HostChannel.Text.LetterCase
import Mathlib.Data.List.Forall2
import Mathlib.Data.List.TakeWhile

/-!
# Names within texts

Trimming leaves what stands between the blank characters at the front and those at the back, and a
text has only one such core. Two texts agree up to the case of letters when their characters do one
by one; only the letters from A to Z have a case.
-/

namespace HostChannel.Text

namespace Blank

/-- The core of a text stands between blank characters, and has none at either end. -/
structure IsCore (text core : List Char) : Prop where
  /-- What stands around the core is blank. -/
  between : ∃ front back, text = front ++ core ++ back ∧
    (∀ character ∈ front, isBlank character = true) ∧
    (∀ character ∈ back, isBlank character = true)
  /-- The first character of the core is not blank. -/
  first : ∀ character ∈ core.head?, isBlank character = false
  /-- Nor is the last. -/
  last : ∀ character ∈ core.getLast?, isBlank character = false

/-- Dropping blank characters from the front drops those in front of a character that is not. -/
theorem dropWhile_isBlank_append {front rest : List Char}
    (blank : ∀ character ∈ front, isBlank character = true)
    (first : ∀ character ∈ rest.head?, isBlank character = false) :
    (front ++ rest).dropWhile isBlank = rest := by
  rw [List.dropWhile_append_of_pos blank]
  cases rest with
  | nil => rfl
  | cons character others =>
    have solid : isBlank character = false := first character rfl
    rw [List.dropWhile_cons_of_neg (by simp [solid])]

/-- Trimming finds the core. -/
theorem trimList_of_isCore {text core : List Char} (found : IsCore text core) :
    trimList text = core := by
  obtain ⟨front, back, rfl, before, behind⟩ := found.between
  have reversed : ∀ character ∈ back.reverse, isBlank character = true := by
    intro character listed
    exact behind character (List.mem_reverse.mp listed)
  have last : ∀ character ∈ core.reverse.head?, isBlank character = false := by
    rw [List.head?_reverse]
    exact found.last
  cases core with
  | nil =>
    -- Nothing but blank characters: the front takes those at the back with it.
    have all : ∀ character ∈ front ++ back, isBlank character = true := by
      intro character listed
      rcases List.mem_append.mp listed with early | late
      · exact before character early
      · exact behind character late
    have none : ((front ++ back) ++ []).dropWhile isBlank = [] :=
      dropWhile_isBlank_append all (by simp)
    rw [List.append_nil] at none
    rw [trimList, List.append_nil, none]
    rfl
  | cons character others =>
    have start : (front ++ (character :: others ++ back)).dropWhile isBlank =
        character :: others ++ back := dropWhile_isBlank_append before found.first
    rw [trimList, List.append_assoc, start, List.reverse_append,
      dropWhile_isBlank_append reversed last, List.reverse_reverse]

/-- What dropping blank characters leaves does not start with one. -/
theorem head?_dropWhile_isBlank (text : List Char) :
    ∀ character ∈ (text.dropWhile isBlank).head?, isBlank character = false := by
  intro character listed
  have solid := List.head?_dropWhile_not isBlank text
  rw [Option.mem_def.mp listed] at solid
  exact solid

/-- Every text has a core. -/
theorem isCore_trimList (text : List Char) : IsCore text (trimList text) := by
  have front := List.takeWhile_append_dropWhile (p := isBlank) (l := text)
  have back := List.takeWhile_append_dropWhile (p := isBlank)
    (l := (text.dropWhile isBlank).reverse)
  have rest : text.dropWhile isBlank =
      trimList text ++ ((text.dropWhile isBlank).reverse.takeWhile isBlank).reverse := by
    rw [trimList, ← List.reverse_append, back, List.reverse_reverse]
  refine ⟨⟨text.takeWhile isBlank, ((text.dropWhile isBlank).reverse.takeWhile isBlank).reverse,
    ?_, ?_, ?_⟩, ?_, ?_⟩
  · rw [List.append_assoc, ← rest, front]
  · exact fun character => List.mem_takeWhile_imp
  · exact fun character listed => List.mem_takeWhile_imp (List.mem_reverse.mp listed)
  · intro character listed
    have solid := head?_dropWhile_isBlank text
    rw [rest, List.head?_append, Option.mem_def.mp listed] at solid
    exact solid character rfl
  · rw [trimList, List.getLast?_reverse]
    exact head?_dropWhile_isBlank _

/-- The core of a text is what trimming leaves. -/
theorem isCore_iff {text core : List Char} : IsCore text core ↔ trimList text = core := by
  constructor
  · exact trimList_of_isCore
  · rintro rfl
    exact isCore_trimList text

end Blank

namespace LetterCase

/-- The character is one of the letters from A to Z, and the other the same in lower case. -/
def Lowers (capital small : Char) : Prop :=
  65 ≤ capital.toNat ∧ capital.toNat ≤ 90 ∧ small.toNat = capital.toNat + 32

/-- Two characters are the same up to the case of the letters from A to Z. -/
def SameLetter (first second : Char) : Prop :=
  first = second ∨ Lowers first second ∨ Lowers second first

/-- Two texts have the same characters up to the case of the letters from A to Z. -/
def SameLetters (first second : List Char) : Prop :=
  List.Forall₂ SameLetter first second

/-- The lower case of a letter from A to Z comes thirty-two behind it; no other character has a
lower case. -/
theorem toNat_toLower (character : Char) :
    character.toLower.toNat =
      if 65 ≤ character.toNat ∧ character.toNat ≤ 90 then character.toNat + 32
      else character.toNat := by
  have capital : (character.val ≥ 'A'.val ∧ character.val ≤ 'Z'.val) ↔
      65 ≤ character.toNat ∧ character.toNat ≤ 90 := by
    rw [ge_iff_le, UInt32.le_iff_toNat_le, UInt32.le_iff_toNat_le]
    rfl
  unfold Char.toLower
  by_cases letter : 65 ≤ character.toNat ∧ character.toNat ≤ 90
  · rw [dif_pos (capital.mpr letter), if_pos letter]
    change (character.val + 32).toNat = character.toNat + 32
    rw [UInt32.toNat_add]
    change (character.toNat + 32) % 2 ^ 32 = character.toNat + 32
    exact Nat.mod_eq_of_lt (by omega)
  · rw [dif_neg (capital.not.mpr letter), if_neg letter]

/-- Characters have one lower case when they are the same up to their case. -/
theorem toLower_eq_toLower_iff (first second : Char) :
    first.toLower = second.toLower ↔ SameLetter first second := by
  rw [SameLetter, Lowers, Lowers, ← Char.toNat_inj, ← Char.toNat_inj, toNat_toLower,
    toNat_toLower]
  split <;> split <;> omega

/-- Texts are compared character by character. -/
theorem sameIgnoringCase_iff (first second : String) :
    sameIgnoringCase first second = true ↔ SameLetters first.toList second.toList := by
  rw [sameIgnoringCase, beq_iff_eq, lower, lower, String.ofList_inj, SameLetters,
    ← List.forall₂_eq_eq_eq, List.forall₂_map_left_iff, List.forall₂_map_right_iff]
  simp only [toLower_eq_toLower_iff]

/-- A text in lower case agrees with the same texts. -/
theorem sameIgnoringCase_lower (first second : String) :
    sameIgnoringCase (lower first) second = sameIgnoringCase first second := by
  have twice : ∀ character : Char, character.toLower.toLower = character.toLower := by
    intro character
    rw [← Char.toNat_inj, toNat_toLower]
    exact if_neg (by grind [toNat_toLower])
  rw [sameIgnoringCase, sameIgnoringCase, lower, lower, String.toList_ofList, List.map_map]
  simp only [Function.comp_def, twice]

end LetterCase

end HostChannel.Text
