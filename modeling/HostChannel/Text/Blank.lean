/-!
# Blank characters

The blank characters are the twenty-five with the Unicode property White_Space. `trim`
removes them from both ends of a text.
-/

namespace HostChannel.Text.Blank

/-- The ranges of code points with the property White_Space, first and last. -/
def ranges : List (Nat × Nat) :=
  [(0x9, 0xd), (0x20, 0x20), (0x85, 0x85), (0xa0, 0xa0), (0x1680, 0x1680), (0x2000, 0x200a),
    (0x2028, 0x2029), (0x202f, 0x202f), (0x205f, 0x205f), (0x3000, 0x3000)]

/-- A character is blank when its code point is in one of the ranges. -/
def isBlank (character : Char) : Bool :=
  ranges.any fun range => range.1 ≤ character.toNat && character.toNat ≤ range.2

/-- The characters without the blank ones at either end. -/
def trimList (characters : List Char) : List Char :=
  ((characters.dropWhile isBlank).reverse.dropWhile isBlank).reverse

/-- The text without the blank characters at either end. -/
def trim (text : String) : String :=
  String.ofList (trimList text.toList)

end HostChannel.Text.Blank
