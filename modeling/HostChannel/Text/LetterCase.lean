/-!
# Letter case

Names are compared without regard to the case of the letters from A to Z; every other
character is compared as it is.
-/

namespace HostChannel.Text.LetterCase

/-- The text with the letters from A to Z in lower case. -/
def lower (text : String) : String :=
  String.ofList (text.toList.map Char.toLower)

/-- Two texts are equal when the case of the letters from A to Z is disregarded. -/
def sameIgnoringCase (first second : String) : Bool :=
  lower first == lower second

end HostChannel.Text.LetterCase
