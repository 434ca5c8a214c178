/-!
# Text cut to a width

A message has room for so many bytes of UTF-8 of a name, and shows as many of its characters as fit
(`clip`). A character that fits only in part shows as the replacement character, so a name that is
cut inside a character can be told from one that is cut between two.
-/

namespace CivilTime.Text

/-- The character that stands for one of which only some bytes are there. -/
def replacementCharacter : Char := '\uFFFD'

/-- The characters that fit into a number of bytes, and the replacement character if the next one
fits in part. -/
def clipped : Nat → List Char → List Char
  | _, [] => []
  | room, c :: rest =>
    if c.utf8Size ≤ room then c :: clipped (room - c.utf8Size) rest
    else if room = 0 then []
    else [replacementCharacter]

/-- A text cut to a number of bytes. -/
def clip (room : Nat) (text : String) : String :=
  String.ofList (clipped room text.toList)

end CivilTime.Text
