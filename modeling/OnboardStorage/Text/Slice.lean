/-!
# Parts of a text by their bytes

Positions in a text are counted in bytes of its UTF-8 form.  A part is cut out
between two positions, and only where both lie between characters.
-/

namespace OnboardStorage.Text

/-- Bytes of a text. -/
def width (text : List Char) : Nat :=
  text.foldr (fun char bytes => char.utf8Size + bytes) 0

/-- The text behind its first bytes, unless they end inside a character. -/
def dropBytes? : Nat → List Char → Option (List Char)
  | 0, text => some text
  | _ + 1, [] => none
  | bytes + 1, char :: rest =>
      if char.utf8Size ≤ bytes + 1 then dropBytes? (bytes + 1 - char.utf8Size) rest
      else none

/-- The first bytes of a text, unless they end inside a character. -/
def takeBytes? : Nat → List Char → Option (List Char)
  | 0, _ => some []
  | _ + 1, [] => none
  | bytes + 1, char :: rest =>
      if char.utf8Size ≤ bytes + 1 then
        (takeBytes? (bytes + 1 - char.utf8Size) rest).map (char :: ·)
      else none

/-- The part of a text between two positions. -/
def slice? (start stop : Nat) (text : List Char) : Option (List Char) :=
  (dropBytes? start text).bind (takeBytes? (stop - start))

end OnboardStorage.Text
