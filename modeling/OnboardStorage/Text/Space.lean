/-!
# White space

The characters with the Unicode property of white space, and texts without
those at either end.
-/

namespace OnboardStorage.Text

/-- Whether a character is white space of any script. -/
def isSpace (char : Char) : Bool :=
  let code := char.toNat
  (0x9 ≤ code && code ≤ 0xD) || code = 0x20 || code = 0x85 || code = 0xA0 ||
    code = 0x1680 || (0x2000 ≤ code && code ≤ 0x200A) || code = 0x2028 ||
    code = 0x2029 || code = 0x202F || code = 0x205F || code = 0x3000

/-- A text without the white space at its front. -/
def trimFront (text : List Char) : List Char :=
  text.dropWhile isSpace

/-- A text without the white space at its end. -/
def trimEnd (text : List Char) : List Char :=
  (trimFront text.reverse).reverse

/-- A text without the white space at either end. -/
def trim (text : List Char) : List Char :=
  trimEnd (trimFront text)

end OnboardStorage.Text
