/-!
This module contains blanks, the characters that Unicode counts as white space, and the removal of
blanks from both ends of a text.
-/

namespace Mahjong.Text

/--
Whether a character is white space.
-/
def isBlank (c : Char) : Bool :=
  let n := c.toNat
  (9 ≤ n ∧ n ≤ 13) ∨ n = 0x20 ∨ n = 0x85 ∨ n = 0xA0 ∨ n = 0x1680 ∨ (0x2000 ≤ n ∧ n ≤ 0x200A) ∨
    n = 0x2028 ∨ n = 0x2029 ∨ n = 0x202F ∨ n = 0x205F ∨ n = 0x3000

/--
A row of characters without the blanks at its ends.
-/
def trimBlanks (text : List Char) : List Char :=
  ((text.dropWhile isBlank).reverse.dropWhile isBlank).reverse

/--
A text without the blanks at its ends.
-/
def trim (text : String) : String :=
  String.ofList (trimBlanks text.toList)

end Mahjong.Text
