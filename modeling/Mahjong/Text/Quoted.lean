import Mahjong.Text.Hex
import Mahjong.Text.Invisible

/-!
This module contains the quoted form of texts and characters, in which log records and error
messages show them. A quoted text fits on one line and every character of it can be seen.
-/

namespace Mahjong.Text

/--
A character inside quotes. The mark that encloses it and the backslash are escaped, the usual
controls have escapes of their own, and other characters without a picture are shown by number.
-/
def quotedChar (mark c : Char) : List Char :=
  if c = mark ∨ c = '\\' then ['\\', c]
  else if c = '\n' then ['\\', 'n']
  else if c = '\r' then ['\\', 'r']
  else if c = '\t' then ['\\', 't']
  else if c.toNat = 0 then ['\\', '0']
  else if isInvisible c then ['\\', 'u', '{'] ++ hexDigits c.toNat ++ ['}']
  else [c]

/--
A text in double quotes.
-/
def quoted (text : String) : String :=
  String.ofList ('"' :: text.toList.flatMap (quotedChar '"') ++ ['"'])

/--
One character in single quotes.
-/
def quotedSingle (c : Char) : String :=
  String.ofList ('\'' :: quotedChar '\'' c ++ ['\''])

end Mahjong.Text
