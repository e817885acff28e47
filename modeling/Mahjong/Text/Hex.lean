/-!
This module contains numbers and bytes in hexadecimal digits, which are written in lower case.
-/

namespace Mahjong.Text

/--
A number in as many hexadecimal digits as it needs.
-/
def hexDigits (n : Nat) : List Char :=
  Nat.toDigits 16 n

/--
The last `width` hexadecimal digits of a number, with zeros in front if it has fewer.
-/
def hexPadded : (width n : Nat) → List Char
  | 0, _ => []
  | width + 1, n => hexPadded width (n / 16) ++ [(n % 16).digitChar]

/--
The value of a hexadecimal digit of either case.
-/
def hexValue? (c : Char) : Option Nat :=
  if c.isDigit then some (c.toNat - '0'.toNat)
  else if 'a' ≤ c ∧ c ≤ 'f' then some (c.toNat - 'a'.toNat + 10)
  else if 'A' ≤ c ∧ c ≤ 'F' then some (c.toNat - 'A'.toNat + 10)
  else none

/--
Bytes as two digits each.
-/
def hexBytes (bytes : List UInt8) : String :=
  String.ofList (bytes.flatMap fun b => hexPadded 2 b.toNat)

end Mahjong.Text
