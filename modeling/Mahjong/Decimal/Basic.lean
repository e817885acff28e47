import Mahjong.Decimal.Binary

/-!
This module contains decimals, the values of digits before and after a point with an exponent, and
the double that each of them reads as.
-/

namespace Mahjong

/--
The number `significand * 10 ^ exponent`.
-/
structure Decimal where
  significand : Nat
  exponent : Int
deriving DecidableEq

namespace Decimal

/--
The code of the nearest double, or `none` if the decimal is too large for a finite one. Exponents
far outside the range of doubles are decided without computing their power of ten.

The decimal is rounded once, so that it is a theorem that a double is read back from its own digits.
A reader that rounds the digits and then again what it gets by scaling them may end at a neighbour
(9.033333333333333 at 9.033333333333331), and about such a reader the same is an assumption.
-/
def toCode? (d : Decimal) : Option Nat :=
  if d.significand = 0 then
    some 0
  else if 400 < d.exponent then
    none
  else if d.exponent < -(400 + (d.significand.log2 + 1)) then
    some 0
  else
    let code :=
      match d.exponent with
      | .ofNat e => nearestCode (d.significand * Nat.pow 10 e) 1
      | .negSucc e => nearestCode d.significand (Nat.pow 10 (e + 1))
    if code < infinityCode then some code else none

end Decimal

end Mahjong
