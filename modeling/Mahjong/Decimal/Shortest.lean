import Mahjong.Decimal.Basic

/-!
This module contains the choice of digits for a double: the decimal with the fewest digits that
reads as it, and of several such decimals the one nearest to its value.
-/

namespace Mahjong.Decimal

/--
Which of two neighbouring decimals stands for a value halfway between them.
-/
inductive Tie where
  | up
  | toEven
deriving DecidableEq

/--
The point of the grid `10 ^ exponent` that reads as the double with this code. Of the two points
around its value, the nearer one is taken if both do.
-/
def onGrid? (tie : Tie) (code : Nat) (exponent : Int) : Option Decimal :=
  let num := units code * Nat.pow 10 (-exponent).toNat
  let den := unitsPerOne * Nat.pow 10 exponent.toNat
  let below : Decimal := ⟨num / den, exponent⟩
  let above : Decimal := ⟨num / den + 1, exponent⟩
  match below.toCode? == some code, above.toCode? == some code with
  | false, false => none
  | true, false => some below
  | false, true => some above
  | true, true =>
    match compare (2 * (num % den)) den, tie with
    | .lt, _ => some below
    | .gt, _ => some above
    | .eq, .up => some above
    | .eq, .toEven => some (if below.significand % 2 = 0 then below else above)

/--
Go to finer and finer grids, at most `grids` of them, and stop at the first that has a point.
-/
def coarsest? (tie : Tie) (code : Nat) (exponent : Int) (grids : Nat) : Option Decimal :=
  match grids with
  | 0 => none
  | grids + 1 =>
    match onGrid? tie code exponent with
    | some d => some d
    | none => coarsest? tie code (exponent - 1) grids

/--
A power of ten above the value of a code: `30103 / 100000` is a little more than the logarithm of
two, and one is added for values below one, where a little more is a little too small.
-/
def exponentAbove (code : Nat) : Int :=
  ((units code).log2 + 1 - 1074) * 30103 / 100000 + 1

/--
The exact value of a code: one unit is `5 ^ 1074 / 10 ^ 1074`.
-/
def exact (code : Nat) : Decimal :=
  ⟨units code * Nat.pow 5 1074, -1074⟩

/--
The shortest decimal that reads as the double with a finite code. Seventeen digits always suffice,
so that the search ends before the exact value is needed.
-/
def shortest (tie : Tie) (code : Nat) : Decimal :=
  if code = 0 then
    ⟨0, 0⟩
  else
    (coarsest? tie code (exponentAbove code) 20).getD (exact code)

end Mahjong.Decimal
