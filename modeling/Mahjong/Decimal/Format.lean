import Mahjong.Decimal.Shortest

/-!
This module contains the text of a double. What is common to all formats is the choice of digits;
the record `Format` holds what a format decides for itself.
-/

namespace Mahjong.Decimal

/--
The decisions of a number format.
-/
structure Format where
  /-- Whether a number is written without exponent, by the power of ten of its first digit. -/
  isPositional : Int → Bool
  /-- What follows a whole number that is written without exponent. -/
  wholeEnd : List Char
  tie : Tie

namespace Format

/--
Every digit is written out and whole numbers have no point.
-/
def plain : Format where
  isPositional := fun _ => true
  wholeEnd := []
  tie := .up

/--
Numbers from `0.00001` up to sixteen places before the point are written out, with at least one
digit after it.
-/
def scientific : Format where
  isPositional := fun e => -5 ≤ e ∧ e ≤ 15
  wholeEnd := ['.', '0']
  tie := .toEven

end Format

/--
Digits with the point at its place.
-/
def positional (wholeEnd digits : List Char) (exponent : Int) : List Char :=
  match exponent with
  | .ofNat e => digits ++ List.replicate e '0' ++ wholeEnd
  | .negSucc e =>
    let places := e + 1
    if places < digits.length then
      digits.take (digits.length - places) ++ '.' :: digits.drop (digits.length - places)
    else
      '0' :: '.' :: List.replicate (places - digits.length) '0' ++ digits

/--
Digits with the point after the first of them, and the power of ten that the first stands for.
-/
def withExponent (digits : List Char) (power : Int) : List Char :=
  let mantissa :=
    match digits with
    | d :: e :: rest => d :: '.' :: e :: rest
    | digits => digits
  let sign := if power < 0 then '-' else '+'
  mantissa ++ 'e' :: sign :: Nat.toDigits 10 power.natAbs

/--
The text of a decimal.
-/
def write (format : Format) (d : Decimal) : List Char :=
  let digits := Nat.toDigits 10 d.significand
  let power := d.exponent + digits.length - 1
  if format.isPositional power then
    positional format.wholeEnd digits d.exponent
  else
    withExponent digits power

/--
The text of a finite double. Negative zero keeps its sign.
-/
def writeFinite (format : Format) (x : Float) : List Char :=
  let digits := write format (shortest format.tie (codeOf x))
  if isNegative x then '-' :: digits else digits

/--
The plain text of any double.
-/
def display (x : Float) : String :=
  if isFinite x then String.ofList (writeFinite .plain x)
  else if codeOf x ≠ infinityCode then "NaN"
  else if isNegative x then "-inf"
  else "inf"

end Mahjong.Decimal
