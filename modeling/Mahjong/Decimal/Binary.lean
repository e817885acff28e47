/-!
This module contains the exact values of doubles and correct rounding to them. A double without its
sign is named by its `code`, the lower 63 of its bits. Codes have the order of the values they stand
for, and every finite value is a natural number of `units` of `2 ^ (-1074)`, so all reasoning about
doubles happens in `Nat`.
-/

namespace Mahjong.Decimal

/--
The number of codes that share one binary exponent.
-/
def codesPerExponent : Nat := Nat.pow 2 52

/--
The code of infinity. The codes below it are those of the finite values.
-/
def infinityCode : Nat := 2047 * codesPerExponent

/--
The number of units in one.
-/
def unitsPerOne : Nat := Nat.pow 2 1074

/--
The value of a finite code, in units.
-/
def units (code : Nat) : Nat :=
  let exponent := code / codesPerExponent
  let fraction := code % codesPerExponent
  if exponent = 0 then fraction else (codesPerExponent + fraction) * Nat.pow 2 (exponent - 1)

/--
The code whose value is nearest to `num / den`, a half going to the even code. A value too large for
a double gets `infinityCode` or a code above it.
-/
def nearestCode (num den : Nat) : Nat :=
  let scaled := num * unitsPerOne
  let shift := (scaled / den).log2 - 52
  let step := den * Nat.pow 2 shift
  let mantissa := scaled / step
  let twice := 2 * (scaled % step)
  let up := step < twice ∨ (twice = step ∧ mantissa % 2 = 1)
  shift * codesPerExponent + (if up then mantissa + 1 else mantissa)

/--
The bit that holds the sign of a double.
-/
def signBit : Nat := Nat.pow 2 63

/--
The code of a double.
-/
def codeOf (x : Float) : Nat :=
  x.toBits.toNat % signBit

/--
Whether the sign bit of a double is set. Negative zero has it too.
-/
def isNegative (x : Float) : Bool :=
  signBit ≤ x.toBits.toNat

def isFinite (x : Float) : Bool :=
  codeOf x < infinityCode

/--
The double with a given sign and code.
-/
def ofCode (negative : Bool) (code : Nat) : Float :=
  .ofBits (.ofNat (if negative then signBit + code else code))

end Mahjong.Decimal
