import Mahjong.Decimal.Basic
import Mahjong.Json.Value

/-!
This module contains the numbers of JSON texts: how their characters follow each other, and the
values that they stand for.
-/

namespace Mahjong.Json

/--
A number as it is written.
-/
structure Numeral where
  negative : Bool
  magnitude : Decimal
  /-- Whether it has neither a fraction nor an exponent. -/
  isInteger : Bool
deriving DecidableEq

namespace Numeral

/--
The nearest double, or `none` if there is no finite one. JSON leaves the rounding open: common
readers round twice and take a neighbour for some numerals, as `Decimal.toCode?` tells. That a finite
double is read back from what is written for it is what every use of this function rests on.
-/
def toFloat? (n : Numeral) : Option Float :=
  n.magnitude.toCode?.map (Decimal.ofCode n.negative)

/--
The integer that a numeral stands for. It has to fit into 64 bits, with a sign if it is negative.
There is no negative zero among the integers.
-/
def toInt? (n : Numeral) : Option Int :=
  let magnitude := n.magnitude.significand
  if !n.isInteger then
    none
  else if n.negative then
    if 0 < magnitude ∧ magnitude ≤ 0x8000000000000000 then some (-magnitude) else none
  else
    if magnitude < 0x10000000000000000 then some magnitude else none

/--
The value of a numeral, which is a float if it is no integer.
-/
def toValue? (n : Numeral) : Option Value :=
  match n.toInt? with
  | some i => some (.int i)
  | none => n.toFloat?.map .float

/--
Which part of a numeral the last character belongs to.
-/
inductive Phase where
  | sign
  | zero
  | whole
  | point
  | fraction
  | exponentMark
  | exponentSign
  | exponent
deriving DecidableEq

/--
A numeral of which some characters have been read.
-/
structure Scan where
  phase : Phase
  negative : Bool := false
  significand : Nat := 0
  /-- The number of digits after the point. -/
  places : Nat := 0
  exponentNegative : Bool := false
  exponent : Nat := 0

namespace Scan

def digitValue (c : Char) : Nat :=
  c.toNat - '0'.toNat

/--
Begin the whole part of a numeral. A zero at its front is all of it.
-/
def beginWhole? (scan : Scan) (c : Char) : Option Scan :=
  if c = '0' then some { scan with phase := .zero }
  else if c.isDigit then some { scan with phase := .whole, significand := digitValue c }
  else none

/--
Begin a numeral.
-/
def begin? (c : Char) : Option Scan :=
  if c = '-' then some { phase := .sign, negative := true }
  else beginWhole? { phase := .sign } c

def beginExponent? (scan : Scan) (c : Char) : Option Scan :=
  if c = 'e' ∨ c = 'E' then some { scan with phase := .exponentMark } else none

def beginFraction? (scan : Scan) (c : Char) : Option Scan :=
  if c = '.' then some { scan with phase := .point } else scan.beginExponent? c

def addWholeDigit? (scan : Scan) (c : Char) : Option Scan :=
  if c.isDigit then
    some { scan with phase := .whole, significand := 10 * scan.significand + digitValue c }
  else none

def addFractionDigit? (scan : Scan) (c : Char) : Option Scan :=
  if c.isDigit then
    some { scan with
      phase := .fraction
      significand := 10 * scan.significand + digitValue c
      places := scan.places + 1 }
  else none

def addExponentDigit? (scan : Scan) (c : Char) : Option Scan :=
  if c.isDigit then
    some { scan with phase := .exponent, exponent := 10 * scan.exponent + digitValue c }
  else none

/--
Read one more character, or `none` if it does not continue the numeral.
-/
def next? (scan : Scan) (c : Char) : Option Scan :=
  match scan.phase with
  | .sign => scan.beginWhole? c
  | .zero => scan.beginFraction? c
  | .whole => scan.addWholeDigit? c <|> scan.beginFraction? c
  | .point => scan.addFractionDigit? c
  | .fraction => scan.addFractionDigit? c <|> scan.beginExponent? c
  | .exponentMark =>
    if c = '+' then some { scan with phase := .exponentSign }
    else if c = '-' then some { scan with phase := .exponentSign, exponentNegative := true }
    else scan.addExponentDigit? c
  | .exponentSign => scan.addExponentDigit? c
  | .exponent => scan.addExponentDigit? c

/--
The numeral read so far, or `none` if it cannot end here.
-/
def finish? (scan : Scan) : Option Numeral :=
  let exponent : Int := if scan.exponentNegative then -scan.exponent else scan.exponent
  let magnitude : Decimal := ⟨scan.significand, exponent - scan.places⟩
  match scan.phase with
  | .zero | .whole => some ⟨scan.negative, magnitude, true⟩
  | .fraction | .exponent => some ⟨scan.negative, magnitude, false⟩
  | .sign | .point | .exponentMark | .exponentSign => none

end Scan

end Numeral

end Mahjong.Json
