/-!
This module contains the arithmetic that a layout needs. It is a class, so that the same layout can
be drawn in doubles and reasoned about in exact rational numbers.
-/

namespace Mahjong

/--
Numbers that can be lengths.
-/
class Length (α : Type) extends Add α, Sub α, Neg α where
  zero : α
  larger : α → α → α

/--
The larger of two doubles. If one of them is not a number, it is the other one, and of two equal
ones it is the second, which shows when these are zeros of different sign.
-/
def largerFloat (a b : Float) : Float :=
  if a.isNaN ∨ a ≤ b then b else a

instance : Length Float where
  zero := 0
  larger := largerFloat

instance : Length Rat where
  toAdd := ⟨Rat.add⟩
  toSub := ⟨Rat.sub⟩
  toNeg := ⟨Rat.neg⟩
  zero := Rat.ofInt 0
  larger a b := if Rat.blt a b then b else a

end Mahjong
