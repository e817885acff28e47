/-!
This module contains what a hand is drawn from: each `Instruction` places one tile in some
`Orientation` or leaves a gap.
-/

namespace Mahjong

/--
How a tile lies on the table.
-/
inductive Orientation where
  | upright
  | sideways
  /-- On its side, above the sideways tile drawn just before it. -/
  | stacked
deriving DecidableEq

/--
One step of drawing a hand. A tile is named by its key, the name under which a theme holds its
design.
-/
inductive Instruction where
  | tile (key : String) (orientation : Orientation)
  | gap
deriving DecidableEq

end Mahjong
