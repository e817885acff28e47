import Mathlib
import Mahjong.Proofs.Layout.Drawing

/-!
This module contains the places that tiles cover on the canvas, in exact numbers, and the proof that
they lie on it and do not overlap.
-/

namespace Mahjong

/--
A part of the canvas, whose vertical axis points down.
-/
structure Box where
  left : Rat
  right : Rat
  top : Rat
  bottom : Rat
deriving DecidableEq

def Box.Interior (box : Box) (x y : Rat) : Prop :=
  box.left < x ∧ x < box.right ∧ box.top < y ∧ y < box.bottom

/--
What an image covers. The rotation takes the point `(x, y)` to `(y, -x)`.
-/
def Placement.box (d : Dimensions Rat) (place : Placement Rat) : Box :=
  if place.rotated then
    ⟨place.y, place.y + d.tileHeight, -(place.x + d.tileWidth), -place.x⟩
  else
    ⟨place.x, place.x + d.tileWidth, place.y, place.y + d.tileHeight⟩

theorem Placement.interior_box_iff (d : Dimensions Rat) (place : Placement Rat) (x y : Rat)
    : (place.box d).Interior x y
        ↔
      ∃ x' y',
        place.x < x' ∧ x' < place.x + d.tileWidth ∧
        place.y < y' ∧ y' < place.y + d.tileHeight ∧
        (x, y) = if place.rotated then (y', -x') else (x', y') := by
  unfold box Box.Interior
  split
  . constructor
    . rintro ⟨hleft, hright, htop, hbottom⟩
      dsimp only at *
      refine ⟨-y, x, ?_, ?_, hleft, hright, ?_⟩
      . linarith
      . linarith
      . rw [neg_neg]
    . rintro ⟨x', y', hx1, hx2, hy1, hy2, hpoint⟩
      rcases Prod.mk.inj hpoint with ⟨hx, hy⟩
      subst hx hy
      refine ⟨hy1, hy2, ?_, ?_⟩
      . exact neg_lt_neg hx2
      . exact neg_lt_neg hx1
  . constructor
    . rintro ⟨hleft, hright, htop, hbottom⟩
      exact ⟨x, y, hleft, hright, htop, hbottom, rfl⟩
    . rintro ⟨x', y', hx1, hx2, hy1, hy2, hpoint⟩
      rcases Prod.mk.inj hpoint with ⟨hx, hy⟩
      subst hx hy
      exact ⟨hx1, hx2, hy1, hy2⟩

/--
Every stacked tile lies above a sideways tile drawn just before it.
-/
def StacksOnSideways (instructions : List Instruction) : Prop :=
  ∀ idx key, instructions[idx]? = some (.tile key .stacked) →
    ∃ below key', idx = below + 1 ∧ instructions[below]? = some (.tile key' .sideways)

namespace Dimensions

structure IsNonneg (d : Dimensions Rat) : Prop where
  tileWidth : 0 ≤ d.tileWidth
  tileHeight : 0 ≤ d.tileHeight
  tileGap : 0 ≤ d.tileGap
  spaceWidth : 0 ≤ d.spaceWidth

/--
Where the cursor stands before an instruction.
-/
def cursorAt (d : Dimensions Rat) (instructions : List Instruction) (idx : Nat) : Rat :=
  d.advanceAll Length.zero (instructions.take idx)

/--
What the tile of an instruction covers. A gap covers nothing.
-/
def boxAt? (d : Dimensions Rat) (instructions : List Instruction) (idx : Nat) : Option Box :=
  match instructions[idx]? with
  | some (.tile _ orientation) => some ((d.place (d.cursorAt instructions idx) orientation).box d)
  | _ => none

section

variable (d : Dimensions Rat)

theorem le_canvasHeight
    : d.tileHeight ≤ d.canvasHeight ∧ d.tileWidth + d.tileWidth + d.tileGap ≤ d.canvasHeight := by
  have hlarger : ∀ a b : Rat, a ≤ Length.larger a b ∧ b ≤ Length.larger a b := by
    intro a b
    have hdef : Length.larger a b = if a < b then b else a := by
      rfl
    rw [hdef]
    split
    . next hlt => exact ⟨hlt.le, le_refl b⟩
    . next hlt => exact ⟨le_refl a, not_lt.1 hlt⟩
  apply hlarger

theorem box_place (cursor : Rat) (orientation : Orientation)
    : (d.place cursor orientation).box d
        =
      match orientation with
      | .upright =>
        ⟨cursor, cursor + d.tileWidth, d.canvasHeight - d.tileHeight, d.canvasHeight⟩
      | .sideways =>
        ⟨cursor, cursor + d.tileHeight, d.canvasHeight - d.tileWidth, d.canvasHeight⟩
      | .stacked =>
        ⟨cursor - d.tileGap - d.tileHeight, cursor - d.tileGap,
          d.canvasHeight - d.tileWidth - d.tileGap - d.tileWidth,
          d.canvasHeight - d.tileWidth - d.tileGap⟩ := by
  unfold place Placement.box
  cases orientation with
  | upright =>
    simp only [Bool.false_eq_true, ↓reduceIte, Box.mk.injEq]
    refine ⟨trivial, trivial, trivial, ?_⟩
    linarith
  | sideways =>
    simp only [↓reduceIte, Box.mk.injEq]
    refine ⟨trivial, trivial, ?_, ?_⟩
    . linarith
    . linarith
  | stacked =>
    simp only [↓reduceIte, Box.mk.injEq]
    refine ⟨?_, ?_, ?_, ?_⟩
    . linarith
    . linarith
    . linarith
    . linarith

theorem advanceAll_append (cursor : Rat) (instructions others : List Instruction)
    : d.advanceAll cursor (instructions ++ others)
        =
      d.advanceAll (d.advanceAll cursor instructions) others := by
  unfold advanceAll
  rw [List.foldl_append]

theorem cursorAt_succ {instructions : List Instruction} {idx : Nat} {i : Instruction}
    (h : instructions[idx]? = some i)
    : d.cursorAt instructions (idx + 1) = d.cursorAt instructions idx + d.advance i := by
  unfold cursorAt
  rw [List.take_add_one, h, advanceAll_append]
  rfl

theorem width_measure (instructions : List Instruction)
    : (d.measure instructions).width = d.cursorAt instructions instructions.length := by
  have hzero : -(Length.zero : Rat) = Length.zero := by
    rfl
  unfold measure cursorAt
  rw [List.take_length, hzero]

theorem boxAt?_eq_some {instructions : List Instruction} {idx : Nat} {box : Box}
    (h : d.boxAt? instructions idx = some box)
    : ∃ key orientation,
        instructions[idx]? = some (.tile key orientation) ∧
        box = (d.place (d.cursorAt instructions idx) orientation).box d := by
  unfold boxAt? at h
  split at h
  . next key orientation htile => exact ⟨key, orientation, htile, (Option.some.inj h).symm⟩
  . contradiction

theorem boxAt?_of_tile {instructions : List Instruction} {idx : Nat} {key : String}
    {orientation : Orientation} (h : instructions[idx]? = some (.tile key orientation))
    : d.boxAt? instructions idx
        =
      some ((d.place (d.cursorAt instructions idx) orientation).box d) := by
  unfold boxAt?
  rw [h]

end

section

variable {d : Dimensions Rat} (hd : d.IsNonneg)
include hd

theorem advance_nonneg (i : Instruction) : 0 ≤ d.advance i := by
  have := hd.tileWidth
  have := hd.tileHeight
  have := hd.tileGap
  unfold advance
  split
  . linarith
  . linarith
  . apply le_refl
  . apply hd.spaceWidth

theorem le_advanceAll (cursor : Rat) (instructions : List Instruction)
    : cursor ≤ d.advanceAll cursor instructions := by
  induction instructions generalizing cursor with
  | nil => apply le_refl
  | cons i rest ih =>
    have hstep : cursor ≤ cursor + d.advance i := by
      have := advance_nonneg hd i
      linarith
    apply le_trans hstep
    apply ih

theorem cursorAt_mono (instructions : List Instruction) {idx1 idx2 : Nat} (h : idx1 ≤ idx2)
    : d.cursorAt instructions idx1 ≤ d.cursorAt instructions idx2 := by
  have htake := List.take_append_drop idx1 (instructions.take idx2)
  rw [List.take_take, Nat.min_eq_left h] at htake
  unfold cursorAt
  rw [← htake, advanceAll_append]
  apply le_advanceAll hd

theorem cursorAt_nonneg (instructions : List Instruction) (idx : Nat)
    : 0 ≤ d.cursorAt instructions idx := by
  exact cursorAt_mono hd instructions (Nat.zero_le idx)

theorem cursorAt_le_width {instructions : List Instruction} {idx : Nat}
    (h : idx ≤ instructions.length)
    : d.cursorAt instructions idx ≤ (d.measure instructions).width := by
  rw [width_measure]
  exact cursorAt_mono hd instructions h

theorem vertical_box (cursor : Rat) (orientation : Orientation)
    : 0 ≤ ((d.place cursor orientation).box d).top ∧
        ((d.place cursor orientation).box d).bottom ≤ d.canvasHeight := by
  have := hd.tileWidth
  have := hd.tileGap
  rcases le_canvasHeight d with ⟨hupright, hsideways⟩
  rw [box_place]
  cases orientation with
  | upright => exact ⟨sub_nonneg.2 hupright, le_refl _⟩
  | sideways =>
    refine ⟨?_, le_refl _⟩
    dsimp only
    linarith
  | stacked =>
    dsimp only
    constructor
    . linarith
    . linarith

/--
A tile that is not stacked lies between the cursor before it and the cursor after it.
-/
theorem horizontal_box {instructions : List Instruction} {idx : Nat} {key : String}
    {orientation : Orientation} (h : instructions[idx]? = some (.tile key orientation))
    (hstacked : orientation ≠ .stacked)
    : let box := (d.place (d.cursorAt instructions idx) orientation).box d
      box.left = d.cursorAt instructions idx ∧
      box.right ≤ d.cursorAt instructions (idx + 1) := by
  have hgap := hd.tileGap
  have hadvance : d.advance (.tile key .upright) = d.tileWidth + d.tileGap ∧
      d.advance (.tile key .sideways) = d.tileHeight + d.tileGap := by
    exact ⟨rfl, rfl⟩
  rw [cursorAt_succ d h, box_place]
  cases orientation with
  | upright =>
    refine ⟨rfl, ?_⟩
    dsimp only
    linarith
  | sideways =>
    refine ⟨rfl, ?_⟩
    dsimp only
    linarith
  | stacked => contradiction

omit hd in
/--
A stacked tile lies above the sideways tile before it, as far as there is a gap between tiles.
-/
theorem stacked_box {instructions : List Instruction} {below : Nat} {key : String}
    (h : instructions[below]? = some (.tile key .sideways))
    : let lower := (d.place (d.cursorAt instructions below) .sideways).box d
      let upper := (d.place (d.cursorAt instructions (below + 1)) .stacked).box d
      upper.left = lower.left ∧ upper.right = lower.right ∧
      upper.bottom + d.tileGap = lower.top := by
  have hadvance : d.advance (.tile key .sideways) = d.tileHeight + d.tileGap := by
    rfl
  dsimp only
  rw [cursorAt_succ d h, hadvance, box_place, box_place]
  dsimp only
  refine ⟨?_, ?_, ?_⟩
  . linarith
  . linarith
  . linarith

/--
Every tile takes the room of one instruction, either its own or the one that it is stacked on.
-/
theorem exists_column {instructions : List Instruction} (hstacks : StacksOnSideways instructions)
    {idx : Nat} {box : Box} (h : d.boxAt? instructions idx = some box)
    : ∃ column,
        box.left = d.cursorAt instructions column ∧
        box.right ≤ d.cursorAt instructions (column + 1) ∧
        (column = idx ∨
          idx = column + 1 ∧
          ∃ lower, d.boxAt? instructions column = some lower ∧
            box.bottom + d.tileGap = lower.top) := by
  rcases boxAt?_eq_some d h with ⟨key, orientation, htile, hbox⟩
  subst hbox
  by_cases horientation : orientation = .stacked
  . subst horientation
    rcases hstacks idx key htile with ⟨below, key', hidx, hsideways⟩
    subst hidx
    rcases stacked_box hsideways with ⟨hleft, hright, hbottom⟩
    rcases horizontal_box hd hsideways (by decide) with ⟨hlower, hupper⟩
    refine ⟨below, ?_, ?_, .inr ⟨rfl, _, boxAt?_of_tile d hsideways, hbottom⟩⟩
    . rw [hleft, hlower]
    . rw [hright]
      exact hupper
  . rcases horizontal_box hd htile horientation with ⟨hleft, hright⟩
    exact ⟨idx, hleft, hright, .inl rfl⟩

theorem right_le_cursorAt {instructions : List Instruction}
    (hstacks : StacksOnSideways instructions) {idx : Nat} {box : Box}
    (h : d.boxAt? instructions idx = some box)
    : box.right ≤ d.cursorAt instructions (idx + 1) := by
  rcases exists_column hd hstacks h with ⟨column, _, hright, hcolumn⟩
  apply le_trans hright
  apply cursorAt_mono hd
  omega

theorem left_nonneg {instructions : List Instruction} (hstacks : StacksOnSideways instructions)
    {idx : Nat} {box : Box} (h : d.boxAt? instructions idx = some box)
    : 0 ≤ box.left := by
  rcases exists_column hd hstacks h with ⟨column, hleft, _, _⟩
  rw [hleft]
  apply cursorAt_nonneg hd

/--
Of two tiles the later one lies to the right of the other or is stacked on it.
-/
theorem apart_of_lt {instructions : List Instruction} (hstacks : StacksOnSideways instructions)
    {idx1 idx2 : Nat} (hlt : idx1 < idx2) {box1 box2 : Box}
    (h1 : d.boxAt? instructions idx1 = some box1) (h2 : d.boxAt? instructions idx2 = some box2)
    : box1.right ≤ box2.left ∨ box2.bottom ≤ box1.top := by
  have hgap := hd.tileGap
  have hright := right_le_cursorAt hd hstacks h1
  rcases exists_column hd hstacks h2 with ⟨column, hleft, _, hcolumn⟩
  rcases Nat.lt_or_ge idx1 column with hbefore | hbefore
  . left
    rw [hleft]
    apply le_trans hright
    apply cursorAt_mono hd
    omega
  . right
    -- Only the tile that the later one is stacked on stands between its column and itself.
    rcases hcolumn with hcolumn | ⟨hcolumn, lower, hlower, hbottom⟩
    . omega
    . have heq : idx1 = column := by
        omega
      rw [heq, hlower, Option.some.injEq] at h1
      rw [← h1]
      linarith

theorem not_interior_of_lt {instructions : List Instruction}
    (hstacks : StacksOnSideways instructions) {idx1 idx2 : Nat} (hlt : idx1 < idx2)
    {box1 box2 : Box} (h1 : d.boxAt? instructions idx1 = some box1)
    (h2 : d.boxAt? instructions idx2 = some box2) (x y : Rat)
    : ¬(box1.Interior x y ∧ box2.Interior x y) := by
  rintro ⟨⟨_, hright1, htop1, _⟩, ⟨hleft2, _, _, hbottom2⟩⟩
  rcases apart_of_lt hd hstacks hlt h1 h2 with hapart | hapart
  . linarith
  . linarith

end

end Dimensions

namespace Style

variable (style : Style Rat)

/--
What the images of a row of instructions cover, in the order of drawing: each tile has two images at
the same place.
-/
theorem map_box_images (instructions : List Instruction)
    : (style.draw instructions).images.map (·.placement.box style.dimensions)
        =
      (List.range instructions.length).flatMap fun idx =>
        (style.dimensions.boxAt? instructions idx).toList.flatMap fun box => [box, box] := by
  have htake : ∀ n ≤ instructions.length,
      (style.images Length.zero (instructions.take n)).map (·.placement.box style.dimensions)
        =
      (List.range n).flatMap fun idx =>
        (style.dimensions.boxAt? instructions idx).toList.flatMap fun box => [box, box] := by
    intro n hn
    induction n with
    | zero => rfl
    | succ n ih =>
      have hi : instructions[n]? = some instructions[n] := by
        simp
      rw [List.take_add_one, images_append, List.map_append, ih (by omega), List.range_succ,
        List.flatMap_append, List.flatMap_singleton]
      congr 1
      unfold Dimensions.boxAt?
      rw [hi]
      cases instructions[n] with
      | tile key orientation => rfl
      | gap => rfl
  have hall := htake instructions.length (le_refl _)
  rw [List.take_length] at hall
  exact hall

/--
Tiles stay on the canvas, and a stacked tile lies right above the sideways tile that it follows. If
all stacked tiles do so, no two tiles overlap.
-/
theorem boxes_fit (instructions : List Instruction) (hd : style.dimensions.IsNonneg)
    : let d := style.dimensions
      let width := (d.measure instructions).width
      ((style.draw instructions).images.map (·.placement.box d)
          =
        (List.range instructions.length).flatMap fun idx =>
          (d.boxAt? instructions idx).toList.flatMap fun box => [box, box]) ∧
      (∀ idx box, d.boxAt? instructions idx = some box →
        0 ≤ box.top ∧ box.bottom ≤ d.canvasHeight) ∧
      (∀ idx key orientation box, instructions[idx]? = some (.tile key orientation) →
        orientation ≠ .stacked → d.boxAt? instructions idx = some box →
        0 ≤ box.left ∧ box.right ≤ width) ∧
      (∀ idx key key' lower upper, instructions[idx]? = some (.tile key .sideways) →
        instructions[idx + 1]? = some (.tile key' .stacked) →
        d.boxAt? instructions idx = some lower → d.boxAt? instructions (idx + 1) = some upper →
        upper.left = lower.left ∧ upper.right = lower.right ∧
        upper.bottom + d.tileGap = lower.top) ∧
      (StacksOnSideways instructions →
        (∀ idx1 idx2 box1 box2, idx1 ≠ idx2 → d.boxAt? instructions idx1 = some box1 →
          d.boxAt? instructions idx2 = some box2 →
          ∀ x y, ¬(box1.Interior x y ∧ box2.Interior x y)) ∧
        (∀ idx box, d.boxAt? instructions idx = some box →
          0 ≤ box.left ∧ box.right ≤ width ∧ 0 ≤ box.top ∧ box.bottom ≤ d.canvasHeight)) := by
  have hvertical : ∀ idx box, style.dimensions.boxAt? instructions idx = some box →
      0 ≤ box.top ∧ box.bottom ≤ style.dimensions.canvasHeight := by
    intro idx box h
    rcases Dimensions.boxAt?_eq_some _ h with ⟨key, orientation, _, hbox⟩
    rw [hbox]
    apply Dimensions.vertical_box hd
  have hwidth : ∀ idx box, style.dimensions.boxAt? instructions idx = some box →
      style.dimensions.cursorAt instructions (idx + 1)
        ≤
      (style.dimensions.measure instructions).width := by
    intro idx box h
    rcases Dimensions.boxAt?_eq_some _ h with ⟨key, orientation, htile, _⟩
    apply Dimensions.cursorAt_le_width hd
    exact (List.getElem?_eq_some_iff.1 htile).1
  dsimp only
  refine ⟨?_, hvertical, ?_, ?_, ?_⟩
  . apply map_box_images
  . intro idx key orientation box htile hstacked h
    have hright := hwidth idx box h
    rw [Dimensions.boxAt?_of_tile _ htile, Option.some.injEq] at h
    rcases Dimensions.horizontal_box hd htile hstacked with ⟨hleft, hbox⟩
    rw [← h, hleft]
    exact ⟨Dimensions.cursorAt_nonneg hd instructions idx, le_trans hbox hright⟩
  . intro idx key key' lower upper hlower hupper h1 h2
    rw [Dimensions.boxAt?_of_tile _ hlower, Option.some.injEq] at h1
    rw [Dimensions.boxAt?_of_tile _ hupper, Option.some.injEq] at h2
    rw [← h1, ← h2]
    apply Dimensions.stacked_box hlower
  . intro hstacks
    constructor
    . intro idx1 idx2 box1 box2 hne h1 h2 x y
      rcases Nat.lt_or_gt_of_ne hne with hlt | hlt
      . exact Dimensions.not_interior_of_lt hd hstacks hlt h1 h2 x y
      . rw [and_comm]
        exact Dimensions.not_interior_of_lt hd hstacks hlt h2 h1 x y
    . intro idx box h
      have hright := Dimensions.right_le_cursorAt hd hstacks h
      refine ⟨?_, ?_, hvertical idx box h⟩
      . apply Dimensions.left_nonneg hd hstacks h
      . exact le_trans hright (hwidth idx box h)

theorem boxes_fit_call
    : let style : Style Rat := ⟨.empty, 30, 40, 2, 12⟩
      let call := [Instruction.tile "5p" .sideways, .tile "5p" .stacked, .gap, .tile "1m" .upright]
      style.dimensions.IsNonneg ∧
      StacksOnSideways call ∧
      style.dimensions.boxAt? call 0 = some ⟨0, 40, 32, 62⟩ ∧
      style.dimensions.boxAt? call 1 = some ⟨0, 40, 0, 30⟩ ∧
      ∀ x y, ¬(Box.Interior ⟨0, 40, 32, 62⟩ x y ∧ Box.Interior ⟨0, 40, 0, 30⟩ x y) := by
  have hd : (⟨30, 40, 2, 12⟩ : Dimensions Rat).IsNonneg := by
    constructor <;> norm_num
  have hstacks : StacksOnSideways
      [.tile "5p" .sideways, .tile "5p" .stacked, .gap, .tile "1m" .upright] := by
    intro idx key h
    match idx with
    | 1 => exact ⟨0, "5p", rfl, rfl⟩
    | 0 | 2 | 3 => simp at h
    | _ + 4 => simp at h
  have h0 : (⟨30, 40, 2, 12⟩ : Dimensions Rat).boxAt?
      [.tile "5p" .sideways, .tile "5p" .stacked, .gap, .tile "1m" .upright] 0
      =
    some ⟨0, 40, 32, 62⟩ := by
    decide +kernel
  have h1 : (⟨30, 40, 2, 12⟩ : Dimensions Rat).boxAt?
      [.tile "5p" .sideways, .tile "5p" .stacked, .gap, .tile "1m" .upright] 1
      =
    some ⟨0, 40, 0, 30⟩ := by
    decide +kernel
  have hfit := boxes_fit ⟨.empty, 30, 40, 2, 12⟩
    [.tile "5p" .sideways, .tile "5p" .stacked, .gap, .tile "1m" .upright] hd
  exact ⟨hd, hstacks, h0, h1, (hfit.2.2.2.2 hstacks).1 0 1 _ _ (by decide) h0 h1⟩

end Style

end Mahjong
