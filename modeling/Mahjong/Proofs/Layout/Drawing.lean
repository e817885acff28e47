import Mahjong.Layout.Drawing

/-!
This module contains the two results of going over a row of instructions. The images are those of
the single instructions, each drawn at the cursor, and the cursor ends where the advances of all
instructions take it.
-/

namespace Mahjong.Style

variable {α : Type} [Length α] (style : Style α)

/--
The images of a row of instructions from the cursor on.
-/
def images (style : Style α) (cursor : α) (instructions : List Instruction) : List (Image α) :=
  (style.drawFrom cursor instructions).1

theorem images_draw (instructions : List Instruction)
    : (style.draw instructions).images = style.images Length.zero instructions := by
  rfl

theorem images_nil (cursor : α) : style.images cursor [] = [] := by
  rfl

theorem images_cons (cursor : α) (i : Instruction) (rest : List Instruction)
    : style.images cursor (i :: rest)
        =
      style.layers cursor i ++ style.images (cursor + style.dimensions.advance i) rest := by
  rfl

theorem images_append (cursor : α) (instructions others : List Instruction)
    : style.images cursor (instructions ++ others)
        =
      style.images cursor instructions ++
        style.images (style.dimensions.advanceAll cursor instructions) others := by
  induction instructions generalizing cursor with
  | nil => rfl
  | cons i rest ih =>
    rw [List.cons_append, images_cons, images_cons, ih, List.append_assoc]
    rfl

theorem snd_drawFrom (cursor : α) (instructions : List Instruction)
    : (style.drawFrom cursor instructions).2 = style.dimensions.advanceAll cursor instructions := by
  induction instructions generalizing cursor with
  | nil => rfl
  | cons i rest ih => exact ih (cursor + style.dimensions.advance i)

theorem cursor_draw (instructions : List Instruction)
    : (style.draw instructions).cursor
        =
      style.dimensions.advanceAll Length.zero instructions := by
  apply snd_drawFrom

end Mahjong.Style
