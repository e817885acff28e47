import Mahjong.Hand.Events
import Mahjong.Render.Rendering

/-!
This module contains the events of drawing hands, in the order in which they occur.
-/

namespace Mahjong

/--
The events of drawing instructions.
-/
def Style.renderEvents (style : Style Float) (instructions : List Instruction) : List Event :=
  let drawing := style.draw instructions
  drawing.missing.map .designMissing ++ [.handDrawn instructions.length drawing.cursor]

namespace Catalog

/--
The events of drawing a hand in a style that was found or not.
-/
def handEvents (style : Except RenderError (Style Float)) (hand : String) : List Event :=
  match style with
  | .error _ => []
  | .ok style => Hand.parseEvents hand ++ style.renderEvents (Hand.parse hand)

/--
The events of drawing a request.
-/
def renderEvents (catalog : Catalog) (request : Request) : List Event :=
  handEvents (catalog.style request.themeId request.overrides) request.hand ++
    match catalog.render request with
    | .error _ => []
    | .ok r => [.handRendered request.hand request.themeId r.instructions.length]

/--
The events of drawing the markup alone of a hand.
-/
def renderMarkupEvents (catalog : Catalog) (hand : String) (overrides : Option Overrides) :
    List Event :=
  handEvents (catalog.style defaultThemeId overrides) hand

end Catalog

end Mahjong
