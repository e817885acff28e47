import Mahjong.Hand.Scan
import Mahjong.Instruction.Json
import Mahjong.Layout.Markup
import Mahjong.Render.Fingerprint
import Mahjong.Render.Request
import Mahjong.Theme.Catalog
import Mahjong.Version.Parser

/-!
This module contains the drawing of requests in the themes of a catalog.
-/

namespace Mahjong

/--
Why a request cannot be drawn.
-/
inductive RenderError where
  | themeNotFound (id : String)
  | engineTooOld (themeId minimum : String)
  | invalidVersion (text : String)
  | unwritable (error : Json.WriteError)
deriving DecidableEq

namespace RenderError

def message : RenderError → String
  | .themeNotFound id => "Theme not found: " ++ id
  | .engineTooOld id minimum =>
    "Theme " ++ id ++ " requires engine >= " ++ minimum ++ ", current is " ++ engineVersionText
  | .invalidVersion text => "Invalid version: " ++ text
  | .unwritable error => "Serialization error: " ++ error.message

end RenderError

/--
A drawn hand, with all that is needed to tell how it came about.
-/
structure Rendering where
  themeId : String
  engineVersion : String
  instructions : List Instruction
  markup : String
  extent : Extent Float
  requestHash : String
  markupHash : String

namespace Rendering

open Json

def toMembers (r : Rendering) : List (String × Value) :=
  [("themeId", .string r.themeId), ("engineVersion", .string r.engineVersion),
    ("instructions", Instruction.listToValue r.instructions), ("markup", .string r.markup),
    ("width", .float r.extent.width), ("height", .float r.extent.height),
    ("requestHash", .string r.requestHash), ("markupHash", .string r.markupHash)]

def toValue (r : Rendering) : Value :=
  .object r.toMembers

def toData (r : Rendering) : Data :=
  .ofMembers r.toMembers

/--
A rendering from its fields. It is itself one level of nesting around the instructions.
-/
def ofTree? (tree : Tree) : Option Rendering := do
  let fields ← tree.fields?
    ["themeId", "engineVersion", "instructions", "markup", "width", "height", "requestHash",
      "markupHash"]
  return {
    themeId := ← required? fields "themeId" Tree.string?
    engineVersion := ← required? fields "engineVersion" Tree.string?
    instructions := ← required? fields "instructions" (Instruction.listOfTree? (maxDepth - 1))
    markup := ← required? fields "markup" Tree.string?
    extent := {
      width := ← required? fields "width" Tree.float?
      height := ← required? fields "height" Tree.float? }
    requestHash := ← required? fields "requestHash" Tree.string?
    markupHash := ← required? fields "markupHash" Tree.string? }

end Rendering

/--
Refuse a theme that needs a later engine than this one.
-/
def Theme.checkVersion (theme : Theme) : Except RenderError Unit :=
  match Version.parse theme.engineMinVersion with
  | .error _ => .error (.invalidVersion theme.engineMinVersion)
  | .ok minimum =>
    if engineVersion.compare minimum = .lt then
      .error (.engineTooOld theme.id theme.engineMinVersion)
    else .ok ()

namespace Catalog

/--
The style of a theme with overrides.
-/
def style (catalog : Catalog) (id : String) (overrides : Option Overrides) :
    Except RenderError (Style Float) :=
  match catalog.get? id with
  | none => .error (.themeNotFound id)
  | some theme => do
    theme.checkVersion
    return theme.style overrides

/--
Draw a request. It has a fingerprint, for which it is written.
-/
def render (catalog : Catalog) (request : Request) : Except RenderError Rendering := do
  let style ← catalog.style request.themeId request.overrides
  let instructions := Hand.parse request.hand
  let markup := style.render instructions
  let requestHash ←
    (fingerprint request.themeId request.toData engineVersionText).mapError .unwritable
  return {
    themeId := request.themeId
    engineVersion := engineVersionText
    instructions
    markup
    extent := style.dimensions.measure instructions
    requestHash
    markupHash := Digest.ofText markup }

/--
The markup alone of a hand in the default theme.
-/
def renderMarkup (catalog : Catalog) (hand : String) (overrides : Option Overrides) :
    Except RenderError String := do
  let style ← catalog.style defaultThemeId overrides
  return style.render (Hand.parse hand)

end Catalog

end Mahjong
