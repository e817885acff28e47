import Mahjong.Hand.Mark
import Mahjong.Layout.Markup
import Mahjong.Text.Quoted
import Mahjong.Theme.File

/-!
This module contains the events that are logged while a hand is read and drawn and while themes are
loaded.
-/

namespace Mahjong

/--
Something worth a line in a log.
-/
inductive Event where
  | quotesWithoutMeaning (quotes : List Hand.Quote) (key : String)
  | ranksDropped (count : Nat)
  | handParsed (text : String) (count : Nat)
  | designMissing (key : String)
  | handDrawn (count : Nat) (cursor : Float)
  | handRendered (text themeId : String) (count : Nat)
  | directoryMissing (path : String)
  | themeLoaded (id path : String)
  | themeSkipped (path : String) (error : ThemeError)

namespace Event

/--
Whether an event is a warning. The other events are of interest for debugging only.
-/
def isWarning : Event → Bool
  | .designMissing _ => true
  | .themeSkipped .. => true
  | _ => false

def countText (count : Nat) : String :=
  toString count ++ " instruction(s)"

def message (explain : String → String) : Event → String
  | .quotesWithoutMeaning quotes key =>
    "unrecognized quote suffix " ++ Text.quoted (String.ofList (quotes.map (·.char))) ++ " on " ++
      key ++ ", drawing upright"
  | .ranksDropped count => "dropping " ++ toString count ++ " rank(s) with no suit letter"
  | .handParsed text count => "parsed " ++ Text.quoted text ++ " into " ++ countText count
  | .designMissing key => "no design for tile key " ++ Text.quoted key
  | .handDrawn count cursor => "rendered " ++ countText count ++ ", width " ++ coordinate cursor
  | .handRendered text themeId count =>
    "rendered " ++ Text.quoted text ++ " with theme " ++ themeId ++ " (" ++ countText count ++ ")"
  | .directoryMissing path =>
    "theme directory " ++ path ++ " not found, using built-in theme"
  | .themeLoaded id path => "loaded theme " ++ id ++ " from " ++ path
  | .themeSkipped path error => "skipping theme file " ++ path ++ ": " ++ error.message explain

/--
The line of an event in a log, in which malformed texts are explained by `explain`.
-/
def line (explain : String → String) (event : Event) : String :=
  (if event.isWarning then "WARN " else "DEBUG ") ++ event.message explain

end Event

end Mahjong
