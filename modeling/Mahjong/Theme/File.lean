import Mahjong.File.Directory
import Mahjong.File.Path
import Mahjong.Theme.Catalog
import Mahjong.Theme.Fault
import Mahjong.Theme.Json

/-!
This module contains the loading of themes from files. A file holds the JSON text of one theme, and
a file that cannot be used keeps none of the others from being loaded.
-/

namespace Mahjong

/--
Why a theme cannot be taken from a file.
-/
inductive ThemeError where
  | invalid (id : String) (fault : Theme.Fault)
  | unreadable (error : FileError)
  /-- The text is not the JSON text of a theme. -/
  | malformed (text : String)

namespace ThemeError

/--
The words for an error. Those for a malformed text come from `explain`, which says what is wrong
with it and where.
-/
def message (explain : String → String) : ThemeError → String
  | .invalid id fault => "Invalid theme " ++ id ++ ": " ++ fault.message
  | .unreadable error => error.report
  | .malformed text => "Malformed theme file: " ++ explain text

end ThemeError

namespace Theme

/--
The theme that a JSON text stands for, whether or not it is valid.
-/
def ofText? (text : String) : Option Theme := do
  let tree ← Json.Tree.ofText? text
  ofTree? tree

/--
Refuse a theme that has a fault.
-/
def validate (theme : Theme) : Except ThemeError Theme :=
  match theme.fault? with
  | some fault => .error (.invalid theme.id fault)
  | none => .ok theme

/--
The valid theme in a file.
-/
def ofFile (content : FileContent) : Except ThemeError Theme :=
  match content.text with
  | .error e => .error (.unreadable e)
  | .ok text =>
    match ofText? text with
    | none => .error (.malformed text)
    | some theme => theme.validate

end Theme

namespace Directory

/--
The theme files of a directory, with what loading each of them yields.
-/
def themeFiles (entries : List (String × FileContent)) : List (String × Except ThemeError Theme) :=
  (entries.filter (Path.hasJsonExtension ·.1)).map fun (name, content) =>
    (name, Theme.ofFile content)

end Directory

/--
The built-in theme and all themes that can be loaded from a directory. A directory that is not there
holds none.
-/
def Catalog.load : Directory → Except FileError Catalog
  | .missing => .ok .builtin
  | .unreadable error => .error error
  | .listing entries =>
    .ok <| (Directory.themeFiles entries).foldl
      (fun catalog file => match file.2 with
        | .ok theme => catalog.register theme
        | .error _ => catalog)
      .builtin

end Mahjong
