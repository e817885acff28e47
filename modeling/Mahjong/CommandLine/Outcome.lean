import Mahjong.CommandLine.Invocation
import Mahjong.Render.Rendering
import Mahjong.Text.Blank
import Mahjong.Theme.File

/-!
This module contains what an invocation of the program prints and returns. All that it reads comes
in an `Environment`, so that a run is a function.
-/

namespace Mahjong.CommandLine

/--
What a run can read.
-/
structure Environment where
  directory : String → Directory
  file : String → FileContent
  standardInput : FileContent

/--
How a run ends.
-/
inductive Status where
  | success
  | failure
  /-- The arguments were refused, or a hand could not be drawn. -/
  | refused
deriving DecidableEq

namespace Status

def exitCode : Status → UInt8
  | .success => 0
  | .failure => 1
  | .refused => 2

end Status

/--
What a run leaves behind.
-/
structure Outcome where
  status : Status
  output : String

/--
Why a run fails before anything is drawn.
-/
inductive Failure where
  | themesUnreadable (error : FileError)
  | noHand
  | inputUnreadable (error : FileError)
  | fileUnreadable (path : String) (error : FileError)

namespace Failure

def message : Failure → String
  | .themesUnreadable error =>
    "Failed to load themes: " ++ error.report
  | .noHand => "Neither a notation nor --input was given"
  | .inputUnreadable error => "Failed to read stdin: " ++ error.message
  | .fileUnreadable path error => "Failed to read " ++ path ++ ": " ++ error.message

end Failure

open Json

/--
The line that reports an error.
-/
def errorLine (message : String) : String :=
  (Value.object [("error", .string message), ("success", .bool false)]).compact ++ "\n"

namespace Outcome

def fail (failure : Failure) : Outcome :=
  ⟨.failure, errorLine failure.message⟩

/--
Print a text that was to be written.
-/
def print : Except WriteError String → Outcome
  | .ok text => ⟨.success, text ++ "\n"⟩
  | .error e => ⟨.failure, errorLine e.message⟩

end Outcome

/--
The hands in an input: one on each line, without blanks around it. Lines of blanks only hold none.
-/
def handsOfText (text : String) : List String :=
  ((Text.splitAt '\n' text.toList).map fun line => String.ofList (Text.trimBlanks line)).filter
    (!·.isEmpty)

namespace RenderOptions

/--
The hands to draw. The one among the arguments goes before those of an input, and the input named by
a hyphen is the standard input.
-/
def hands (options : RenderOptions) (env : Environment) : Except Failure (List String) :=
  match options.hand, options.input with
  | some hand, _ => .ok [hand]
  | none, none => .error .noHand
  | none, some "-" =>
    match env.standardInput.text with
    | .ok text => .ok (handsOfText text)
    | .error e => .error (.inputUnreadable e)
  | none, some path =>
    match (env.file path).text with
    | .ok text => .ok (handsOfText text)
    | .error e => .error (.fileUnreadable path e)

/--
The overrides that the options ask for, if any. Of two designs for one key the last one counts.
-/
def overrides (options : RenderOptions) : Option Overrides :=
  if options.baseUrl.isNone ∧ options.designs.isEmpty then none
  else some { baseUrl := options.baseUrl, designs := .ofList options.designs }

def request (options : RenderOptions) (hand : String) : Request where
  hand := hand
  theme := options.theme
  overrides := options.overrides

/--
What is printed for one drawn hand.
-/
def line (options : RenderOptions) (r : Rendering) : Except WriteError String := do
  let text ← if options.json then r.toData.compact else .ok r.markup
  return text ++ "\n"

/--
Draw hands one after the other, until one cannot be drawn or written.
-/
def renderAll (options : RenderOptions) (catalog : Catalog) : List String → Outcome
  | [] => ⟨.success, ""⟩
  | hand :: rest =>
    match catalog.render (options.request hand) with
    | .error e => ⟨.refused, errorLine e.message⟩
    | .ok r =>
      match options.line r with
      | .error e => ⟨.failure, errorLine e.message⟩
      | .ok line =>
        let others := renderAll options catalog rest
        { others with output := line ++ others.output }

end RenderOptions

/--
A theme as the command `themes` lists it.
-/
def themeSummary (theme : Theme) : Value :=
  .object [("id", .string theme.id), ("name", .string theme.name),
    ("spaceWidth", .float theme.dimensions.spaceWidth),
    ("tileGap", .float theme.dimensions.tileGap),
    ("tileHeight", .float theme.dimensions.tileHeight),
    ("tileWidth", .float theme.dimensions.tileWidth)]

namespace Command

/--
Run a command with the themes that were loaded.
-/
def run (command : Command) (catalog : Catalog) (env : Environment) : Outcome :=
  match command with
  | .themes => .print (Data.list (catalog.list.map (.value <| themeSummary ·))).indented
  | .parse hand => .print (Instruction.listToData (Hand.parse hand)).indented
  | .render options =>
    match options.hands env with
    | .error failure => .fail failure
    | .ok hands => options.renderAll catalog hands

end Command

namespace Invocation

/--
Run an invocation. The themes are loaded first, whatever the command is.
-/
def run (invocation : Invocation) (env : Environment) : Outcome :=
  match Catalog.load (env.directory invocation.themesDirectory) with
  | .error e => .fail (.themesUnreadable e)
  | .ok catalog => invocation.command.run catalog env

end Invocation

/--
Run the program with some arguments. Refused arguments are not explained on the standard output.
-/
def run (arguments : List String) (env : Environment) : Outcome :=
  match Invocation.ofArguments? arguments with
  | none => ⟨.refused, ""⟩
  | some invocation => invocation.run env

end Mahjong.CommandLine
