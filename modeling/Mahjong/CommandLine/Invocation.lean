import Mahjong.CommandLine.Option

/-!
This module contains what a command line asks for, and how it is read from the arguments. Arguments
that ask for nothing that can be done are refused as a whole, and so are those that ask for help.
-/

namespace Mahjong.CommandLine

/--
What the command `render` is asked for.
-/
structure RenderOptions where
  hand : Option String := none
  input : Option String := none
  theme : Option String := none
  baseUrl : Option String := none
  /-- Tile keys with the addresses of their designs, in the order given. -/
  designs : List (String × String) := []
  json : Bool := false

inductive Command where
  | themes
  | parse (hand : String)
  | render (options : RenderOptions)

structure Invocation where
  themesDirectory : String := "themes"
  verbose : Bool := false
  command : Command

/--
The options before the command.
-/
inductive GlobalOption where
  | themesDirectory
  | verbose
deriving DecidableEq

def globalRules : List (OptionRule GlobalOption) :=
  [{ name := .themesDirectory, letter := some 't', word := "themes-dir" },
    { name := .verbose, letter := some 'v', word := "verbose", takesValue := false }]

/--
The options after the command `render`.
-/
inductive RenderOption where
  | input
  | theme
  | baseUrl
  | design
  | json
deriving DecidableEq

def renderRules : List (OptionRule RenderOption) :=
  [{ name := .input, letter := some 'i', word := "input" },
    { name := .theme, word := "theme" },
    { name := .baseUrl, word := "base-url" },
    { name := .design, word := "design" },
    { name := .json, word := "json", takesValue := false }]

/--
The tile key and the address in the value of a design option, which are parted by the first equals
sign. Neither of them may be empty.
-/
def parseDesign? (text : String) : Option (String × String) :=
  match Text.splitFirst? '=' text.toList with
  | some (key, address) =>
    if key.isEmpty ∨ address.isEmpty then none
    else some (String.ofList key, String.ofList address)
  | none => none

/--
The value of an option for a path, which may be given once and not be empty.
-/
def path? (given : List String) : Option (Option String) :=
  match given with
  | [] => some none
  | [path] => if path.isEmpty then none else some (some path)
  | _ => none

/--
Whether an option without a value is given. It may not be given twice.
-/
def flag? (given : List String) : Option Bool :=
  (atMostOne? given).map Option.isSome

namespace RenderOptions

def ofArguments? (arguments : List String) : Option RenderOptions := do
  let items ← readItems? renderRules arguments
  return {
    hand := ← atMostOne? (operands items)
    input := ← path? (values items .input)
    theme := ← atMostOne? (values items .theme)
    baseUrl := ← atMostOne? (values items .baseUrl)
    designs := ← (values items .design).mapM parseDesign?
    json := ← flag? (values items .json) }

end RenderOptions

namespace Command

/--
The command with a given name and arguments.
-/
def ofArguments? (name : String) (arguments : List String) : Option Command :=
  match name with
  | "themes" => do
    let items ← readItems? ([] : List (OptionRule Empty)) arguments
    match operands items with
    | [] => return .themes
    | _ => none
  | "parse" => do
    let items ← readItems? ([] : List (OptionRule Empty)) arguments
    match operands items with
    | [hand] => return .parse hand
    | _ => none
  | "render" => (RenderOptions.ofArguments? arguments).map .render
  | _ => none

end Command

namespace Invocation

/--
Read the arguments of the program, or `none` if they are refused.
-/
def ofArguments? (arguments : List String) : Option Invocation := do
  let (items, name, rest) ← readCommand? globalRules arguments
  return {
    themesDirectory := (← path? (values items .themesDirectory)).getD "themes"
    verbose := ← flag? (values items .verbose)
    command := ← Command.ofArguments? name rest }

end Invocation

end Mahjong.CommandLine
