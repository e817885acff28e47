import Mahjong.Text.Split

/-!
This module contains the recognition of options and operands in a list of arguments. An option is
written as one letter after a hyphen or as a word after two, and several letters may share a hyphen.
Only options with a rule are known: a request for help, by option or as a command, is refused here,
although a program may answer it with a text on its usage and succeed.
-/

namespace Mahjong.CommandLine

/--
An option that may be given, known to the program under a name.
-/
structure OptionRule (ν : Type) where
  name : ν
  letter : Option Char := none
  word : String
  takesValue : Bool := true

/--
What an argument turned out to be. An option without a value has the empty text for it.
-/
inductive Item (ν : Type) where
  | option (name : ν) (value : String)
  | operand (text : String)

/--
What one argument says on its own.
-/
inductive Reading (ν : Type) where
  | operand
  | options (items : List (Item ν))
  /-- Options of which the last one takes the next argument as its value. -/
  | incomplete (items : List (Item ν)) (last : ν)
  | refused

variable {ν : Type}

/--
Read the letters after one hyphen. What follows the letter of an option with a value is its value,
and an equals sign may stand between.
-/
def readLetters (rules : List (OptionRule ν)) (before : List (Item ν)) : List Char → Reading ν
  | [] => .options before
  | c :: rest =>
    match rules.find? (·.letter == some c) with
    | none => .refused
    | some rule =>
      if rule.takesValue then
        match rest with
        | [] => .incomplete before rule.name
        | '=' :: value => .options (before ++ [.option rule.name (String.ofList value)])
        | value => .options (before ++ [.option rule.name (String.ofList value)])
      else readLetters rules (before ++ [.option rule.name ""]) rest

/--
Read a word after two hyphens. Its value may follow an equals sign, unless it has none.
-/
def readWord (rules : List (OptionRule ν)) (text : List Char) : Reading ν :=
  let (word, value) :=
    match Text.splitFirst? '=' text with
    | some (word, value) => (word, some value)
    | none => (text, none)
  match rules.find? (·.word.toList == word) with
  | none => .refused
  | some rule =>
    match rule.takesValue, value with
    | true, some value => .options [.option rule.name (String.ofList value)]
    | true, none => .incomplete [] rule.name
    | false, some _ => .refused
    | false, none => .options [.option rule.name ""]

/--
Read one argument. A hyphen alone is an operand.
-/
def readArgument (rules : List (OptionRule ν)) (argument : String) : Reading ν :=
  match argument.toList with
  | '-' :: '-' :: word => readWord rules word
  | ['-'] => .operand
  | '-' :: letters => readLetters rules [] letters
  | _ => .operand

/--
Whether an argument can be the value of the option before it.
-/
def isOperand (argument : String) : Bool :=
  match argument.toList with
  | ['-'] => true
  | '-' :: _ => false
  | _ => true

/--
Tell options and operands apart. After two hyphens alone there are only operands.
-/
def readItems? (rules : List (OptionRule ν)) : List String → Option (List (Item ν))
  | [] => some []
  | argument :: rest =>
    if argument = "--" then
      some (rest.map .operand)
    else
      match readArgument rules argument with
      | .refused => none
      | .operand => (readItems? rules rest).map (.operand argument :: ·)
      | .options items => (readItems? rules rest).map (items ++ ·)
      | .incomplete items last =>
        match rest with
        | [] => none
        | value :: rest =>
          if isOperand value then
            (readItems? rules rest).map (items ++ .option last value :: ·)
          else none

/--
Divide arguments at the first operand: the options before it, the operand, and the arguments after
it.
-/
def readCommand? (rules : List (OptionRule ν)) :
    List String → Option (List (Item ν) × String × List String)
  | [] => none
  | argument :: rest =>
    match readArgument rules argument with
    | .refused => none
    | .operand => some ([], argument, rest)
    | .options items =>
      (readCommand? rules rest).map fun (before, split) => (items ++ before, split)
    | .incomplete items last =>
      match rest with
      | [] => none
      | value :: rest =>
        if isOperand value then
          (readCommand? rules rest).map fun (before, split) =>
            (items ++ .option last value :: before, split)
        else none

/--
The operands among some items, in their order.
-/
def operands (items : List (Item ν)) : List String :=
  items.filterMap fun
    | .operand text => some text
    | .option .. => none

/--
The values given to an option, in their order.
-/
def values [DecidableEq ν] (items : List (Item ν)) (name : ν) : List String :=
  items.filterMap fun
    | .option other value => if other = name then some value else none
    | .operand _ => none

/--
The single element of a list that has at most one.
-/
def atMostOne? {α : Type} : List α → Option (Option α)
  | [] => some none
  | [x] => some (some x)
  | _ => none

end Mahjong.CommandLine
