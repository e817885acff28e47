import Mahjong.CommandLine.Log

/-!
This module contains the program. It reads what an invocation needs from the system, runs it, and
prints its log to the standard error and its output to the standard output.
-/

open Mahjong Mahjong.CommandLine

/--
The error of the system with a number, which may be reported as a negative one. The errors known to
the library have a text of their own there.
-/
def systemError (number : UInt32) (text : String) : FileError :=
  let number := if number.toNat < 0x80000000 then number.toNat else 0x100000000 - number.toNat
  match number with
  | 2 => .notFound
  | 20 => .notADirectory
  | 21 => .isADirectory
  | number => .system text number

/--
The error that an operation ended with.
-/
def fileErrorOf : IO.Error → FileError
  | .noFileOrDirectory _ number text => systemError number text
  | .inappropriateType _ number text => systemError number text
  | .permissionDenied _ number text => systemError number text
  | .invalidArgument _ number text => systemError number text
  | .resourceExhausted _ number text => systemError number text
  | .hardwareFault number text => systemError number text
  | .otherError number text => systemError number text
  | error => .system error.toString 0

/--
What an operation yields, with its error as a value.
-/
def attempt (operation : IO ByteArray) : IO FileContent := do
  match ← operation.toBaseIO with
  | .ok bytes => return .ok bytes
  | .error error => return .error (fileErrorOf error)

/--
All that a stream still holds.
-/
partial def readAll (stream : IO.FS.Stream) (before : ByteArray) : IO ByteArray := do
  let bytes ← stream.read 65536
  if bytes.isEmpty then
    return before
  else
    readAll stream (before ++ bytes)

/--
What stands at the path of a directory.
-/
def readDirectory (path : String) : IO Directory := do
  let place := (← IO.currentDir) / path
  if !(← place.pathExists) then
    return .missing
  match ← place.readDir.toBaseIO with
  | .error error => return .unreadable (fileErrorOf error)
  | .ok found =>
    let entries ← found.toList.mapM fun entry => do
      return (entry.fileName, ← attempt (IO.FS.readBinFile entry.path))
    return .listing entries

/--
What an invocation reads: its themes, and its input if it has one.
-/
def gather (invocation : Invocation) : IO Environment := do
  let directory ← readDirectory invocation.themesDirectory
  let source :=
    match invocation.command with
    | .render { hand := none, input, .. } => input
    | _ => none
  let content : FileContent ←
    match source with
    | none => pure (.error .notFound)
    | some "-" => attempt do readAll (← IO.getStdin) .empty
    | some path => attempt (IO.FS.readBinFile path)
  return { directory := fun _ => directory, file := fun _ => content, standardInput := content }

def main (arguments : List String) : IO UInt32 := do
  match Invocation.ofArguments? arguments with
  | none =>
    IO.eprintln "The arguments are not understood."
    return Status.refused.exitCode.toUInt32
  | some invocation =>
    let env ← gather invocation
    for event in invocation.events env do
      IO.eprintln (event.line fun _ => "the text is not that of a theme")
    let outcome := invocation.run env
    IO.print outcome.output
    return outcome.status.exitCode.toUInt32
