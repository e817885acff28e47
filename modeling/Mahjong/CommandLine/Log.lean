import Mahjong.CommandLine.Outcome
import Mahjong.Render.Events
import Mahjong.Theme.Events

/-!
This module contains the log of an invocation.
-/

namespace Mahjong.CommandLine

/--
The events of drawing hands one after the other, until one cannot be drawn or written.
-/
def RenderOptions.events (options : RenderOptions) (catalog : Catalog) : List String → List Event
  | [] => []
  | hand :: rest =>
    let request := options.request hand
    catalog.renderEvents request ++
      match catalog.render request with
      | .error _ => []
      | .ok r =>
        match options.line r with
        | .error _ => []
        | .ok _ => options.events catalog rest

/--
The events of a command.
-/
def Command.events (command : Command) (catalog : Catalog) (env : Environment) : List Event :=
  match command with
  | .themes => []
  | .parse hand => Hand.parseEvents hand
  | .render options =>
    match options.hands env with
    | .error _ => []
    | .ok hands => options.events catalog hands

/--
The events that an invocation logs: warnings always, the others only if it is verbose.
-/
def Invocation.events (invocation : Invocation) (env : Environment) : List Event :=
  let directory := env.directory invocation.themesDirectory
  let events := Catalog.loadEvents invocation.themesDirectory directory ++
    match Catalog.load directory with
    | .error _ => []
    | .ok catalog => invocation.command.events catalog env
  events.filter fun event => invocation.verbose || event.isWarning

end Mahjong.CommandLine
