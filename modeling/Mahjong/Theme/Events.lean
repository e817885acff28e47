import Mahjong.Event

/-!
This module contains the events of loading themes.
-/

namespace Mahjong

/--
The events of loading themes from the directory at a path.
-/
def Catalog.loadEvents (path : String) : Directory → List Event
  | .missing => [.directoryMissing path]
  | .unreadable _ => []
  | .listing entries =>
    (Directory.themeFiles entries).map fun (name, result) =>
      match result with
      | .ok theme => .themeLoaded theme.id (Path.join path name)
      | .error e => .themeSkipped (Path.join path name) e

end Mahjong
