import Mahjong.Digest.Sha256
import Mahjong.Json.Data

/-!
This module contains the fingerprints of requests. The same request in the same theme always has the
same one.
-/

namespace Mahjong

open Json

/--
The id of a theme, the canonical text of a request and the version of an engine with colons between
them.
-/
def joinWithColons (themeId canonical version : String) : String :=
  themeId ++ ":" ++ canonical ++ ":" ++ version

/--
What is hashed for a request.
-/
def fingerprintText (themeId : String) (request : Value) (version : String) : String :=
  joinWithColons themeId request.canonicalText version

/--
The fingerprint of a request, if that can be written.
-/
def fingerprint (themeId : String) (request : Data) (version : String) :
    Except WriteError String := do
  let canonical ← request.canonicalText
  return Digest.ofText (joinWithColons themeId canonical version)

end Mahjong
