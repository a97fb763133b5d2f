import DicodeRelay.Config.Loading

/-!
Contract: the settings that must not be empty.

Owns:
- what the document of a configuration file gives for the password of the status page
  and for the base URL;
- that a reference which comes to nothing there refuses the start with the message of the
  setting, and that what is loaded otherwise has the values the document gives.

Does not own: what a request for the status page is answered.
-/

namespace DicodeRelay.Config

open DicodeRelay.Lib

/-! ### What a document gives -/

/-- The settings that must not be empty, with what is said where they are. -/
def guarded : List (String × String × String) :=
  [("server", "base_url", BASE_URL_MESSAGE), ("status", "password", PASSWORD_MESSAGE)]

namespace Sample

def statusDoc : Datum :=
  .object [("status", .object [("password", .string (reference "STATUS_PASSWORD"))])]

/-- The configuration file is in the working directory. -/
def tools : ConfigTools where
  files path := if path = "relay.yaml" then some (some "status: ...") else none
  yamlLoad _ := some (some statusDoc)

end Sample

end DicodeRelay.Config
