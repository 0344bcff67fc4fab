import NodeGateway.Settings.Basic
import NodeGateway.Toml.Document
import NodeGateway.Wording

/-!
# Settings Files

Settings as they are kept: a document in TOML, with the variables of the environment put over it.
-/

namespace NodeGateway.Settings

/-- **Loads** settings from the text of a file and the variables of the environment. -/
def loadText [Wording] (text : String) (environment : List (String × String)) :
    Converted Settings :=
  match Toml.read? text with
  | some tree => load tree environment
  | none => .error (.unreadable (Wording.settings text))

end NodeGateway.Settings
