import NodeGateway.Number.Decimal
import NodeGateway.Problem
import NodeGateway.Settings.DurationText
import NodeGateway.Settings.Path
import NodeGateway.Text.HexError
import NodeGateway.Url.Host

/-!
# Errors in Settings

Why settings are refused. A value of the wrong kind is reported with the path of its setting, a text
of the wrong form with the text and the reason.
-/

namespace NodeGateway

/-- Why **settings** are refused. -/
inductive SettingsError where
  /-- The file does not hold a document. The report goes on with what its reader says. -/
  | unreadable (report : String)
  /-- A setting that has to be there is not. -/
  | missing (name : String)
  /-- A value that cannot be taken for one of the wanted kind. -/
  | mismatch (found expected : String) (path : SettingPath) (fromEnvironment : Bool)
  /-- A value of a kind from which nothing is converted. -/
  | unexpected (found expected : String)
  /-- A list of another length than the wanted one. -/
  | length (found : Nat) (expected : String)
  | url (text : String) (reason : UrlError)
  | duration (text : String) (reason : DurationError)
  | host
  | address (reason : HexError)
  /-- Primary and fallback of a layer are one endpoint. -/
  | sameEndpoint (layer : String)
  | multiplier (x : Binary64)
  deriving DecidableEq, Repr

namespace SettingsError

/-- The wording of why settings are refused. -/
def message : SettingsError → String
  | unreadable report => "TOML parse error" ++ report
  | missing name => "missing field \x60" ++ name ++ "\x60"
  | mismatch found expected path fromEnvironment =>
    "invalid type: " ++ found ++ ", expected " ++ expected ++ " for key \x60"
      ++ path.text ++ "\x60"
      ++ (if fromEnvironment then " in the environment" else "")
  | unexpected found expected => "invalid type: " ++ found ++ ", expected " ++ expected
  | length found expected => "invalid length " ++ toString found ++ ", expected " ++ expected
  | url text reason => "Failed to parse URL '" ++ text ++ "': " ++ reason.message ++ ";"
  | duration text reason => "Failed to parse duration '" ++ text ++ "': " ++ reason.message ++ ";"
  | host => "invalid IPv4 address syntax"
  | address reason => reason.message
  | sameEndpoint layer => layer ++ " fallback url must differ from its primary url"
  | multiplier x => "safe gas multiplier must be at least 1.0, got " ++ Decimal.render x

/-- The problem that refused settings are. -/
def problem (error : SettingsError) : Problem := .other error.message

end SettingsError

end NodeGateway
