import VparFleet.Settings
import VparFleet.Text.Quoted

/-!
# Credentials

The login of remote sessions. Its text form shows the user only, so that a password never ends up
in a message.
-/

namespace VparFleet

/-- User and password of a login. -/
structure Credentials where
  username : String
  password : String
  deriving DecidableEq

namespace Credentials

/-- The text form, which shows no password. -/
def shown (credentials : Credentials) : String :=
  "Credentials \x7b username: " ++ Text.quoted credentials.username
    ++ ", password: \"<redacted>\" \x7d"

end Credentials

/-- The login that the settings give. -/
def RemoteSettings.credentials (remote : RemoteSettings) : Credentials :=
  ⟨remote.username, remote.password⟩

end VparFleet
