import Muster.Dict
import Muster.Host.Path

/-!
# Where settings and data are kept

The variables of the environment say where the settings file is and where data goes.
-/

set_option autoImplicit false

namespace Muster

/-- The variables of the environment, by name. -/
abbrev Environment := Dict String

namespace Environment

/-- The directory of the user, or a common one. -/
def home (env : Environment) : String := (env.get? "HOME").getD "/tmp"

/-- The directory of settings. -/
def configDirectory (env : Environment) : String :=
  Path.join ((env.get? "XDG_CONFIG_HOME").getD (Path.join env.home ".config")) "fleet"

/-- The directory of data. -/
def dataDirectory (env : Environment) : String :=
  Path.join ((env.get? "XDG_DATA_HOME").getD (Path.join (Path.join env.home ".local") "share"))
    "fleet"

/-- The settings file: the one that is named, or the one in the directory of settings. -/
def configFile (env : Environment) : String :=
  (env.get? "FLEET_CONFIG").getD (Path.join env.configDirectory "config.toml")

end Environment

end Muster
