import ToolHost.Config.Reader
import ToolHost.Machine.Basic

/-! Where a configuration comes from: a file, the environment, or nowhere. -/
namespace ToolHost.HostConfig

/-- The variable that names the file of the configuration. -/
def fileVariable : String := "COMPARE_HOST_CONFIG"

/-- The variable that takes the place of the base directory. -/
def baseDirVariable : String := "COMPARE_HOST_BASE_DIR"

/-- The configuration in a JSON text. -/
def parse (text : String) : Except Problem HostConfig := (ofJson text).mapError .invalidConfig

/-- The configuration in a file. -/
def load (m : Machine) (path : Path) : Except Problem HostConfig :=
  match m.files.readText m.cwd path with
  | .error e => .error (.unreadableConfig path e)
  | .ok text => (ofJson text).mapError (.invalidConfigFile path)

/-- The configuration with the base directory of the environment, if there is a nonempty one. -/
def applyEnv (config : HostConfig) (m : Machine) : HostConfig :=
  match m.setting? baseDirVariable with
  | some dir => if dir = "" then config else { config with baseDir? := some dir }
  | none => config

/-- The configuration that the environment asks for: that of the file it names, even if the name is
empty, else the one that says nothing. -/
def loadDefault (m : Machine) : Except Problem HostConfig :=
  match m.setting? fileVariable with
  | some path => (load m path).map fun config => config.applyEnv m
  | none => .ok (default.applyEnv m)

end ToolHost.HostConfig
