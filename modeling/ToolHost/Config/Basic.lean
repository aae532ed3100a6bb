import ToolHost.Duration
import ToolHost.Machine.OsError
import ToolHost.Tool.Table

/-! The configuration of a host: where its tools are, how long they may run, and where they run. -/
namespace ToolHost

/-- What a host is told about its tools. -/
structure HostConfig where
  /-- The directory from which tool directories are seen; the program's own one if nothing is said. -/
  baseDir? : Option Path
  /-- A tool that runs for longer is stopped. -/
  timeoutSecs? : Option UInt64
  /-- Whether a tool runs in its own directory. -/
  chdirToTool : Bool
  tools : ToolTable
  deriving DecidableEq, Repr

namespace HostConfig

/-- The configuration that says nothing. -/
def default : HostConfig := ⟨none, none, false, .empty⟩

instance : Inhabited HostConfig := ⟨default⟩

/-- The directory from which tool directories are seen, for a program in `programDir`. -/
def baseDir (config : HostConfig) (programDir : Path) : Path := config.baseDir?.getD programDir

/-- The same for a program that may not know where it is; then the configuration alone can say. -/
def resolvedBaseDir (config : HostConfig) : Except ProgramFault Path → Except ProgramFault Path
  | .ok programDir => .ok (config.baseDir programDir)
  | .error fault =>
    match config.baseDir? with
    | some dir => .ok dir
    | none => .error fault

/-- How long a tool may run. -/
def timeout? (config : HostConfig) : Option Duration :=
  config.timeoutSecs?.map fun n => .ofSeconds n.toNat

/-- The layout that the configuration itself gives a tool, whatever the case of its name. -/
def override? (config : HostConfig) (name : String) : Option Layout := config.tools.find? name

/-- The layout of a tool: that of the configuration, else the built-in one. -/
def layout? (config : HostConfig) (id : ToolId) : Option Layout :=
  (config.override? id.name).or (Layout.builtin? id)

end HostConfig
end ToolHost
