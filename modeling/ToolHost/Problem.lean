import ToolHost.Duration
import ToolHost.Json.Fault
import ToolHost.Machine.OsError
import ToolHost.Tool.Id

/-! Everything that can keep a host from giving an answer. -/
namespace ToolHost

/-- What is wrong with a configuration, and where in its text. -/
structure ConfigFault where
  cause : Json.Cause
  position : Json.Position
  deriving DecidableEq, Repr

def ConfigFault.message (f : ConfigFault) : String :=
  s!"Invalid host config JSON: {f.cause.message} at line {f.position.line} column {f.position.column}"

/-- A request that could not be met. -/
inductive Problem where
  | emptyToolId
  | invalidConfig (fault : ConfigFault)
  | unreadableConfig (path : Path) (error : OsError)
  | invalidConfigFile (path : Path) (fault : ConfigFault)
  | unknownTool (id : ToolId)
  | noProgramDir (fault : ProgramFault)
  | executableNotFound (id : ToolId) (path : Path) (error : OsError)
  | executableNotFile (id : ToolId) (path : Path)
  | notStarted (path : Path) (error : OsError)
  | overtime (id : ToolId) (limit : Duration)
  | notKilled (id : ToolId) (reason : String)
  | notAwaited (id : ToolId) (reason : String)
  /-- An argument that would not come back from a command line. -/
  | unquotable (arg : String)
  /-- Arguments that come back one by one, but not together. -/
  | unquotableTogether
  | system (error : OsError)
  deriving DecidableEq, Repr

namespace Problem

def message : Problem → String
  | emptyToolId => "Tool id cannot be empty"
  | invalidConfig fault => fault.message
  | unreadableConfig path error => s!"Failed to read config {path}: {error.message}"
  | invalidConfigFile path fault => s!"Invalid config at {path}: {fault.message}"
  | unknownTool id => s!"Unknown tool '{id.name}': no built-in layout and no config entry"
  | noProgramDir fault => fault.message
  | executableNotFound id path error =>
    s!"{id.name} executable not found at {path}: {error.message}"
  | executableNotFile id path => s!"{id.name} executable is not a file: {path}"
  | notStarted path error => s!"Failed to start {path}: {error.message}"
  | overtime id limit => s!"{id.name} did not exit within {limit.text}"
  | notKilled id reason => s!"Failed to kill {id.name}: {reason}"
  | notAwaited id reason => s!"Failed waiting for {id.name}: {reason}"
  | unquotable arg =>
    s!"Argument {Text.literal arg} cannot be passed through a command line unchanged; " ++
      "use --line to pass the raw command line"
  | unquotableTogether =>
    "Arguments cannot be passed through a command line unchanged; " ++
      "use --line to pass the raw command line"
  | system error => error.message

/-- The fault in a configuration that a problem comes down to. -/
def configFault? : Problem → Option ConfigFault
  | invalidConfig fault | invalidConfigFile _ fault => some fault
  | _ => none

/-- The refusal of the system that a problem comes down to. -/
def osError? : Problem → Option OsError
  | unreadableConfig _ error | noProgramDir (.unlocated error) | executableNotFound _ _ error
  | notStarted _ error | system error => some error
  | _ => none

end Problem
end ToolHost
