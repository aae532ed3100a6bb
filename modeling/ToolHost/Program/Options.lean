import ToolHost.CommandLine.Quoting
import ToolHost.Config.Sources

/-! The options of a host program, and what they mean for it. -/
namespace ToolHost.Program

structure Options where
  config? : Option Path
  baseDir? : Option Path
  timeoutSecs? : Option UInt64
  chdirToTool : Bool
  /-- A raw command line for the tool, in place of arguments. -/
  line? : Option String
  tool : ToolId
  args : List String
  deriving DecidableEq, Repr

namespace Options

/-- The configuration before the options are laid over it. -/
def source (o : Options) (m : Machine) : Except Problem HostConfig :=
  match o.config? with
  | some path => (HostConfig.load m path).map fun config => config.applyEnv m
  | none => HostConfig.loadDefault m

/-- The configuration of the host. What the options say goes before what the configuration says. -/
def hostConfig (o : Options) (m : Machine) : Except Problem HostConfig :=
  (o.source m).map fun config => { config with
    baseDir? := o.baseDir?.or config.baseDir?
    timeoutSecs? := o.timeoutSecs?.or config.timeoutSecs?
    chdirToTool := config.chdirToTool || o.chdirToTool }

/-- The command line for the tool. Arguments are quoted, and refused if they would not come back
from the command line as they are. -/
def commandLine (o : Options) : Except Problem String :=
  match o.line? with
  | some line => .ok line
  | none =>
    let line := CommandLine.joinArgs o.args
    if CommandLine.tokenize line = o.args then .ok line
    else
      match o.args.find? fun arg => CommandLine.tokenize (CommandLine.quote arg).text != [arg] with
      | some arg => .error (.unquotable arg)
      | none => .error .unquotableTogether

end Options
end ToolHost.Program
