import ToolHost.Program.Arguments
import ToolHost.Registry.Global

/-! A whole run of the host program. -/
namespace ToolHost.Program

/-- The directory for reports about runs: next to the program, or in the working directory if it is
not known where the program is. -/
def logDir (m : Machine) : Path :=
  match m.programDir with
  | .ok dir => Path.join dir "logs"
  | .error _ => "logs"

/-- Opens a new report, and warns if that is not possible. `stamp` tells reports apart. -/
def openLog (m : Machine) (stamp : String) : Machine :=
  match m.files.makeDirectories m.cwd (logDir m) with
  | .error e => m.complain s!"Warning: Failed to create logs directory: {e.message}\n"
  | .ok files =>
    let m := { m with files := files }
    match m.files.openToWrite m.cwd (Path.join (logDir m) s!"{programName}.{stamp}.log") false with
    | .error e => m.complain s!"Warning: Failed to create log file: {e.message}\n"
    | .ok (_, files) => { m with files := files }

/-- Runs a tool by the way that is there for it. -/
def runHosted (m : Machine) (g : Registry.Global) (id : ToolId) (line : String) :
    Except Problem Nat × Registry.Global × Machine :=
  match id with
  | .sqliteCompare => g.sqliteCompare m line
  | .reoGridCompare => g.reoGridCompare m line
  | other => g.run m other line

/-- Runs the tool that options name. The configuration is made the registry of the process first,
so every way to a tool uses it. -/
def runTool (o : Options) (m : Machine) : Except Problem Nat × Machine :=
  match o.hostConfig m with
  | .error problem => (.error problem, m)
  | .ok config =>
    let (_, g) := Registry.Global.start.install config
    match o.commandLine with
    | .error problem => (.error problem, m)
    | .ok line =>
      let (code, _, m) := runHosted m g o.tool line
      (code, m)

/-- Runs the program with the words of its command line and gives its exit code. -/
def run (words : List String) (stamp : String) (m : Machine) : Nat × Machine :=
  match Options.ofWords words with
  | .error .help => (0, m.say helpText)
  | .error .version => (0, m.say s!"{programName} {version}\n")
  | .error refusal =>
    let complaint := refusal.complaint .stream
    (refusal.exitCode,
      m.complain s!"{complaint}\n\n{usageLine}\n\nFor more information, try '--help'.\n")
  | .ok o =>
    match runTool o (openLog m stamp) with
    | (.ok code, m) => (code, m)
    | (.error problem, m) => (1, m.complain s!"{programName}: {problem.message}\n")

end ToolHost.Program
