import ToolHost.Config.Basic
import ToolHost.Machine.Launching
import ToolHost.Problem

/-! Tools that are found and can be launched. -/
namespace ToolHost

/-- A tool whose executable was there when it was looked for. -/
structure ReadyTool where
  id : ToolId
  /-- The directory of the tool. -/
  dir : Path
  executable : Path
  deriving DecidableEq, Repr

/-- Finds a tool: the configuration or the built-in layout says where it is, and an ordinary file
has to be there. -/
def HostConfig.resolve (config : HostConfig) (m : Machine) (id : ToolId) : Except Problem ReadyTool :=
  match config.layout? id with
  | none => .error (.unknownTool id)
  | some layout =>
    match config.resolvedBaseDir m.programDir with
    | .error fault => .error (.noProgramDir fault)
    | .ok base =>
      let executable := layout.executablePath base
      match m.files.find m.cwd executable with
      | .error e => .error (.executableNotFound id executable e)
      | .ok (_, node) =>
        if node.isFile then .ok ⟨id, layout.toolDir base, executable⟩
        else .error (.executableNotFile id executable)

/-- A tool that is found lies where its layout says. -/
theorem HostConfig.exists_layout_of_resolve {config : HostConfig} {m : Machine} {id : ToolId}
    {tool : ReadyTool} (h : config.resolve m id = .ok tool) :
    ∃ layout base, config.layout? id = some layout ∧
      tool = ⟨id, layout.toolDir base, layout.executablePath base⟩ := by
  unfold HostConfig.resolve at h
  split at h
  · cases h
  · rename_i layout hlayout
    split at h
    · cases h
    · rename_i base _
      dsimp only at h
      split at h
      · cases h
      · split at h
        · cases h
          exact ⟨layout, base, hlayout, rfl⟩
        · cases h

/-- The microseconds that it takes to look for a tool. -/
def HostConfig.searchTime (config : HostConfig) (m : Machine) (id : ToolId) : Nat :=
  match config.layout? id, config.resolvedBaseDir m.programDir with
  | some layout, .ok base => m.files.walkTime m.cwd (layout.executablePath base)
  | _, _ => 0

namespace ReadyTool

/-- The order to launch a tool. -/
def order (tool : ReadyTool) (args : List String) (workingDir? : Option Path)
    (limit? : Option Duration) : Launch :=
  ⟨tool.executable, args, workingDir?, limit?⟩

/-- The order to launch a tool as a configuration wants it. -/
def orderUnder (tool : ReadyTool) (config : HostConfig) (args : List String) : Launch :=
  tool.order args (if config.chdirToTool then some tool.dir else none) config.timeout?

/-- The exit code of a tool that ended; one that a signal killed counts from 128 on. -/
def exitCode (tool : ReadyTool) (order : Launch) : Except OsError Watched → Except Problem Nat
  | .error e => .error (.notStarted tool.executable e)
  | .ok (.ended (.exited code)) => .ok code
  | .ok (.ended (.killed signal)) => .ok (128 + signal)
  | .ok (.ended .overtime) => .error (.overtime tool.id (order.limit?.getD ⟨0⟩))
  | .ok (.untold reason) => .error (.notAwaited tool.id reason)
  | .ok (.unkilled reason) => .error (.notKilled tool.id reason)

/-- Launches a tool and waits for its exit code. -/
def launch (tool : ReadyTool) (m : Machine) (order : Launch) : Except Problem Nat × Machine :=
  let (watched, m) := m.launch order
  (tool.exitCode order watched, m)

end ReadyTool
end ToolHost
