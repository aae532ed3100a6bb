import ToolHost.Program.Run
import ToolHost.Proofs.Machine.Starting
import ToolHost.Proofs.Registry.Ledger
import ToolHost.Proofs.Registry.Sharing

/-! The stages of a run: the configuration, the command line, the search for the tool and its start.
Each stage is reached only behind the one before it, and a child only behind all of them. -/
namespace ToolHost
open CommandLine

namespace Registry
variable {number : Nat} {config : HostConfig} {m : Machine} {id : ToolId}

/-- A new registry looks for a tool under its own configuration. -/
theorem run_new_of_resolve_error {problem : Problem} (h : config.resolve m id = .error problem)
    (line : String) : ∃ r, (new number config).run m id line = (.error problem, r, m) := by
  have hslot : (new number config).slot? id = none := rfl
  rw [Registry.run, context_of_resolve_error hslot h]
  exact ⟨_, rfl⟩

theorem run_new_of_resolve_ok {tool : ReadyTool} (h : config.resolve m id = .ok tool)
    (line : String) : ∃ r, (new number config).run m id line =
      ((tool.launch m (tool.orderUnder config (tokenize line))).1, r,
        (tool.launch m (tool.orderUnder config (tokenize line))).2) := by
  have hslot : (new number config).slot? id = none := rfl
  rw [Registry.run, context_of_resolve_ok hslot h]
  exact ⟨_, rfl⟩

end Registry

namespace Program
variable {o : Options} {m : Machine} {config : HostConfig} {line : String}

/-- The words that options have for the tool. -/
def Options.toolWords (o : Options) : List String :=
  match o.line? with
  | some line => tokenize line
  | none => o.args

/-- A command line that is accepted comes apart into the words for the tool. -/
theorem Options.tokenize_commandLine (h : o.commandLine = .ok line) :
    tokenize line = o.toolWords := by
  unfold Options.commandLine at h
  unfold Options.toolWords
  cases hline : o.line? with
  | some given =>
    rw [hline] at h
    cases h
    rfl
  | none =>
    rw [hline] at h
    dsimp only at h
    split at h
    · rename_i hback
      cases h
      exact hback
    · split at h <;> cases h

/-- The problem of the first stage that fails. -/
inductive FirstFailure (o : Options) (m : Machine) : Problem → Prop where
  | config {problem : Problem} (h : o.hostConfig m = .error problem) : FirstFailure o m problem
  | commandLine {config : HostConfig} {problem : Problem} (hc : o.hostConfig m = .ok config)
    (h : o.commandLine = .error problem) : FirstFailure o m problem
  | resolution {config : HostConfig} {line : String} {problem : Problem}
    (hc : o.hostConfig m = .ok config) (hl : o.commandLine = .ok line)
    (h : config.resolve m o.tool = .error problem) : FirstFailure o m problem
  | start {config : HostConfig} {line : String} {tool : ReadyTool} {e : OsError}
    (hc : o.hostConfig m = .ok config) (hl : o.commandLine = .ok line)
    (ht : config.resolve m o.tool = .ok tool)
    (h : m.prepare (tool.orderUnder config o.toolWords) = .error e) :
    FirstFailure o m (.notStarted tool.executable e)

/-- What is started when no stage fails: the tool that is found under the configuration of the
options, with their words. -/
structure Passed (o : Options) (m : Machine) (child : Started) : Prop where
  stages : ∃ config line tool prepared, o.hostConfig m = .ok config ∧ o.commandLine = .ok line ∧
    config.resolve m o.tool = .ok tool ∧ m.prepare child.launch = .ok prepared ∧
    child.launch = tool.orderUnder config o.toolWords ∧ child.program = prepared.program

theorem Passed.args {child : Started} (h : Passed o m child) : child.launch.args = o.toolWords := by
  obtain ⟨config, line, tool, prepared, -, -, -, -, hlaunch, -⟩ := h.stages
  rw [hlaunch]
  rfl

/-- All ways to a tool lead to the registry of the process. -/
theorem runHosted_eq (m : Machine) (g : Registry.Global) (id : ToolId) (line : String) :
    runHosted m g id line = g.run m id line := by
  cases id <;> rfl

/-- Behind the first two stages, a registry of its own runs the tool. -/
theorem runTool_eq (hc : o.hostConfig m = .ok config) (hl : o.commandLine = .ok line) :
    runTool o m = (((Registry.new 0 config).run m o.tool line).1,
      ((Registry.new 0 config).run m o.tool line).2.2) := by
  simp only [runTool, hc, hl, runHosted_eq]
  rfl

/-- Either a stage fails, and its problem is all that comes of it, or one program is started. -/
theorem runTool_cases (o : Options) (m : Machine) :
    (∃ problem, FirstFailure o m problem ∧ runTool o m = (.error problem, m)) ∨
      ∃ child, Passed o m child ∧ (runTool o m).2.started = child :: m.started := by
  cases hc : o.hostConfig m with
  | error problem =>
    refine .inl ⟨problem, .config hc, ?_⟩
    simp only [runTool, hc]
  | ok config =>
    cases hl : o.commandLine with
    | error problem =>
      refine .inl ⟨problem, .commandLine hc hl, ?_⟩
      simp only [runTool, hc, hl]
    | ok line =>
      rw [runTool_eq hc hl]
      cases ht : config.resolve m o.tool with
      | error problem =>
        obtain ⟨r, hrun⟩ := Registry.run_new_of_resolve_error ht line
        rw [hrun]
        exact .inl ⟨problem, .resolution hc hl ht, rfl⟩
      | ok tool =>
        obtain ⟨r, hrun⟩ := Registry.run_new_of_resolve_ok ht line
        rw [hrun, Options.tokenize_commandLine hl]
        cases hp : m.prepare (tool.orderUnder config o.toolWords) with
        | error e =>
          refine .inl ⟨_, .start hc hl ht hp, ?_⟩
          rw [ReadyTool.launch, Machine.launch_of_prepare_error hp]
          rfl
        | ok prepared =>
          refine .inr ⟨⟨prepared.program, tool.orderUnder config o.toolWords⟩, ?_, ?_⟩
          · exact ⟨config, line, tool, prepared, hc, hl, ht, hp, rfl, rfl⟩
          · exact Machine.started_launch hp

/-- Opening the report starts nothing. -/
theorem started_openLog (m : Machine) (stamp : String) : (openLog m stamp).started = m.started := by
  unfold openLog
  split
  · rfl
  · dsimp only
    split
    · rfl
    · rfl

/-- A run with words that can be read starts one program, the tool with exactly its words, or none.
It starts none only if a stage fails; then the first one that does is reported, and the exit code
is 1. -/
theorem run_starts_tool_or_reports (words : List String) (stamp : String) (m : Machine)
    {o : Options} (h : Options.ofWords words = .ok o) :
    (∃ child, (run words stamp m).2.started = child :: m.started ∧
        Passed o (openLog m stamp) child ∧ child.launch.args = o.toolWords) ∨
      ∃ problem, FirstFailure o (openLog m stamp) problem ∧
        (run words stamp m).2.started = m.started ∧
        run words stamp m =
          (1, (openLog m stamp).complain s!"{programName}: {problem.message}\n") := by
  simp only [run, h]
  rcases runTool_cases o (openLog m stamp) with ⟨problem, hfailure, hrun⟩ | ⟨child, hpassed, hrun⟩
  · rw [hrun]
    exact .inr ⟨problem, hfailure, started_openLog m stamp, rfl⟩
  · refine .inl ⟨child, ?_, hpassed, hpassed.args⟩
    rw [← started_openLog m stamp, ← hrun]
    generalize runTool o (openLog m stamp) = result
    obtain ⟨answer, after⟩ := result
    cases answer <;> rfl

def lineWords : List String := ["--line", "a \"b c\"", "SQLiteCompare"]

def lineOptions : Options := ⟨none, none, none, false, some "a \"b c\"", .sqliteCompare, []⟩

/-- A machine with the tool in its built-in place. -/
def lineMachine : Machine :=
  Registry.Scene.machineWith (((FileTree.empty.put ["SQLiteCompare"] (.directory false ⟨0o755, 0⟩)).put
    ["SQLiteCompare", "bin"] (.directory false ⟨0o755, 0⟩)).put
      ["SQLiteCompare", "bin", "SQLiteCompare"] (.program "true"))

/-- The tool is started with the words into which a line of its own comes apart. -/
theorem run_line_starts_tool :
    Options.ofWords lineWords = .ok lineOptions ∧
      ∃ child, (run lineWords "0" lineMachine).2.started = [child] ∧
        Passed lineOptions (openLog lineMachine "0") child ∧ child.launch.args = ["a", "b c"] := by
  have hwords : Options.ofWords lineWords = .ok lineOptions := by decide +kernel
  have hone : (run lineWords "0" lineMachine).2.started.length = 1 := by decide +kernel
  refine ⟨hwords, ?_⟩
  rcases run_starts_tool_or_reports lineWords "0" lineMachine hwords with
    ⟨child, hstarted, hpassed, hargs⟩ | ⟨problem, -, hnone, -⟩
  · have htool : lineOptions.toolWords = ["a", "b c"] := by decide +kernel
    exact ⟨child, hstarted, hpassed, hargs.trans htool⟩
  · rw [hnone] at hone
    cases hone

end Program
end ToolHost
