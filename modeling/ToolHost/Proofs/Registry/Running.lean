import ToolHost.Proofs.Registry.Ledger
import ToolHost.Proofs.Registry.Moves
import ToolHost.Proofs.Tool.CheckedFile

/-! What it does to a registry to run a tool: no more than to ask for it. What becomes of the program
is seen on the machine and in the answer alone. A tool that is kept is launched as it is kept, without
looking for its file again; so when the file is gone, it is left to the start to fail, which it does
unless the path leads the new program elsewhere. -/
namespace ToolHost.Registry
open CommandLine

/-- What a new registry comes to while questions for tools take their steps, in any order and each on
the machine as it is by then, and tools are given up. -/
inductive Reached (config : HostConfig) : Registry → List Question → Prop where
  | new (number : Nat) : Reached config (.new number config) []
  | asks {r : Registry} {questions : List Question} (id : ToolId) (h : Reached config r questions) :
    Reached config r (questions ++ [⟨id, .asked⟩])
  | steps {r : Registry} {questions : List Question} {index : Nat} {q : Question} (m : Machine)
    (hq : questions[index]? = some q) (h : Reached config r questions) :
    Reached config (r.step m q).2 (questions.set index (r.step m q).1)
  | unloads {r : Registry} {questions : List Question} (id : ToolId)
    (h : Reached config r questions) : Reached config (r.unload id).2 questions

/-- The order to launch a tool with a line under a configuration. -/
def lineOrder (config : HostConfig) (tool : ReadyTool) (line : String) : Launch where
  executable := tool.executable
  args := tokenize line
  workingDir? := if config.chdirToTool then some tool.dir else none
  limit? := config.timeout?

/-- What comes of launching a tool once: the answer, and the machine afterwards. -/
inductive Launched (m : Machine) (tool : ReadyTool) (order : Launch) :
    Except Problem Nat → Machine → Prop where
  | refused {e : OsError} (h : m.prepare order = .error e) :
    Launched m tool order (.error (.notStarted tool.executable e)) m
  /-- One program is started. What is learnt of its end, whatever it is, decides the answer. -/
  | started {prepared : Prepared} {watched : Watched} {after : Machine}
    (h : m.prepare order = .ok prepared) (hlaunch : m.launch order = (.ok watched, after))
    (hstarted : after.started = ⟨prepared.program, order⟩ :: m.started) :
    Launched m tool order (tool.exitCode order (.ok watched)) after

section Reached
variable {config : HostConfig} {r : Registry} {questions : List Question} {m : Machine}
  {id : ToolId} {cell : CellId} {q q' : Question} {r' : Registry}

theorem Move.config_eq (h : Move m r q q' r') : r'.config = r.config := by
  cases h with
  | fetches => exact config_fetch
  | finds | fails | rests | fills => rfl
  | @discards id cell _ =>
    rcases r.discard_cases id cell with hd | ⟨hd, -⟩
    · rw [hd]
    · rw [hd]
      rfl

theorem Reached.config_eq (h : Reached config r questions) : r.config = config := by
  induction h with
  | new => rfl
  | asks _ _ ih => exact ih
  | steps m _ _ ih => rw [(move_step m _ _).config_eq, ih]
  | unloads _ _ ih => exact ih

/-- Every slot has a cell that has been made. -/
theorem Reached.made (h : Reached config r questions) (hs : r.slot? id = some cell) :
    cell < r.cells.length := by
  induction h with
  | new => cases hs
  | asks _ _ ih => exact ih hs
  | @steps r _ _ q m _ _ ih =>
    have hm := move_step m r q
    rcases hm.slot?_cases hs with hold | ⟨-, rfl, hlt⟩
    · exact Nat.lt_of_lt_of_le (ih hold) hm.length_le
    · exact hlt
  | unloads _ _ ih => exact ih (slot?_of_dropSlot hs)

/-- Asking for a tool leads to a registry of the same kind. -/
theorem Reached.context (h : Reached config r questions) (m : Machine) (id : ToolId) :
    ∃ questions', Reached config (r.context m id).2 questions' := by
  have hindex {last : Question} : (questions ++ [last])[questions.length]? = some last := by simp
  have hset {last next : Question} : (questions ++ [last]).set questions.length next =
      questions ++ [next] := by
    simp
  have hsteps := step_step_step m r id
  have hasked := h.asks id
  have hfetched := hasked.steps m hindex
  rw [hset] at hfetched
  have hfilled := hfetched.steps m hindex
  rw [hset] at hfilled
  have hended := hfilled.steps m hindex
  rw [hset] at hended
  rw [show (r.context m id).2 = _ from (congrArg Prod.snd hsteps).symm]
  exact ⟨_, hended⟩

/-- A tool that is not found leaves no slot, though others may hold its cell. -/
theorem slot?_context_of_error {problem : Problem} (h : (r.context m id).1 = .error problem) :
    (r.context m id).2.slot? id = none := by
  rcases r.context_cases m id with ⟨tool, -, heq⟩ | ⟨tool, heq⟩ | ⟨other, hc, heq⟩
  · rw [heq] at h
    cases h
  · rw [heq] at h
    cases h
  · rw [heq, discard_of_stale (slot?_fetch r id) hc, slot?_dropSlot_self]

variable {line : String} {shared : Shared}

theorem run_of_context_error {problem : Problem} (h : (r.context m id).1 = .error problem) :
    r.run m id line = (.error problem, (r.context m id).2, m) := by
  rw [Registry.run]
  generalize r.context m id = result at h ⊢
  obtain ⟨answer, after⟩ := result
  cases h
  rfl

theorem Reached.run_of_context_ok (h : Reached config r questions)
    (hok : (r.context m id).1 = .ok shared) : r.run m id line =
      ((shared.tool.launch m (lineOrder config shared.tool line)).1, (r.context m id).2,
        (shared.tool.launch m (lineOrder config shared.tool line)).2) := by
  obtain ⟨_, hafter⟩ := h.context m id
  have hconfig := hafter.config_eq
  rw [Registry.run]
  generalize r.context m id = result at hok hconfig ⊢
  obtain ⟨answer, after⟩ := result
  cases hok
  dsimp only at hconfig ⊢
  rw [hconfig]
  rfl

end Reached

section Launched
variable {config : HostConfig} {m : Machine} {tool : ReadyTool} {order : Launch} {line : String}

theorem launched (m : Machine) (tool : ReadyTool) (order : Launch) :
    Launched m tool order (tool.launch m order).1 (tool.launch m order).2 := by
  cases h : m.prepare order with
  | error e =>
    rw [ReadyTool.launch, Machine.launch_of_prepare_error h]
    exact .refused h
  | ok prepared =>
    have hstarted := Machine.started_launch h
    have hwatched : ∃ watched after, m.launch order = (.ok watched, after) := by
      simp only [Machine.launch, h]
      exact ⟨_, _, rfl⟩
    obtain ⟨watched, after, hlaunch⟩ := hwatched
    rw [hlaunch] at hstarted
    rw [ReadyTool.launch, hlaunch]
    exact .started h hlaunch hstarted

/-- Only what was not started is answered as such. -/
theorem Launched.prepare_of_notStarted {answer : Except Problem Nat} {after : Machine} {path : Path}
    {e : OsError} (h : Launched m tool order answer after)
    (ha : answer = .error (.notStarted path e)) : m.prepare order = .error e := by
  cases h with
  | refused h =>
    cases ha
    exact h
  | @started _ watched =>
    cases watched with
    | ended ending => cases ending <;> cases ha
    | untold | unkilled => cases ha

/-- A path by which a new program is sure to find what the host finds by it. -/
def Fixed (config : HostConfig) (path : Path) : Prop :=
  Path.isAbsolute path = true ∨ config.chdirToTool = false ∧ '/' ∈ path.toList

/-- What is started behind a fixed path is there. -/
theorem exists_find_of_prepare {prepared : Prepared} (hfixed : Fixed config tool.executable)
    (h : m.prepare (lineOrder config tool line) = .ok prepared) :
    ∃ found, m.files.find m.cwd tool.executable = .ok found := by
  obtain ⟨-, hdir, path, hfound⟩ := Machine.exists_found_of_prepare h
  have hslash : '/' ∈ tool.executable.toList := by
    rcases hfixed with habs | ⟨-, hslash⟩
    · exact Path.slash_mem_of_isAbsolute habs
    · exact hslash
  have hexe : m.files.executableAt prepared.cwd tool.executable = .ok prepared.program :=
    (FileTree.exists_findProgram_iff_of_slash hslash _).mp ⟨path, hfound⟩
  have hhere : m.files.executableAt m.cwd tool.executable = .ok prepared.program := by
    rcases hfixed with habs | ⟨hstay, -⟩
    · rwa [FileTree.executableAt_of_isAbsolute habs m.cwd prepared.cwd]
    · have hcwd : m.directoryFor (lineOrder config tool line) = .ok m.cwd :=
        ReadyTool.directoryFor_of_staying hstay
      rw [hcwd, Except.ok.injEq] at hdir
      rwa [hdir]
  obtain ⟨node, hfind⟩ := FileTree.exists_find_of_executableAt hhere
  exact ⟨_, hfind⟩

end Launched

section Run
variable {config : HostConfig} {r : Registry} {questions : List Question} {m : Machine}
  {id : ToolId} {line : String} {shared : Shared}

/-- A tool that is kept though its file is gone: it is not started, unless its path is not fixed and
leads the new program to another one. -/
theorem Reached.run_of_missing {e : OsError} (h : Reached config r questions)
    (hkept : r.kept? id = some shared)
    (hgone : m.files.find m.cwd shared.tool.executable = .error e) :
    (∃ e', r.run m id line = (.error (.notStarted shared.tool.executable e'), r, m)) ∨
      ¬ Fixed config shared.tool.executable ∧
        ∃ prepared, m.prepare (lineOrder config shared.tool line) = .ok prepared := by
  have hcontext := context_of_kept? hkept m
  have hok : (r.context m id).1 = .ok shared := by rw [hcontext]
  cases hprepare : m.prepare (lineOrder config shared.tool line) with
  | error e' =>
    refine .inl ⟨e', ?_⟩
    rw [h.run_of_context_ok hok, hcontext, ReadyTool.launch, Machine.launch_of_prepare_error hprepare]
    rfl
  | ok prepared =>
    refine .inr ⟨fun hfixed => ?_, prepared, rfl⟩
    obtain ⟨found, hfound⟩ := exists_find_of_prepare hfixed hprepare
    cases hgone.symm.trans hfound

/-- Running a tool does to the registry what asking for it does. If that fails, so does the run, for
the same reason; nothing is started, and the tool has no slot. Else the tool is launched once, as it
was given, with the words of the line and as the configuration wants it, and it is kept, whatever
comes of the launch. A tool that is kept is not looked for again, and if its file is gone, the start
alone can fail. It does fail behind a fixed path, and elsewhere if nothing else is found. -/
theorem run_goes_by_context (h : Reached config r questions) (m : Machine) (id : ToolId)
    (line : String) :
    (r.run m id line).2.1 = (r.context m id).2 ∧
    (∀ problem, (r.context m id).1 = .error problem →
      r.run m id line = (.error problem, (r.context m id).2, m) ∧
        (r.context m id).2.slot? id = none) ∧
    (∀ shared, (r.context m id).1 = .ok shared →
      Launched m shared.tool (lineOrder config shared.tool line)
        (r.run m id line).1 (r.run m id line).2.2 ∧
      (r.run m id line).2.1.kept? id = some shared) ∧
    ∀ shared, r.kept? id = some shared → r.context m id = (.ok shared, r) ∧
      ∀ e, m.files.find m.cwd shared.tool.executable = .error e →
        (∃ e', r.run m id line = (.error (.notStarted shared.tool.executable e'), r, m)) ∨
          ¬ Fixed config shared.tool.executable ∧
            ∃ prepared, m.prepare (lineOrder config shared.tool line) = .ok prepared := by
  have hregistry : (r.run m id line).2.1 = (r.context m id).2 := by
    cases hanswer : (r.context m id).1 with
    | error problem => rw [run_of_context_error hanswer]
    | ok shared => rw [h.run_of_context_ok hanswer]
  refine ⟨hregistry, fun problem herror => ?_, fun shared hok => ⟨?_, ?_⟩, fun shared hkept => ?_⟩
  · exact ⟨run_of_context_error herror, slot?_context_of_error herror⟩
  · rw [h.run_of_context_ok hok]
    exact launched m shared.tool (lineOrder config shared.tool line)
  · rw [hregistry]
    exact kept?_of_context_ok (fun _ => h.made) hok
  · exact ⟨context_of_kept? hkept m, fun _ hgone => h.run_of_missing hkept hgone⟩

/-- The machine of the absolute tool without its file. -/
def emptiedMachine : Machine :=
  Scene.machineWith ((FileTree.empty.put ["opt"] (.directory false ⟨0o755, 0⟩)).put
    ["opt", "bin"] (.directory false ⟨0o755, 0⟩))

/-- A tool behind an absolute path stays in use when its file is gone, and only its start fails. -/
theorem run_without_file_fails :
    let r := ((new 0 ReadyTool.absoluteConfig).context ReadyTool.absoluteMachine (.other "t")).2
    r.kept? (.other "t") = some ⟨0, ⟨.other "t", "/opt/bin", "/opt/bin/run"⟩⟩ ∧
      (emptiedMachine.files.find emptiedMachine.cwd "/opt/bin/run").isOk = false ∧
      ∃ e, r.run emptiedMachine (.other "t") "a b" =
        (.error (.notStarted "/opt/bin/run" e), r, emptiedMachine) := by
  intro r
  have hnew : Reached ReadyTool.absoluteConfig (.new 0 ReadyTool.absoluteConfig) [] := .new 0
  obtain ⟨questions, hreached⟩ := hnew.context ReadyTool.absoluteMachine (.other "t")
  have hkept : r.kept? (.other "t") = some ⟨0, ⟨.other "t", "/opt/bin", "/opt/bin/run"⟩⟩ := by
    decide +kernel
  obtain ⟨-, -, -, hrun⟩ := run_goes_by_context hreached emptiedMachine (.other "t") "a b"
  obtain ⟨-, hmissing⟩ := hrun _ hkept
  have hgone : (emptiedMachine.files.find emptiedMachine.cwd "/opt/bin/run").isOk = false := by
    decide +kernel
  refine ⟨hkept, hgone, ?_⟩
  cases hfind : emptiedMachine.files.find emptiedMachine.cwd "/opt/bin/run" with
  | ok found =>
    rw [hfind] at hgone
    cases hgone
  | error e =>
    rcases hmissing e hfind with hfails | ⟨hfree, -⟩
    · exact hfails
    · exact absurd (.inl (by decide +kernel)) hfree

/-- The machine of the relative tool without the file that is looked for. -/
def divertedMachine : Machine :=
  Scene.machineWith (((FileTree.empty.put ["tools"] (.directory false ⟨0o755, 0⟩)).put
    ["tools", "tools"] (.directory false ⟨0o755, 0⟩)).put ["tools", "tools", "run"] (.program "false"))

/-- A tool whose file is gone is not always refused: behind a relative path the new program finds
another one when it has entered the directory of the tool. -/
theorem missing_tool_may_start :
    ¬ ∀ (config : HostConfig) (r : Registry) (questions : List Question) (m : Machine) (id : ToolId)
      (line : String) (shared : Shared), Reached config r questions → r.kept? id = some shared →
      (m.files.find m.cwd shared.tool.executable).isOk = false →
      ∃ e, (r.run m id line).1 = .error (.notStarted shared.tool.executable e) := by
  intro h
  have hnew : Reached ReadyTool.relativeConfig (.new 0 ReadyTool.relativeConfig) [] := .new 0
  obtain ⟨questions, hreached⟩ := hnew.context ReadyTool.relativeMachine (.other "t")
  have hkept : kept? ((new 0 ReadyTool.relativeConfig).context ReadyTool.relativeMachine
      (.other "t")).2 (.other "t") = some ⟨0, ⟨.other "t", "tools/", "tools/run"⟩⟩ := by
    decide +kernel
  obtain ⟨e, hfails⟩ := h _ _ _ divertedMachine (.other "t") "" _ hreached hkept (by decide +kernel)
  have hok := congrArg Prod.fst (context_of_kept? hkept divertedMachine)
  have hprepare : divertedMachine.prepare
      (lineOrder ReadyTool.relativeConfig ⟨.other "t", "tools/", "tools/run"⟩ "") =
        .ok ⟨["tools", "tools", "run"], ["tools"], ⟨"false", [], none⟩⟩ := by
    decide +kernel
  rw [hreached.run_of_context_ok hok] at hfails
  have hlaunched := launched divertedMachine ⟨.other "t", "tools/", "tools/run"⟩
    (lineOrder ReadyTool.relativeConfig ⟨.other "t", "tools/", "tools/run"⟩ "")
  cases (hlaunched.prepare_of_notStarted hfails).symm.trans hprepare

end Run

end ToolHost.Registry
