import Mathlib.Data.List.Basic
import ToolHost.Program.Options

/-! Which of the places that could say something about a configuration is listened to. One source is
loaded and decides between success and failure; the environment and the options are then laid over
it, field by field. -/
namespace ToolHost

namespace HostConfig

/-- Where a configuration is taken from before anything is laid over it. -/
inductive Source where
  | file (path : Path)
  /-- No file is named, so the configuration says nothing. -/
  | nowhere
  deriving DecidableEq, Repr

def Source.load (m : Machine) : Source → Except Problem HostConfig
  | file path => HostConfig.load m path
  | nowhere => .ok .default

end HostConfig

/-- The base directory that the environment asks for. An empty one counts for nothing. -/
def Machine.askedBaseDir? (m : Machine) : Option Path :=
  (m.setting? HostConfig.baseDirVariable).filter (· ≠ "")

theorem HostConfig.applyEnv_eq (config : HostConfig) (m : Machine) :
    config.applyEnv m = { config with baseDir? := m.askedBaseDir?.or config.baseDir? } := by
  unfold applyEnv Machine.askedBaseDir?
  cases m.setting? baseDirVariable with
  | none => rfl
  | some dir =>
    by_cases hdir : dir = ""
    · simp [hdir, Option.filter]
    · simp [hdir, Option.filter]

/-- A file with an empty name is never there. -/
theorem FileTree.readText_empty (t : FileTree) (cwd : Place) :
    t.readText cwd "" = .error .notFound := by
  have hrefused : refusal? "" = some .notFound := rfl
  simp only [readText, read, find, locate, hrefused]

namespace Program
variable {o : Options} {m : Machine} {source config : HostConfig}

/-- The one source that is loaded: the file that the options name, else the file that the
environment names, be it by an empty name. -/
def Options.chosenSource (o : Options) (m : Machine) : HostConfig.Source :=
  match o.config?, m.setting? HostConfig.fileVariable with
  | some path, _ => .file path
  | none, some path => .file path
  | none, none => .nowhere

/-- What the options and the environment make of the configuration of a source. -/
structure Overlaid (o : Options) (m : Machine) (source config : HostConfig) : Prop where
  /-- The options go before the environment, and that goes before the source. -/
  baseDir : config.baseDir? = o.baseDir?.or (m.askedBaseDir?.or source.baseDir?)
  /-- The environment does not limit the time. -/
  timeout : config.timeoutSecs? = o.timeoutSecs?.or source.timeoutSecs?
  /-- The options can only add this. -/
  chdir : config.chdirToTool = (source.chdirToTool || o.chdirToTool)
  tools : config.tools = source.tools

theorem overlaid_iff : Overlaid o m source config ↔
    config = { source with
      baseDir? := o.baseDir?.or (m.askedBaseDir?.or source.baseDir?)
      timeoutSecs? := o.timeoutSecs?.or source.timeoutSecs?
      chdirToTool := source.chdirToTool || o.chdirToTool } := by
  obtain ⟨baseDir?, timeoutSecs?, chdirToTool, tools⟩ := config
  constructor
  · rintro ⟨hbase, htime, hchdir, htools⟩
    subst hbase htime hchdir htools
    rfl
  · intro h
    cases h
    exact ⟨rfl, rfl, rfl, rfl⟩

/-- Both ways to a source come to the same: it is loaded, and the environment is laid over it. -/
theorem Options.source_eq (o : Options) (m : Machine) :
    o.source m = ((o.chosenSource m).load m).map fun source => source.applyEnv m := by
  unfold source chosenSource
  cases o.config? with
  | some path => rfl
  | none =>
    dsimp only
    unfold HostConfig.loadDefault
    cases m.setting? HostConfig.fileVariable with
    | some path => rfl
    | none => rfl

theorem Options.hostConfig_eq_ok_iff : o.hostConfig m = .ok config ↔
    ∃ source, (o.chosenSource m).load m = .ok source ∧ Overlaid o m source config := by
  rw [hostConfig, source_eq]
  cases (o.chosenSource m).load m with
  | error problem => simp [Except.map]
  | ok source =>
    simp only [Except.map, HostConfig.applyEnv_eq, Except.ok.injEq, exists_eq_left',
      overlaid_iff]
    exact eq_comm

/-- Nothing but the source can be a problem. -/
theorem Options.hostConfig_eq_error_iff {problem : Problem} : o.hostConfig m = .error problem ↔
    (o.chosenSource m).load m = .error problem := by
  rw [hostConfig, source_eq]
  cases (o.chosenSource m).load m with
  | error other => exact Iff.rfl
  | ok source => exact iff_of_false (fun h => by cases h) (fun h => by cases h)

/-- A file that the options name leaves nothing to ask of the environment but the base directory. -/
theorem Options.hostConfig_congr {m' : Machine} {path : Path} (hpath : o.config? = some path)
    (hfiles : m'.files = m.files) (hcwd : m'.cwd = m.cwd)
    (hbase : m'.setting? HostConfig.baseDirVariable = m.setting? HostConfig.baseDirVariable) :
    o.hostConfig m' = o.hostConfig m := by
  have hload : HostConfig.load m' path = HostConfig.load m path := by
    rw [HostConfig.load, HostConfig.load, hfiles, hcwd]
  have henv (config : HostConfig) : config.applyEnv m' = config.applyEnv m := by
    rw [HostConfig.applyEnv, HostConfig.applyEnv, hbase]
  simp only [hostConfig, source, hpath, hload, henv]

/-- There is a configuration exactly if the one chosen source can be loaded, and else the problem
with that source is reported. The options and the environment are laid over what is loaded. If the
options name a file, the one that the environment names is not looked at: with any other, or none, the
outcome is the same. If they name none, an empty name in the environment is one of a file, which
cannot be read. -/
theorem hostConfig_precedence (o : Options) (m : Machine) :
    ((∃ config, o.hostConfig m = .ok config) ↔
      ∃ source, (o.chosenSource m).load m = .ok source) ∧
    (∀ config, o.hostConfig m = .ok config →
      ∃ source, (o.chosenSource m).load m = .ok source ∧ Overlaid o m source config) ∧
    (∀ problem, o.hostConfig m = .error problem ↔
      (o.chosenSource m).load m = .error problem) ∧
    (∀ path, o.config? = some path → ∀ m' : Machine, m'.files = m.files → m'.cwd = m.cwd →
      m'.setting? HostConfig.baseDirVariable = m.setting? HostConfig.baseDirVariable →
      o.hostConfig m' = o.hostConfig m) ∧
    (o.config? = none → m.setting? HostConfig.fileVariable = some "" →
      o.hostConfig m = .error (.unreadableConfig "" .notFound)) := by
  refine ⟨⟨?_, ?_⟩, fun _ => Options.hostConfig_eq_ok_iff.mp,
    fun _ => Options.hostConfig_eq_error_iff, ?_, ?_⟩
  · rintro ⟨config, hconfig⟩
    obtain ⟨source, hload, -⟩ := Options.hostConfig_eq_ok_iff.mp hconfig
    exact ⟨source, hload⟩
  · rintro ⟨source, hload⟩
    exact ⟨_, Options.hostConfig_eq_ok_iff.mpr ⟨source, hload, overlaid_iff.mpr rfl⟩⟩
  · intro path hpath m' hfiles hcwd hbase
    exact Options.hostConfig_congr hpath hfiles hcwd hbase
  · intro hoption hvariable
    rw [Options.hostConfig_eq_error_iff]
    simp only [Options.chosenSource, hoption, hvariable, HostConfig.Source.load, HostConfig.load,
      FileTree.readText_empty]

end Program
end ToolHost
