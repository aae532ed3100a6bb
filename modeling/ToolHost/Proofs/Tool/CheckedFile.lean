import ToolHost.Config.Reader
import ToolHost.Proofs.Machine.Starting
import ToolHost.Proofs.Registry.Sharing
import ToolHost.Tool.Ready

/-! Whether the file that is started is the file that was there when the tool was looked for. The
host sees the tool's path from its own directory. The new program sees it from the directory it has
entered, and looks a bare name up elsewhere; so a path that is not absolute may lead it to another
file, or to none. -/
namespace ToolHost

namespace FileTree
variable {t : FileTree} {cwd place : Place} {path : Path}

theorem findProgram_of_slash (h : '/' ∈ path.toList) (dirs : List Path) :
    t.findProgram cwd dirs path = (t.executableAt cwd path).map fun place => (path, place) := by
  have hne : path ≠ "" := by
    rintro rfl
    cases h
  rw [findProgram, if_neg hne, if_pos h]

theorem findProgram_of_bare (hne : path ≠ "") (h : '/' ∉ path.toList) (dirs : List Path) :
    t.findProgram cwd dirs path = t.search cwd path false dirs := by
  rw [findProgram, if_neg hne, if_neg h]

theorem exists_findProgram_iff_of_slash (h : '/' ∈ path.toList) (dirs : List Path) :
    (∃ found, t.findProgram cwd dirs path = .ok (found, place)) ↔
      t.executableAt cwd path = .ok place := by
  rw [findProgram_of_slash h]
  cases t.executableAt cwd path with
  | error e => simp [Except.map]
  | ok other => simp [Except.map]

end FileTree

namespace ReadyTool
variable {config : HostConfig} {m : Machine} {id : ToolId} {layout : Layout} {tool : ReadyTool}
  {place : Place} {args : List String}

/-- When a new program finds under the path of its tool the file that the host has found there. -/
inductive FoundAgain (config : HostConfig) (m : Machine) (layout : Layout) (tool : ReadyTool)
    (place : Place) : Prop where
  /-- The path leads to the same file from everywhere. Only a tool whose file is named by an absolute
  path of its own may have no directory that can be entered. -/
  | absolute (h : Path.isAbsolute tool.executable = true)
    (hdir : config.chdirToTool = true → Path.isAbsolute layout.executable = true →
      ∃ dir, m.files.enter m.cwd tool.dir = .ok dir)
  /-- The new program sees the path from where the host does. -/
  | staying (h : config.chdirToTool = false) (hpath : '/' ∈ tool.executable.toList)
  /-- A bare name leads to the same file by the search for programs. -/
  | searched {path : Path} (h : config.chdirToTool = false)
    (hpath : '/' ∉ tool.executable.toList)
    (hfound : m.files.search m.cwd tool.executable false m.searchPath = .ok (path, place))
  /-- The path leads to the same file from the directory of the tool. -/
  | moving {dir : Place} (h : config.chdirToTool = true)
    (hdir : m.files.enter m.cwd tool.dir = .ok dir)
    (hfound : m.files.executableAt dir tool.executable = .ok place)

theorem directoryFor_of_staying (h : config.chdirToTool = false) :
    m.directoryFor (tool.orderUnder config args) = .ok m.cwd := by
  simp [Machine.directoryFor, orderUnder, order, h]

theorem directoryFor_of_moving (h : config.chdirToTool = true) :
    m.directoryFor (tool.orderUnder config args) = m.files.enter m.cwd tool.dir := by
  simp [Machine.directoryFor, orderUnder, order, h]

/-- What is found can be written down, and so can a directory that can be entered. -/
theorem nul_not_mem_wordsOf {found : Place × Node}
    (hx : m.files.find m.cwd tool.executable = .ok found)
    (ha : ∀ arg ∈ args, '\x00' ∉ arg.toList)
    (hdir : config.chdirToTool = true → ∃ dir, m.files.enter m.cwd tool.dir = .ok dir) :
    ∀ word ∈ Machine.wordsOf (tool.orderUnder config args), '\x00' ∉ word.toList := by
  have hpath := FileTree.nul_not_mem_of_refusal? (FileTree.refusal?_of_find hx)
  intro word hword
  rw [Machine.wordsOf, List.cons_append, List.mem_cons, List.mem_append] at hword
  rcases hword with rfl | harg | hwd
  · exact hpath
  · exact ha word harg
  · cases hchdir : config.chdirToTool with
    | false => simp [orderUnder, order, hchdir] at hwd
    | true =>
      have hword : word = tool.dir := by simpa [orderUnder, order, hchdir] using hwd
      obtain ⟨dir, henter⟩ := hdir hchdir
      obtain ⟨_, hfind⟩ := FileTree.exists_find_of_enter henter
      rw [hword]
      exact FileTree.nul_not_mem_of_refusal? (FileTree.refusal?_of_find hfind)

theorem starts_iff_of_staying {found : Place × Node} (h : config.chdirToTool = false)
    (hx : m.files.find m.cwd tool.executable = .ok found) (hp : m.files.IsProgram place)
    (ha : ∀ arg ∈ args, '\x00' ∉ arg.toList) : m.Starts (tool.orderUnder config args) place ↔
      ∃ path, m.files.findProgram m.cwd m.searchPath tool.executable = .ok (path, place) := by
  have hwords : ∀ word ∈ Machine.wordsOf (tool.orderUnder config args), '\x00' ∉ word.toList :=
    nul_not_mem_wordsOf hx ha fun hchdir => by simp [h] at hchdir
  rw [Machine.starts_iff_found hp, directoryFor_of_staying h]
  constructor
  · rintro ⟨-, cwd, hcwd, hfound⟩
    cases hcwd
    exact hfound
  · exact fun hfound => ⟨hwords, m.cwd, rfl, hfound⟩

theorem starts_iff_of_moving {found : Place × Node} (h : config.chdirToTool = true)
    (hx : m.files.find m.cwd tool.executable = .ok found) (hp : m.files.IsProgram place)
    (ha : ∀ arg ∈ args, '\x00' ∉ arg.toList) : m.Starts (tool.orderUnder config args) place ↔
      ∃ dir, m.files.enter m.cwd tool.dir = .ok dir ∧
        ∃ path, m.files.findProgram dir m.searchPath tool.executable = .ok (path, place) := by
  rw [Machine.starts_iff_found hp, directoryFor_of_moving h]
  constructor
  · exact And.right
  · rintro ⟨dir, henter, hfound⟩
    exact ⟨nul_not_mem_wordsOf hx ha fun _ => ⟨dir, henter⟩, dir, henter, hfound⟩

/-- The directory of a tool is there if the tool's file is found in it. -/
theorem exists_enter_dir {found : Place × Node}
    (hj : tool.executable = Path.join tool.dir layout.executable)
    (hx : m.files.find m.cwd tool.executable = .ok found)
    (habs : Path.isAbsolute tool.executable = true)
    (hrel : Path.isAbsolute layout.executable = false) :
    ∃ dir, m.files.enter m.cwd tool.dir = .ok dir := by
  have hne : tool.dir ≠ "" := by
    intro hempty
    rw [hj, hempty, Path.join_empty_left, hrel] at habs
    cases habs
  rw [hj] at hx
  exact FileTree.exists_enter_of_find_join hne hrel hx

/-- A tool whose directory can be entered has no bare name for a path. -/
theorem slash_mem_executable {dir : Place}
    (hj : tool.executable = Path.join tool.dir layout.executable)
    (henter : m.files.enter m.cwd tool.dir = .ok dir) : '/' ∈ tool.executable.toList := by
  obtain ⟨_, hfind⟩ := FileTree.exists_find_of_enter henter
  rw [hj]
  exact Path.slash_mem_join (FileTree.ne_empty_of_refusal? (FileTree.refusal?_of_find hfind)) _

theorem foundAgain_iff_of_staying (h : config.chdirToTool = false)
    (hx : m.files.executableAt m.cwd tool.executable = .ok place) :
    FoundAgain config m layout tool place ↔
      ∃ path, m.files.findProgram m.cwd m.searchPath tool.executable = .ok (path, place) := by
  obtain ⟨_, hfind⟩ := FileTree.exists_find_of_executableAt hx
  have hne := FileTree.ne_empty_of_refusal? (FileTree.refusal?_of_find hfind)
  constructor
  · intro hagain
    cases hagain with
    | absolute habs _ =>
      exact (FileTree.exists_findProgram_iff_of_slash (Path.slash_mem_of_isAbsolute habs) _).mpr hx
    | staying _ hpath => exact (FileTree.exists_findProgram_iff_of_slash hpath _).mpr hx
    | searched _ hpath hfound =>
      rw [FileTree.findProgram_of_bare hne hpath]
      exact ⟨_, hfound⟩
    | moving hchdir => simp [h] at hchdir
  · rintro ⟨path, hfound⟩
    by_cases hpath : '/' ∈ tool.executable.toList
    · exact .staying h hpath
    · rw [FileTree.findProgram_of_bare hne hpath] at hfound
      exact .searched h hpath hfound

theorem foundAgain_iff_of_moving (h : config.chdirToTool = true)
    (hj : tool.executable = Path.join tool.dir layout.executable)
    (hx : m.files.executableAt m.cwd tool.executable = .ok place) :
    FoundAgain config m layout tool place ↔ ∃ dir, m.files.enter m.cwd tool.dir = .ok dir ∧
      ∃ path, m.files.findProgram dir m.searchPath tool.executable = .ok (path, place) := by
  obtain ⟨_, hfind⟩ := FileTree.exists_find_of_executableAt hx
  constructor
  · intro hagain
    cases hagain with
    | absolute habs hdir =>
      have henter : ∃ dir, m.files.enter m.cwd tool.dir = .ok dir := by
        cases hexe : Path.isAbsolute layout.executable with
        | true => exact hdir h hexe
        | false => exact exists_enter_dir hj hfind habs hexe
      obtain ⟨dir, henter⟩ := henter
      rw [FileTree.executableAt_of_isAbsolute habs m.cwd dir] at hx
      exact ⟨dir, henter,
        (FileTree.exists_findProgram_iff_of_slash (Path.slash_mem_of_isAbsolute habs) _).mpr hx⟩
    | staying hchdir => simp [h] at hchdir
    | searched hchdir => simp [h] at hchdir
    | @moving dir _ henter hfound =>
      exact ⟨dir, henter,
        (FileTree.exists_findProgram_iff_of_slash (slash_mem_executable hj henter) _).mpr hfound⟩
  · rintro ⟨dir, henter, hfound⟩
    exact .moving h henter
      ((FileTree.exists_findProgram_iff_of_slash (slash_mem_executable hj henter) _).mp hfound)

/-- A tool has been found whose file is a program. Launching it as its configuration wants starts
that very file if and only if the file is found again under the tool's path: the path is absolute,
or it has a separator and is seen from where the host is, or it leads to the file by chance. -/
theorem starts_checked_file_iff (hl : config.layout? id = some layout)
    (hr : config.resolve m id = .ok tool)
    (hx : m.files.executableAt m.cwd tool.executable = .ok place) (hp : m.files.IsProgram place)
    (ha : ∀ arg ∈ args, '\x00' ∉ arg.toList) :
    m.Starts (tool.orderUnder config args) place ↔ FoundAgain config m layout tool place := by
  obtain ⟨_, hfind⟩ := FileTree.exists_find_of_executableAt hx
  obtain ⟨other, base, hother, htool⟩ := HostConfig.exists_layout_of_resolve hr
  rw [hl, Option.some.injEq] at hother
  subst hother
  have hj : tool.executable = Path.join tool.dir layout.executable := by
    rw [htool]
    rfl
  cases hchdir : config.chdirToTool with
  | false => rw [starts_iff_of_staying hchdir hfind hp ha, foundAgain_iff_of_staying hchdir hx]
  | true => rw [starts_iff_of_moving hchdir hfind hp ha, foundAgain_iff_of_moving hchdir hj hx]

/-- A tool that is to run in its own directory, seen from an absolute base. -/
def absoluteConfig : HostConfig :=
  ⟨some "/opt", none, true, ToolTable.empty.insert "t" ⟨"bin", "run"⟩⟩

def absoluteMachine : Machine :=
  Registry.Scene.machineWith (((FileTree.empty.put ["opt"] (.directory false ⟨0o755, 0⟩)).put
    ["opt", "bin"] (.directory false ⟨0o755, 0⟩)).put ["opt", "bin", "run"] (.program "true"))

/-- The file behind an absolute path is started, also from the directory of the tool. -/
theorem starts_checked_file_absolute :
    absoluteConfig.resolve absoluteMachine (.other "t") =
        .ok ⟨.other "t", "/opt/bin", "/opt/bin/run"⟩ ∧
      absoluteMachine.files.executableAt absoluteMachine.cwd "/opt/bin/run" =
        .ok ["opt", "bin", "run"] ∧
      absoluteMachine.Starts
        (orderUnder ⟨.other "t", "/opt/bin", "/opt/bin/run"⟩ absoluteConfig ["a"])
        ["opt", "bin", "run"] := by
  have hlayout : absoluteConfig.layout? (.other "t") = some ⟨"bin", "run"⟩ := by decide +kernel
  have hresolve : absoluteConfig.resolve absoluteMachine (.other "t") =
      .ok ⟨.other "t", "/opt/bin", "/opt/bin/run"⟩ := by
    decide +kernel
  have hchecked : absoluteMachine.files.executableAt absoluteMachine.cwd "/opt/bin/run" =
      .ok ["opt", "bin", "run"] := by
    decide +kernel
  have hnode : absoluteMachine.files.node? ["opt", "bin", "run"] = some (.program "true") := by
    decide +kernel
  refine ⟨hresolve, hchecked, ?_⟩
  refine (starts_checked_file_iff hlayout hresolve hchecked (FileTree.isProgram_of_node? hnode)
    (by decide)).mpr ?_
  exact .absolute (by decide +kernel) fun _ habs => absurd habs (by decide +kernel)

/-- A tool that is to run in its own directory, seen from a relative base. -/
def relativeText : String :=
  "\x7b\"base_dir\":\"tools\",\"chdir_to_tool\":true,\"tools\":\x7b\"t\":\x7b\"dir\":\"\"," ++
    "\"executable\":\"run\"\x7d\x7d\x7d"

def relativeConfig : HostConfig :=
  ⟨some "tools", none, true, ToolTable.empty.insert "t" ⟨"", "run"⟩⟩

/-- A machine on which the path of that tool leads to another program from the tool's directory. -/
def relativeMachine : Machine :=
  Registry.Scene.machineWith ((((FileTree.empty.put ["tools"] (.directory false ⟨0o755, 0⟩)).put
    ["tools", "run"] (.program "true")).put ["tools", "tools"] (.directory false ⟨0o755, 0⟩)).put
      ["tools", "tools", "run"] (.program "false"))

theorem prepare_relative : relativeMachine.prepare
    (orderUnder ⟨.other "t", "tools/", "tools/run"⟩ relativeConfig []) =
      .ok ⟨["tools", "tools", "run"], ["tools"], ⟨"false", [], none⟩⟩ := by
  decide +kernel

/-- The file that is checked is not always the one that is started: behind a relative path the new
program finds another one when it has entered the directory of the tool. -/
theorem not_always_starts_checked_file :
    ¬ ∀ (text : String) (config : HostConfig) (m : Machine) (id : ToolId) (tool : ReadyTool)
      (place : Place) (args : List String), HostConfig.ofJson text = .ok config →
      config.resolve m id = .ok tool → m.files.executableAt m.cwd tool.executable = .ok place →
      m.files.IsProgram place → (∀ arg ∈ args, '\x00' ∉ arg.toList) →
      m.Starts (tool.orderUnder config args) place := by
  intro h
  have hnode : relativeMachine.files.node? ["tools", "run"] = some (.program "true") := by
    decide +kernel
  have hstarts := h relativeText relativeConfig relativeMachine (.other "t")
    ⟨.other "t", "tools/", "tools/run"⟩ ["tools", "run"] [] (by decide +kernel) (by decide +kernel)
    (by decide +kernel) (FileTree.isProgram_of_node? hnode) (by decide)
  obtain ⟨prepared, hprepared, hplace⟩ := Machine.starts_iff_prepare.mp hstarts
  rw [prepare_relative] at hprepared
  cases hprepared
  exact absurd hplace (by decide)

end ReadyTool
end ToolHost
