import ToolHost.Machine.Basic
import ToolHost.Shell.Program

/-! A machine as it comes, before anything is put onto it: with a shell and the usual utilities as its
programs. -/
namespace ToolHost

/-- The directories of a new machine, with its programs. What is put onto it is older than all that
its programs make. -/
def FileTree.standard : FileTree :=
  let directories : List Place :=
    [["usr"], ["usr", "bin"], ["usr", "sbin"], ["usr", "local"], ["usr", "local", "bin"],
      ["usr", "local", "sbin"], ["usr", "lib"], ["etc"], ["home"], ["opt"], ["root"], ["run"],
      ["tmp"], ["var"], ["var", "tmp"], ["dev"]]
  let closed : List Place := [["proc"], ["proc", "1"], ["proc", "1", "net"],
    ["proc", "1", "net", "stat"], ["proc", "self"], ["sys"]]
  let links : List (Place × Path) :=
    [(["bin"], "usr/bin"), (["sbin"], "usr/sbin"), (["lib"], "usr/lib")]
  let shared : List Place := [["tmp"], ["var", "tmp"]]
  let status (p : Place) : Status := ⟨if p ∈ shared then 0o1777 else 0o755, 0⟩
  { FileTree.empty with
    entries := directories.map (fun p => (p, .directory false (status p))) ++
      closed.map (fun p => (p, .directory true (status p))) ++
      links.map (fun (p, target) => (p, .link target)) ++
      Utility.programNames.map (fun name => (["usr", "bin", name], .program name)) ++
      [(["dev", "null"], .sink)]
    stamp := ⟨World.dawn - 5 * World.tick, 0o022⟩ }

/-- The directories in which a new machine looks for programs. -/
def standardSearchPath : String :=
  "/usr/local/sbin:/usr/local/bin:/usr/sbin:/usr/bin:/sbin:/bin"

/-- The tree with all given things put at their paths, one after the other. -/
def FileTree.installAll (t : FileTree) (cwd : Place) (items : List (Path × Item)) :
    Except OsError FileTree :=
  items.foldlM (fun t (path, item) => t.install cwd path item) t

/-- A new machine whose host works in the empty directory `cwd` and whose program lies in
`programDir`. -/
def Machine.standard (cwd : Place) (programDir : Path) (env : List (String × String)) : Machine :=
  { files := (List.range cwd.length).foldl (fun t n => t.put (cwd.take (n + 1)) t.newDirectory)
      FileTree.standard
    cwd := cwd
    env := env ++ [("PATH", standardSearchPath), ("HOME", "/root")]
    programDir := programDir
    input := []
    output := []
    errors := []
    started := []
    background := .quiet
    behaviour := Shell.start
    refusals := ⟨none, none⟩ }

end ToolHost
