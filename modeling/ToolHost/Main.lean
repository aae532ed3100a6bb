import ToolHost.Machine.Standard
import ToolHost.Program.Run

/-! The command line of the host program. The files below the working directory and below the
program's own directory are copied to a machine, the program runs there, and what it wrote is
written back. -/
namespace ToolHost

/-- Copies what a directory holds under some name, directories only so deep. Scripts count as
executable. -/
def copyIn (t : FileTree) : Nat → IO.FS.DirEntry → IO FileTree
  | 0, _ => return t
  | depth + 1, entry => do
    let place := (Path.names entry.path.toString).filter fun name => name != "" && name != "."
    if ← entry.path.isDir then
      let mut t := t.put place t.newDirectory
      for inner in ← entry.path.readDir do
        t ← copyIn t depth inner
      return t
    else
      try
        let bytes ← IO.FS.readBinFile entry.path
        let mode := if bytes.toList.take 2 == [0x23, 0x21] then 0o755 else 0o644
        return t.put place (.file bytes.toList ⟨mode, t.stamp.now⟩)
      catch _ => return t

/-- Writes the files back that are new or changed. -/
def copyOut (old new : FileTree) : IO Unit := do
  for (place, node) in new.nodes do
    match node with
    | .file content _ =>
      if old.node? place != some node then
        let path := "/" ++ "/".intercalate place
        IO.FS.createDirAll (Path.parent path)
        IO.FS.writeBinFile path ⟨content.toArray⟩
    | _ => pure ()

/-- Reads a stream to its end. -/
partial def readAll (stream : IO.FS.Stream) (before : ByteArray) : IO ByteArray := do
  let more ← stream.read 65536
  if more.isEmpty then return before else readAll stream (before ++ more)

/-- The variables of the environment that a host looks at. -/
def watchedVariables : List String := [HostConfig.fileVariable, HostConfig.baseDirVariable, "PATH"]

/-- How deep directories are copied. -/
def copyDepth : Nat := 16

end ToolHost

open ToolHost in
/-- Runs the program with the words of the command line. -/
def main (words : List String) : IO UInt32 := do
  let cwd ← IO.currentDir
  let programDir := directoryAbove (.ok (← IO.appPath).toString)
  let env ← watchedVariables.filterMapM fun name =>
    return (← IO.getEnv name).map fun value => (name, value)
  let stdin ← IO.getStdin
  let input ← if ← stdin.isTty then pure ByteArray.empty else readAll stdin ByteArray.empty
  let start := { Machine.standard ((Path.names cwd.toString).filter (· != "")) "" env with
    programDir := programDir }
  let ownFiles ← match programDir with
    | .ok dir => copyIn start.files copyDepth ⟨dir, "."⟩
    | .error _ => pure start.files
  let files ← copyIn ownFiles copyDepth ⟨cwd, "."⟩
  let stamp := toString (← IO.monoMsNow)
  let (code, m) := Program.run words stamp { start with files := files, input := input.toList }
  let m := m.awaitSilence
  copyOut files m.files
  (← IO.getStdout).write ⟨m.output.toArray⟩
  (← IO.getStderr).write ⟨m.errors.toArray⟩
  return UInt32.ofNat code
