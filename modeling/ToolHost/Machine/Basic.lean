import ToolHost.Duration
import ToolHost.Machine.Process

/-! The machine on which a host and its tools run. -/
namespace ToolHost

/-- The order to start a program: the path that names it, the words for it, where it is to run and
how long it may. -/
structure Launch where
  executable : Path
  args : List String
  /-- Where the program runs; nothing means where the host does. -/
  workingDir? : Option Path
  limit? : Option Duration
  deriving DecidableEq, Repr

/-- A program that was started. -/
structure Started where
  /-- The file that was found for the path. -/
  program : Place
  launch : Launch
  deriving DecidableEq, Repr

/-- The programs that go on while the host does something else, and what they share beside the
files. -/
structure Background where
  clock : Nat
  channels : Array Channel
  programs : List (Nat × Standing)
  signals : List (Nat × Nat)
  lastNumber : Nat
  sleepers : List Sleeper

namespace Background

/-- The number of the host among the programs. -/
def hostNumber : Nat := 999

/-- The host alone. -/
def quiet : Background :=
  let host : Standing :=
    { parent := World.firstProgram, life := .going, descriptors := [], ignored := [], caught := [] }
  { clock := 0
    channels := #[.console, .output, .errors]
    programs := [(hostNumber, host)]
    signals := []
    lastNumber := hostNumber
    sleepers := [] }

end Background

/-- What the system does not do for a host with a program that the host has started, and why. -/
structure Refusals where
  /-- Why it does not tell how the program has ended. -/
  telling? : Option String
  /-- Why it does not kill the program. -/
  killing? : Option String
  deriving DecidableEq, Repr

structure Machine where
  files : FileTree
  /-- Where the relative paths of the host start. -/
  cwd : Place
  /-- The variables of the environment. -/
  env : List (String × String)
  /-- The directory of the host's own program. -/
  programDir : Except ProgramFault Path
  /-- What waits to be read from standard input. -/
  input : Bytes
  /-- What has been written to standard output. -/
  output : Bytes
  /-- What has been written to standard error. -/
  errors : Bytes
  /-- The programs started so far, the last one first. -/
  started : List Started
  background : Background
  /-- What its programs do. -/
  behaviour : Starter
  refusals : Refusals

namespace Machine

/-- The value of a variable of the environment. -/
def setting? (m : Machine) (name : String) : Option String := m.env.lookup name

/-- The directories in which programs are looked for that are called by name alone. -/
def searchPath (m : Machine) : List Path :=
  (Path.splitAt ':' ((m.setting? "PATH").getD "/bin:/usr/bin").toList).map String.ofList

/-- Writes text to standard error. -/
def complain (m : Machine) (text : String) : Machine :=
  { m with errors := m.errors ++ text.toUTF8.toList }

/-- Writes text to standard output. -/
def say (m : Machine) (text : String) : Machine :=
  { m with output := m.output ++ text.toUTF8.toList }

end Machine

/-- Something to be put onto a machine. -/
inductive Item where
  | directory
  | link (target : Path)
  | file (content : Bytes) (executable : Bool)
  deriving DecidableEq, Repr

namespace FileTree

/-- Puts something at a path, making the directories above it. What a file held before is lost. A
link may lead to nothing, but what it says has to be a path. -/
def install (t : FileTree) (cwd : Place) (path : Path) : Item → Except OsError FileTree
  | .directory => t.makeDirectories cwd path
  | .link target =>
    match t.makeDirectories cwd (Path.parent path) with
    | .error e => .error e
    | .ok t =>
      match refusal? target with
      | some e => .error e
      | none =>
        match t.locateEntry cwd path with
        | .error e => .error e
        | .ok place =>
          if (t.node? place).isSome then .error .alreadyExists else t.add place (.link target)
  | .file content executable =>
    match t.makeDirectories cwd (Path.parent path) with
    | .error e => .error e
    | .ok t =>
      match t.openToWrite cwd path false with
      | .error e => .error e
      | .ok (place, t) =>
        let mode := if executable then 0o755 else 0o644
        match t.fileAt? place with
        | some number => .ok ((t.refill number content).setStatus place fun s => { s with mode := mode })
        | none => .ok t

end FileTree
end ToolHost
