import ToolHost.Shell.Alias
import ToolHost.Shell.Jobs
import ToolHost.Shell.Mask
import ToolHost.Shell.Reader
import ToolHost.Shell.Reading
import ToolHost.Utility.Test

/-! The commands that a shell carries out without starting a program. -/
namespace ToolHost.Shell

/-- Prints words with their escapes replaced. -/
def echo : Builtin := fun words => do
  let silent := words.head? = some "-n"
  let text := " ".intercalate (if silent then words.tail else words)
  let (bytes, stopped) := Utility.unescape .builtin (text.length + 1) text.toList
  printBytes (if silent || stopped then bytes else bytes ++ [0x0a])
  return 0

/-- Prints words as a format says. -/
def printf : Builtin := fun words => do
  let (_, words) ← options "" words
  match words with
  | [] => failWith "usage: printf format [arg ...]"
  | format :: args =>
    let printing := Utility.printFormat .builtin format args
    printBytes printing.bytes
    printing.complaints.forM complain
    return if printing.complaints.isEmpty then 0 else if printing.stopped then 2 else 1

/-- Tells whether a condition holds. -/
def test : Builtin := fun words => do
  asProcess ((Utility.Test.paths words).forM Doing.follow)
  match Utility.Test.holds .builtin (← get).toProcess words with
  | .ok holds => return if holds then 0 else 1
  | .error problem => failWith problem

/-- Tells whether a condition in brackets holds. -/
def bracket : Builtin := fun words => do
  if words.getLast? != some "]" then failWith "missing ]"
  test words.dropLast

/-- A path without the names that lead back. -/
def plainPath (path : Path) : Path :=
  let names := (Path.names path).foldl (fun names name =>
    if name = "" || name = "." then names
    else if name = ".." then names.tail
    else name :: names) []
  "/" ++ "/".intercalate names.reverse

/-- Goes to another directory. -/
def changeDirectory : Builtin := fun words => do
  let (options, words) ← options "LP" words
  let physical := options.getLast?.any fun (c, _) => c = 'P'
  let t ← get
  let path := match words with
    | [] => (t.valueIn? "HOME").getD ""
    | "-" :: _ => (t.valueIn? "OLDPWD").getD ""
    | path :: _ => path
  let shown := path
  let path := if path = "" then "." else path
  -- a path that does not say where it starts is looked for in several directories
  let first := (Path.names path).headD ""
  let bases := if first ∈ ["", ".", ".."] then []
    else (Path.splitAt ':' ((t.valueIn? "CDPATH").getD "").toList).map String.ofList
  let base? := bases.find? fun base => (t.world.files.enter t.cwd (Path.join base path)).isOk
  let path := Path.join (base?.getD "") path
  let logical := plainPath (Path.join t.directory path)
  match t.world.files.enter t.cwd (if physical then path else logical) with
  | .error _ => failWith s!"can't cd to {shown}"
  | .ok place =>
    let logical := if physical then "/" ++ "/".intercalate place else logical
    set { t with cwd := place, directory := logical }
    assign "OLDPWD" t.directory
    assign "PWD" logical
    ["OLDPWD", "PWD"].forM fun name => changeVariable name fun v => { v with exported := true }
    if words.head? = some "-" || base?.any (· != "") then print (logical ++ "\n")
    return 0

/-- Prints the directory. -/
def printDirectory : Builtin := fun words => do
  let (options, _) ← options "LP" words
  let t ← get
  let physical := options.getLast?.any fun (c, _) => c = 'P'
  print ((if physical then t.toProcess.workingPath else t.directory) ++ "\n")
  return 0

/-- Ends the shell. -/
def exit : Builtin := fun words => do
  match words with
  | [] => throw .exiting
  | word :: _ =>
    setStatus ((← numberOf word) % 256)
    throw .exiting

/-- Leaves a function or a script that is read in. -/
def leaveFunction : Builtin := fun words => do
  match words with
  | [] => throw .returning
  | word :: _ =>
    setStatus (← numberOf word)
    throw .returning

/-- Leaves loops or goes on with them. -/
def leaveLoops (flow : Nat → Flow) : Builtin := fun words => do
  let n ← match words with
    | [] => pure 1
    | word :: _ =>
      let n ← numberOf word
      if n = 0 then failWith s!"Illegal number: {word}"
      pure n
  let n := min n (← get).loops
  if n = 0 then return 0
  setStatus 0
  throw (flow n)

/-- Carries out words as commands. -/
def evaluate (e : Engine) (tested : Bool) : Builtin := fun words => do
  e.script tested false (" ".intercalate words)
  return (← get).status

/-- The path of a script that is to be read in. -/
def scriptPath (name : String) : Act Path := do
  if '/' ∈ name.toList then return name
  let t ← get
  let paths := t.forSearch.searchPath.map fun dir => Path.join dir name
  match paths.find? fun path => ((t.world.files.find t.cwd path).toOption.any fun (_, node) =>
      node.isFile) with
  | some path => return path
  | none => failWith s!"{name}: not found"

/-- Reads a script in. -/
def readIn (e : Engine) : Builtin := fun words => do
  match words with
  | [] => return 0
  | name :: _ =>
    let path ← scriptPath name
    match ← asProcess (Doing.readFile path) with
    | .error .isADirectory => return 0
    | .error _ => failWith s!"cannot open {path}: No such file"
    | .ok bytes =>
      try
        inName path (e.script false true (Bytes.text bytes))
      catch
        | .returning => pure ()
        | flow => throw flow
      return (← get).status

/-- What a name stands for as a command. -/
inductive Meaning where
  | reserved
  | alias (text : String)
  | special
  | function
  | builtin
  | program (path : Path)
  | unknown

/-- The regular commands of the shell itself. -/
def regularCommands : List String :=
  ["[", "alias", "bg", "cd", "chdir", "command", "echo", "false", "fg", "getopts", "hash", "jobs",
    "kill", "printf", "pwd", "read", "test", "true", "type", "ulimit", "umask", "unalias", "wait"]

def meaningOf (t : Task) (name : String) : Meaning :=
  match t.aliases.lookup name with
  | some text => if name ∈ reservedWords then .reserved else .alias text
  | none =>
    if name ∈ reservedWords then .reserved
    else if name ∈ specialCommands then .special
    else if (t.functions.lookup name).isSome then .function
    else if name ∈ regularCommands then .builtin
    else
      match t.world.files.findProgram t.cwd t.forSearch.searchPath name with
      | .ok (path, _) => .program path
      | .error _ => .unknown

/-- Says what names stand for. -/
def describeNames (words : List String) : Act Nat :=
  words.foldlM (fun status name => do
    let say (text : String) : Act Nat := do
      print s!"{name} is {text}\n"
      return status
    match meaningOf (← get) name with
    | .reserved => say "a shell keyword"
    | .alias text => say s!"an alias for {text}"
    | .special => say "a special shell builtin"
    | .function => say "a shell function"
    | .builtin => say "a shell builtin"
    | .program path => say path
    | .unknown =>
      print s!"{name}: not found\n"
      return 127) 0

/-- Prints how names are called. -/
def printNames (words : List String) : Act Nat :=
  words.foldlM (fun status name => do
    match meaningOf (← get) name with
    | .unknown => return 127
    | .program path =>
      print (path ++ "\n")
      return status
    | .alias text =>
      print s!"alias {name}={quotedText text}\n"
      return status
    | _ =>
      print (name ++ "\n")
      return status) 0


/-- The command of the shell with a name. -/
def builtin? (e : Engine) (tested : Bool) (name : String) : Option Builtin :=
  match name with
  | ":" | "true" => some fun _ => return 0
  | "false" => some fun _ => return 1
  | "." => some (readIn e)
  | "[" => some bracket
  | "alias" => some setAliases
  | "bg" | "fg" => some bringJob
  | "break" => some (leaveLoops .breaking)
  | "cd" | "chdir" => some changeDirectory
  | "continue" => some (leaveLoops .continuing)
  | "echo" => some echo
  | "eval" => some (evaluate e tested)
  | "exit" => some exit
  | "export" => some exportVariables
  | "getopts" => some nextOption
  | "hash" => some fun _ => return 0
  | "jobs" => some listJobs
  | "kill" => some kill
  | "local" => some localVariables
  | "printf" => some printf
  | "pwd" => some printDirectory
  | "read" => some read
  | "readonly" => some freezeVariables
  | "return" => some leaveFunction
  | "set" => some setAll
  | "shift" => some shift
  | "test" => some test
  | "times" => some fun _ => do
    print "0m0.000000s 0m0.000000s\n0m0.000000s 0m0.000000s\n"
    return 0
  | "trap" => some trap
  | "type" => some describeNames
  | "ulimit" => some fun _ => do
    print "unlimited\n"
    return 0
  | "umask" => some umask
  | "unalias" => some dropAliases
  | "unset" => some unset
  | "wait" => some (wait e)
  | _ => none

end ToolHost.Shell
