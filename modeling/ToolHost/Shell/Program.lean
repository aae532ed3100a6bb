import ToolHost.Shell.Run
import ToolHost.Utility.Table

/-! The shell as a program, and the start of programs by the shell. -/
namespace ToolHost.Shell

/-- What the words of a shell say it is to do. -/
structure Invocation where
  /-- Whether the first word behind the options is a script. -/
  inline : Bool
  /-- Whether the script comes from the standard input in any case. -/
  fromInput : Bool
  words : List String

/-- Takes the options of a shell off its words. -/
def readInvocation : Nat → List String → Act Invocation
  | 0, words => return ⟨false, false, words⟩
  | fuel + 1, words => do
    match words with
    | [] => return ⟨false, false, []⟩
    | word :: rest =>
      match word.toList with
      | ['-'] | ['-', '-'] => return ⟨false, false, rest⟩
      | sign :: letters =>
        if (sign = '-' || sign = '+') && !letters.isEmpty then
          let on := sign = '-'
          let own := letters.filter fun c => c != 'c' && c != 's' && c != 'l'
          let rest ← if ← setOptions on own then
              match rest with
              | name :: rest =>
                match optionNames.lookup name with
                | some letter =>
                  setOption letter on
                  pure rest
                | none => failWith s!"Illegal option -o {name}"
              | [] => pure []
            else pure rest
          let more ← readInvocation fuel rest
          return { more with
            inline := more.inline || 'c' ∈ letters
            fromInput := more.fromInput || 's' ∈ letters }
        else return ⟨false, false, words⟩
      | [] => return ⟨false, false, words⟩

/-- Runs the script that words of a shell give it. -/
def runScript (e : Engine) (words : List String) : Act Unit := do
  let invocation ← readInvocation (words.length + 1) words
  match invocation.inline, invocation.fromInput, invocation.words with
  | true, _, [] => failWith "-c requires an argument"
  | true, _, script :: rest =>
    match rest with
    | title :: args => modify fun t => { t with title := title, args := args }
    | [] => pure ()
    e.script false false script
  | false, false, path :: args =>
    match ← asProcess (Doing.readFile path) with
    | .error problem =>
      if problem matches .isADirectory then pure ()
      else failWith s!"cannot open {path}: {openProblem problem false}"
    | .ok bytes =>
      modify fun t => { t with title := path, args := args }
      e.script false true (Bytes.text bytes)
  | false, _, args =>
    modify fun t => { t with args := args }
    let bytes ← asProcess Doing.readInput
    e.script false true (Bytes.text bytes)

/-- The variables of a new shell. -/
def firstVariables (p : Process) (directory : Path) : List (String × Variable) :=
  let own : List (String × String) :=
    [("IFS", " \t\n"), ("OPTIND", "1"), ("PPID", toString p.parent), ("PS1", "# "), ("PS2", "> "),
      ("PS4", "+ ")]
  let taken := p.env.filter fun (name, _) => isName name && name != "IFS"
  let inherited := taken.map fun (name, value) =>
    (name, { value? := some value, exported := true, readonly := false : Variable })
  let set := inherited.foldl (fun vars (name, v) => Keyed.put name v vars)
    (own.map fun (name, value) =>
      (name, { value? := some value, exported := false, readonly := false : Variable }))
  let set := if (set.lookup "PATH").isSome then set else
    Keyed.put "PATH"
      { value? := some "/usr/local/sbin:/usr/local/bin:/usr/sbin:/usr/bin:/sbin:/bin"
        exported := false, readonly := false } set
  Keyed.put "PWD" { value? := some directory, exported := true, readonly := false } set

/-- A shell that has done nothing yet. -/
def Task.ofProcess (p : Process) : Task :=
  let named? := (p.setting? "PWD").filter fun path =>
    Path.isAbsolute path && (p.world.files.enter [] path).toOption = some p.cwd
  let directory := named?.getD p.workingPath
  { toProcess := p
    title := p.name
    args := []
    directory := directory
    vars := firstVariables p directory
    functions := []
    aliases := []
    documents := #[]
    options := []
    status := 0
    inner := 0
    traps := []
    jobs := []
    lastJob? := none
    loops := 0
    hidden := []
    line := 0
    command? := none
    shellNumber := p.number
    final := false
    lost := false
    optionPlace := (1, 0) }

/-- Runs a loaded program to its end. -/
def startProgram (e : Engine) (loaded : Loaded) (p : Process) : Thread :=
  if loaded.program ∈ Utility.shells then runShell e (runScript e loaded.args) (.ofProcess p)
  else
    match Utility.table.lookup loaded.program with
    | none => .ends p.world (.exited 127)
    | some utility =>
      let doing : Doing Ending := do return .exited ((← utility e.start loaded.args) % 256)
      doing.toThread p

/-- The signal that ends a program that goes too deep. -/
def tooDeep : Ending := .killed 11

/-- Shells and programs that may go so deep. -/
def engine : Nat → Engine
  | 0 =>
    { command := fun _ _ => throw (.ending tooDeep)
      word := fun _ _ => throw (.ending tooDeep)
      script := fun _ _ _ => throw (.ending tooDeep)
      start := fun _ p => .ends p.world tooDeep }
  | depth + 1 =>
    let e := engine depth
    { command := runCommand e
      word := expandWord e true false
      script := runText e
      start := startProgram e }

/-- How deep commands, scripts and programs may be nested in one another. -/
def deepest : Nat := 5000

/-- Runs a loaded program to its end. -/
def start : Starter := (engine deepest).start

end ToolHost.Shell
