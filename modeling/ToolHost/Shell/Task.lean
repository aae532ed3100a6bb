import ToolHost.Machine.Doing
import ToolHost.Shell.Syntax

/-! A running shell: its variables, its options and what else it keeps, and what can become of the
commands it carries out. -/
namespace ToolHost.Shell

structure Variable where
  value? : Option String
  exported : Bool
  readonly : Bool

/-- How a command leaves the commands around it. -/
inductive Flow where
  /-- It leaves so many loops. -/
  | breaking (loops : Nat)
  /-- It goes on with the next round of a loop around it. -/
  | continuing (loops : Nat)
  /-- It leaves a function or a script that is read in. -/
  | returning
  /-- Something went wrong with which the shell cannot go on. -/
  | failing
  /-- The shell ends with the present status. -/
  | exiting
  | ending (ending : Ending)

/-- A command in the background. -/
structure Job where
  /-- The number by which a percent sign names it. -/
  place : Nat
  number : Nat
  /-- How it ended, if its end has been seen. -/
  ending? : Option Ending
  /-- Whether all commands in the background were waited for since. -/
  waited : Bool

/-- A running shell. -/
structure Task extends Process where
  /-- What the shell calls itself in its messages. -/
  title : String
  args : List String
  /-- The path by which the shell came to the directory it works in. -/
  directory : Path
  vars : List (String × Variable)
  functions : List (String × Command)
  /-- The texts that stand for names of commands. -/
  aliases : List (String × String)
  documents : Array Word
  /-- The letters of the options that are on. -/
  options : List Char
  /-- The exit code of the last command. -/
  status : Nat
  /-- The exit code of the last substitution in the present command. -/
  inner : Nat
  /-- The commands for signals; zero stands for the end of the shell. -/
  traps : List (Nat × String)
  jobs : List Job
  lastJob? : Option Nat
  /-- How many loops are around the present command. -/
  loops : Nat
  /-- What running functions have hidden. -/
  hidden : List (List (String × Option Variable))
  line : Nat
  /-- The command in whose name the shell complains. -/
  command? : Option String
  /-- The number that the shell and its copies go by. -/
  shellNumber : Nat
  /-- Whether the shell has nothing to do behind its present command. -/
  final : Bool
  /-- Whether the present command has printed something that went nowhere. -/
  lost : Bool
  /-- Where the option letters of an argument go on that have been looked at in part. -/
  optionPlace : Nat × Nat

/-- What the commands of a shell do. -/
abbrev Act := ExceptT Flow (StateT Task Course)

/-- Lets a shell do what any program may do. -/
def asProcess (doing : Doing α) : Act α := fun t => do
  let p := t.toProcess
  let t := { t with world := .empty }
  let (result, p) ← doing.run.run p
  return (result.mapError .ending, { t with toProcess := p })

/-- Writes to standard output. -/
def printBytes (bytes : Bytes) : Act Unit := do
  asProcess (Doing.printBytes bytes)
  modify fun t => { t with lost := t.lost || (!bytes.isEmpty && cannotPrint t) }
where
  /-- Whether what is printed gets lost. -/
  cannotPrint (t : Task) : Bool :=
    match t.toProcess.channel? 1 with
    | none => true
    | some n =>
      match t.world.channel n with
      | .pipe _ => !t.world.holds ⟨n, false⟩
      | _ => false

def print (text : String) : Act Unit := printBytes text.toUTF8.toList

/-- Writes a message to standard error that says where it comes from. -/
def complain (text : String) : Act Unit := modify fun t =>
  let command := match t.command? with
    | some command => s!"{command}: "
    | none => ""
  let message := s!"{t.title}: {t.line}: {command}{text}\n"
  { t with toProcess := t.toProcess.write 2 message.toUTF8.toList }

def setStatus (status : Nat) : Act Unit := modify fun t => { t with status := status }

/-- Complains and fails. -/
def failWith (text : String) : Act α := do
  complain text
  setStatus 2
  throw .failing

namespace Task

def hasOption (t : Task) (letter : Char) : Bool := t.options.contains letter

/-- What a variable is set to. -/
def valueIn? (t : Task) (name : String) : Option String :=
  (t.vars.lookup name).bind Variable.value?

/-- What separates words in values. -/
def separators (t : Task) : List Char := ((t.valueIn? "IFS").getD " \t\n").toList

/-- What arguments are put together with. -/
def joiner (t : Task) : String :=
  match t.separators with
  | c :: _ => String.singleton c
  | [] => ""

/-- The value of a parameter. -/
def parameter? (t : Task) (name : String) : Option String :=
  match name with
  | "?" => some (toString t.status)
  | "$" => some (toString t.shellNumber)
  | "#" => some (toString t.args.length)
  | "!" => t.lastJob?.map toString
  | "-" => some (String.ofList t.options)
  | "@" | "*" => some (t.joiner.intercalate t.args)
  | "LINENO" => some (toString t.line)
  | name =>
    match name.toNat? with
    | some 0 => some t.title
    | some (n + 1) => t.args[n]?
    | none => t.valueIn? name

/-- The variables that programs are given. -/
def exported (t : Task) : List (String × String) :=
  t.vars.reverse.filterMap fun (name, v) =>
    if v.exported then v.value?.map fun value => (name, value) else none

/-- The process as it looks for programs. -/
def forSearch (t : Task) : Process :=
  { t.toProcess with env := [("PATH", (t.valueIn? "PATH").getD "")] }

end Task

/-- Changes what is kept of a variable. -/
def changeVariable (name : String) (change : Variable → Variable) : Act Unit := modify fun t =>
  let v := (t.vars.lookup name).getD ⟨none, t.hasOption 'a', false⟩
  { t with vars := Keyed.put name (change v) t.vars }

/-- Sets a variable. -/
def assign (name value : String) : Act Unit := do
  if ((← get).vars.lookup name).any Variable.readonly then failWith s!"{name}: is read only"
  changeVariable name fun v => { v with value? := some value }
  if (← get).hasOption 'a' then changeVariable name fun v => { v with exported := true }
  if name = "OPTIND" then modify fun t => { t with optionPlace := (value.toNat?.getD 1, 0) }

/-- Takes a variable away. -/
def unassign (name : String) : Act Unit := do
  if ((← get).vars.lookup name).any Variable.readonly then failWith s!"{name}: is read only"
  modify fun t => { t with vars := Keyed.erase name t.vars }

/-- Puts variables back to what they were. -/
def restoreVariables (saved : List (String × Option Variable)) : Act Unit := modify fun t =>
  { t with vars := saved.foldl (fun vars (name, v?) =>
      match v? with
      | some v => Keyed.put name v vars
      | none => Keyed.erase name vars) t.vars }

/-- Does something, and then in any case what has to be done behind it. -/
def ensuring (act : Act α) (after : Act Unit) : Act α := do
  let result ← try Except.ok <$> act catch flow => pure (Except.error flow)
  after
  match result with
  | .ok a => return a
  | .error flow => throw flow

/-- Does something in the name of a command. -/
def inName (command : String) (act : Act α) : Act α := do
  let outer := (← get).command?
  modify fun t => { t with command? := some command }
  ensuring act (modify fun t => { t with command? := outer })

/-- Lets a shell do something as a program with the variables that programs are given. -/
def withExported (doing : Doing α) : Act α := do
  let t ← get
  let env := t.env
  modify fun t => { t with env := t.exported }
  ensuring (asProcess doing) (modify fun t => { t with env := env })

end ToolHost.Shell
