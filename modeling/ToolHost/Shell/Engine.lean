import ToolHost.Machine.Signal
import ToolHost.Shell.Fields
import ToolHost.Shell.Task

/-! What every part of a shell needs of the whole: running commands, expanding words, starting
programs. A shell that may go so deep is made of one that may go less deep. -/
namespace ToolHost.Shell

structure Engine where
  /-- Carries out a command. A status that is looked at anyway does not end a shell that ends with
  the first failure. -/
  command : (tested : Bool) → Command → Act Unit
  /-- What a word comes to, in which the arguments of the shell may stay apart. -/
  word : (apart : Bool) → Word → Act (List Cell)
  /-- Carries out the commands of a text, which may be one that is read from a file. -/
  script : (tested fromFile : Bool) → String → Act Unit
  start : Starter

/-- Does what there is to do about a signal that the shell catches. -/
def answerSignal (e : Engine) (signal : Nat) : Act Unit := do
  match (← get).traps.lookup signal with
  | some text =>
    let status := (← get).status
    e.script false false text
    setStatus status
  | none => return

/-- Notices the signals that wait for the shell. -/
def noticeSignals (e : Engine) : Act Unit := do
  let t ← get
  let mine := t.world.signalsFor t.number
  if mine.isEmpty then return
  set { t with world.signals := t.world.signals.filter fun (receiver, _) => receiver != t.number }
  mine.forM (answerSignal e)

/-- Shows the others which signals the shell catches. -/
def Task.showTraps (t : Task) : Task :=
  { t with toProcess := t.toProcess.present fun s =>
      { s with caught := (t.traps.map Prod.fst).filter (· != 0) } }

/-- Runs the commands for the end of the shell, and answers how it ends. -/
def leave (e : Engine) : Act Ending := do
  match (← get).traps.lookup 0 with
  | none => return .exited (← get).status
  | some text =>
    let status := (← get).status
    modify fun t => { t with traps := Keyed.erase 0 t.traps, command? := none }
    try
      e.script false false text
      return .exited status
    catch
      | .ending ending => return ending
      | .exiting => return .exited (← get).status
      | _ => return .exited status

/-- Runs a shell to its end. -/
def toEnd (e : Engine) (act : Act Unit) : Act Ending := do
  try
    act
    noticeSignals e
    leave e
  catch
    | .ending ending => return ending
    | _ => leave e

/-- The copy of a shell that carries out a part of its commands. It keeps no traps. -/
def Task.copy (t : Task) (part : Command) : Task :=
  { t with
    traps := []
    jobs := []
    loops := 0
    final := part matches .simple .. | .subshell .. }

/-- Runs a shell that is a program or a copy of its own. -/
def runShell (e : Engine) (act : Act Unit) (t : Task) : Thread :=
  ((toEnd e act).run.run t).thread fun (result, t) =>
    let ending := match result with
      | .ok ending | .error (.ending ending) => ending
      | .error _ => .exited t.status
    (t.world, ending)

/-- Starts a copy of the shell, with descriptors of its own, and answers its number. -/
def startCopy (e : Engine) (descriptors : List (Nat × End)) (copy : Task) (act : Act Unit) :
    Act Nat :=
  let copy := { copy with world := .empty }
  asProcess (Doing.fork descriptors fun p => runShell e act { copy with toProcess := p })

/-- The signals of which a shell says nothing. -/
def quietSignals : List Nat := [2, 13]

/-- Takes the exit code of a command that was waited for, and tells of a signal that ended it. -/
def settle (ending : Ending) : Act Nat := do
  match ending with
  | .killed signal =>
    if signal ∉ quietSignals then
      let text := Signal.describe signal ++ "\n"
      modify fun t => { t with toProcess := t.toProcess.write 2 text.toUTF8.toList }
  | .exited _ | .overtime => pure ()
  return Doing.codeOf ending

/-- Sees which commands in the background are over. -/
def reapJobs : Act Unit := modify fun t =>
  t.jobs.foldl (fun t job =>
    match job.ending?, t.world.ending? job.number with
    | none, some ending =>
      { t with
        world := t.world.forget job.number
        jobs := t.jobs.map fun other : Job =>
          if other.number = job.number then { other with ending? := some ending } else other }
    | _, _ => t) t

/-- Waits for a command in the foreground, and answers how it ended. -/
def awaitForeground (number : Nat) : Act Ending := do
  let ending ← asProcess (Doing.awaitEnd number)
  reapJobs
  return ending

/-- Carries out a command in a copy of the shell and answers its exit code. -/
def inCopy (e : Engine) (tested : Bool) (command : Command) : Act Nat := do
  let t ← get
  let number ← startCopy e t.toProcess.descriptors (t.copy command) (e.command tested command)
  settle (← awaitForeground number)

end ToolHost.Shell
