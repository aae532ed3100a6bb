import ToolHost.Shell.Settings

/-! Commands in the background, signals, and the commands for both. -/
namespace ToolHost.Shell

/-- The signals that a command in the background does not notice. -/
def unnoticed : List Nat := [2, 3]

/-- Starts commands in the background. -/
def startJob (e : Engine) (command : Command) : Act Unit := do
  let t ← get
  let copy := t.copy command
  let begin : Act Unit := do
    modify fun t =>
      let p := t.toProcess.attach 0 .nowhere
      { t with toProcess := p.present fun s => { s with ignored := unnoticed ++ s.ignored } }
    e.command false command
  let descriptors := Keyed.erase 0 t.toProcess.descriptors
  let number ← startCopy e descriptors copy begin
  let t ← get
  let jobs := t.jobs.filter fun job => !(job.waited && job.ending?.isSome)
  let places := (List.range (jobs.length + 1)).map (· + 1)
  let place := (places.find? fun place => jobs.all (·.place != place)).getD 1
  let job : Job := { place := place, number := number, ending? := none, waited := false }
  set { t with jobs := jobs ++ [job], lastJob? := some number }

/-- How the command in the background ended that has a number. -/
def Task.jobEnding? (t : Task) (number : Nat) : Option Ending :=
  (t.jobs.find? fun job => job.number = number).bind Job.ending?

/-- How many microseconds it takes until a waiting shell notices that something has come about. -/
def noticeTime : Nat := 50

/-- Waits for a command in the background. A signal that is caught breaks the waiting off; it is the
answer then. -/
def waitFor (job : Job) : Act (Except Nat Ending) := do
  reapJobs
  match (← get).jobEnding? job.number with
  | some ending => return .ok ending
  | none =>
    let own := (← get).number
    let isOver (w : World) : Bool := (w.ending? job.number).isSome
    asProcess (Doing.await fun w => isOver w || !(w.signalsFor own).isEmpty)
    -- whatever comes about until the shell notices counts as well
    asProcess (Doing.pass noticeTime)
    reapJobs
    let t ← get
    match t.jobEnding? job.number, t.world.signalsFor own with
    | none, signal :: _ => return .error signal
    | ending?, _ => return .ok (ending?.getD (.exited 127))

/-- The job that a word names by its place or by its number. -/
def Task.job? (t : Task) (word : String) : Option Job :=
  match word.toList with
  | '%' :: place =>
    match (String.ofList place).toNat? with
    | some n => t.jobs.find? fun job => job.place = n
    | none => t.jobs.getLast?
  | _ => t.jobs.find? fun job => some job.number = word.toNat?

/-- Waits for commands in the background, as long as no signal breaks that off. -/
def waitForAll : List Job → Act (Option Nat)
  | [] => return none
  | job :: jobs => do
    match ← waitFor job with
    | .ok _ => waitForAll jobs
    | .error signal => return some signal

/-- Waits for given commands in the background, or for all. -/
def wait (e : Engine) : Builtin := fun words => do
  if words.isEmpty then
    match ← waitForAll (← get).jobs with
    | some signal =>
      noticeSignals e
      return 128 + signal
    | none =>
      modify fun t => { t with jobs := t.jobs.map fun job => { job with waited := true } }
      noticeSignals e
      return 0
  else
    words.foldlM (fun _ word => do
      match (← get).job? word with
      | some job =>
        match ← waitFor job with
        | .error signal =>
          noticeSignals e
          return 128 + signal
        | .ok ending =>
          modify fun t => { t with jobs := t.jobs.filter fun other => other.number != job.number }
          if job.ending?.isSome then return Doing.codeOf ending else settle ending
      | none =>
        if word.startsWith "%" then failWith s!"No such job: {word}"
        let _ ← numberOf word
        return 127) 0

/-- What is said of the state of a command in the background. -/
def Job.text (job : Job) : String :=
  match job.ending? with
  | none | some .overtime => "Running"
  | some (.exited 0) => "Done"
  | some (.exited code) => s!"Done({code})"
  | some (.killed signal) => Signal.describe signal

/-- Prints the commands in the background. Those that are over are then forgotten. -/
def listJobs : Builtin := fun words => do
  reapJobs
  let t ← get
  for word in words do
    if word.startsWith "%" && (t.job? word).isNone then failWith s!"No such job: {word}"
  let recent := t.jobs.reverse
  recent.zipIdx.forM fun (job, n) => do
    let mark := if n = 0 then "+" else if n = 1 then "-" else " "
    let line := s!"[{job.place}] {mark} {job.text}"
    print (line ++ "".pushn ' ' (33 - line.length) ++ "\n")
  modify fun t => { t with jobs := t.jobs.filter fun job => job.ending?.isNone }
  return 0

/-- Brings a command to the foreground, which only a shell that someone sits at can do. -/
def bringJob : Builtin := fun words => do
  let t ← get
  match words with
  | [] =>
    failWith (if t.jobs.isEmpty then "No current job"
      else "job (null) not created under job control")
  | word :: _ =>
    failWith (if (t.job? word).isNone then s!"No such job: {word}"
      else s!"job {word} not created under job control")

/-- Sends a signal to the program that a word names, and answers whether there is one. -/
def sendSignal (signal : Nat) (word : String) : Act Bool := do
  let t ← get
  let number ← match t.job? word with
    | some job => pure job.number
    | none =>
      if word.startsWith "%" then failWith s!"No such job: {word}"
      match word.toList with
      | '-' :: digits => numberOf (String.ofList digits)
      | _ => numberOf word
  let number := if number = 0 then t.number else number
  if (t.world.standing? number).isSome then
    set { t with world := t.world.signal number signal }
    asProcess Doing.giveWay
    return true
  else return false

/-- Sends signals, or prints their names. -/
def kill : Builtin := fun words => do
  let usage : Act Nat := failWith
    "Usage: kill [-s sigspec | -signum | -sigspec] [pid | job]... or\nkill -l [exitstatus]"
  let send (signal : Nat) (targets : List String) : Act Nat := do
    if targets.isEmpty then usage
    else
      targets.foldlM (fun status target => do
        if ← sendSignal signal target then return status
        complain "No such process\n"
        return 1) 0
  match words with
  | [] => usage
  | "-l" :: rest =>
    match rest with
    | [] =>
      print "0\n"
      ((List.range Signal.last).map (· + 1)).forM fun n => print (Signal.name n ++ "\n")
      return 0
    | word :: _ =>
      let n ← numberOf word
      let n := if 128 < n then n - 128 else n
      if n = 0 || Signal.last < n then failWith s!"invalid signal number or exit status: {word}"
      print (Signal.name n ++ "\n")
      return 0
  | "-s" :: name :: rest =>
    match Signal.ofText? name with
    | some signal => send signal rest
    | none => failWith s!"invalid signal number or name: {name}"
  | "--" :: rest => send Signal.terminate rest
  | word :: rest =>
    match word.toList with
    | '-' :: name =>
      match Signal.ofText? (String.ofList name), name with
      | some signal, _ => send signal rest
      | none, c :: _ => failWith s!"Illegal option -{c}"
      | none, [] => usage
    | _ => send Signal.terminate words

/-- The signal of a trap, or zero for the end of the shell. -/
def trapped? (word : String) : Option Nat :=
  if word.toUpper = "EXIT" then some 0 else Signal.ofText? word

/-- Sets what is done about signals and at the end of the shell, or prints it. -/
def trap : Builtin := fun words => do
  let words := if words.head? = some "--" then words.tail else words
  match words with
  | [] =>
    let t ← get
    let ignored := t.toProcess.ignored.map fun signal => (signal, "")
    ((t.traps ++ ignored).mergeSort fun a b => a.1 ≤ b.1).forM fun (signal, text) =>
      print s!"trap -- {quotedText text} {Signal.name signal}\n"
    return 0
  | first :: rest =>
    let (action?, names) :=
      if rest.isEmpty || (trapped? first).isSome then (none, words)
      else (if first = "-" then none else some first, rest)
    names.foldlM (fun status name => do
      match trapped? name with
      | none =>
        tell s!"trap: {name}: bad trap"
        return 1
      | some signal =>
        modify (withTrap action? signal)
        return status) 0
where
  /-- The shell with a trap for a signal. -/
  withTrap (action? : Option String) (signal : Nat) (t : Task) : Task :=
    let others := Keyed.erase signal t.traps
    let noticing (t : Task) (noticed : Bool) : Task :=
      { t with toProcess := t.toProcess.present fun s =>
          let rest := s.ignored.filter (· != signal)
          { s with ignored := if noticed || signal = 0 then rest else signal :: rest } }
    let t := match action? with
      | none => noticing { t with traps := others } true
      | some "" => noticing { t with traps := others } false
      | some text => noticing { t with traps := Keyed.put signal text t.traps } true
    t.showTraps

end ToolHost.Shell
