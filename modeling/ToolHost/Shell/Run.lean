import ToolHost.Shell.Builtins
import ToolHost.Shell.Redirection

/-! Carrying out commands. -/
namespace ToolHost.Shell

/-- How many microseconds a command takes that starts no program. -/
def commandTime : Nat := 2

/-- Ends a shell that is to end with the first failure nobody looks at. -/
def minded (e : Engine) (tested : Bool) : Act Unit := do
  noticeSignals e
  let t ← get
  if !tested && t.status != 0 && t.hasOption 'e' then throw .exiting

/-- The arguments of a command. What looks like an assignment is one for some commands, and does not
fall apart then. -/
def commandArguments (e : Engine) (words : List Word) : Act (List String) := do
  match words with
  | [] => return []
  | first :: rest =>
    match ← argumentsFor e [first] with
    | [] =>
      match rest with
      | [] => return []
      | rest => argumentsFor e rest
    | name :: args =>
      let declares := name ∈ ["export", "readonly", "local", "alias"]
      let more ← rest.mapM fun word => do
        match (if declares then word.assignment? else none) with
        | some (variableName, value) => return [s!"{variableName}={← assignedText e value}"]
        | none => argumentsFor e [word]
      return name :: args ++ more.flatten

/-- Carries out assignments one after the other, and answers the values. -/
def assignAll (e : Engine) (exported : Bool) (assignments : List (String × Word)) :
    Act (List (String × String)) :=
  assignments.mapM fun (name, word) => do
    let value ← assignedText e word
    assign name value
    if exported then changeVariable name fun v => { v with exported := true }
    return (name, value)

/-- Does something with variables that are set for it alone. It is given their values. -/
def withAssignments (e : Engine) (assignments : List (String × Word))
    (act : List (String × String) → Act Unit) : Act Unit := do
  let t ← get
  let saved := assignments.map fun (name, _) => (name, t.vars.lookup name)
  let all : Act Unit := do act (← assignAll e true assignments)
  if saved.isEmpty then all else ensuring all (restoreVariables saved)

/-- Says why a program cannot be started, and sets the status. -/
def startProblem (name : String) (problem : OsError) : Act Unit := do
  let problem := if name = "" then .permissionDenied else problem
  let absent := problem matches .notFound | .notADirectory
  let reason := if absent then "not found" else problem.description
  complain s!"{name}: {reason}"
  let searched := '/' ∉ name.toList
  let lost := problem matches .notFound | .notADirectory | .tooManyLinks | .nameTooLong
  setStatus (if searched || lost then 127 else 126)

/-- Becomes another program, which is the end of the shell. -/
def become (e : Engine) (name : String) (args : List String) : Act Unit := do
  match (← get).forSearch.loadProgram name args with
  | .error problem =>
    startProblem name problem
    throw .exiting
  | .ok loaded =>
    let ending ← withExported (Doing.become e.start name loaded)
    throw (.ending ending)

/-- Starts a program and waits for it. A shell with nothing else to do becomes the program. -/
def runExternal (e : Engine) (final : Bool) (name : String) (args : List String) : Act Unit := do
  let t ← get
  if final && t.traps.isEmpty then become e name args
  else
    match t.forSearch.loadProgram name args with
    | .error problem => startProblem name problem
    | .ok loaded =>
      let number ← withExported (Doing.spawn e.start name loaded)
      setStatus (← settle (← awaitForeground number))

/-- Runs a function. -/
def callFunction (e : Engine) (tested : Bool) (body : Command) (args : List String) : Act Unit := do
  let t ← get
  set { t with args := args, loops := 0, hidden := [] :: t.hidden, optionPlace := (1, 0) }
  let finish : Act Unit := do
    match (← get).hidden with
    | top :: _ => restoreVariables top
    | [] => pure ()
    modify fun after => { after with
      args := t.args
      loops := t.loops
      hidden := t.hidden
      optionPlace := t.optionPlace }
  let run : Act Unit := do
    try e.command tested body
    catch
      | .returning => pure ()
      | flow => throw flow
  ensuring run finish

/-- Runs a command of the shell itself in its own name. -/
def runBuiltin (name : String) (builtin : Builtin) (args : List String) : Act Unit :=
  inName name do
    modify fun t => { t with lost := false }
    let status ← builtin args
    if (← get).lost then
      complain s!"{name}: I/O error"
      setStatus (status ||| 1)
    else setStatus status

/-- Drops the words before the name of a command that is called past the functions. -/
def pastCommand : Nat → List String → Bool × List String
  | fuel + 1, "command" :: rest =>
    let rest := if rest.head? = some "-p" then rest.tail else rest
    let rest := if rest.head? = some "--" then rest.tail else rest
    if rest.isEmpty || rest.head? = some "-v" || rest.head? = some "-V" then
      (true, "command" :: rest)
    else (true, (pastCommand fuel rest).2)
  | _, words => (false, words)

/-- Writes a command that is about to run to where the errors of the shell go. -/
def trace (channel? : Option Nat) (settings : List (String × String)) (words : List String) :
    Act Unit := do
  let t ← get
  if t.hasOption 'x' then
    let words := settings.map (fun (name, value) => s!"{name}={value}") ++ words
    let front := (t.valueIn? "PS4").getD "+ "
    match channel? with
    | some channel =>
      let text := front ++ " ".intercalate words ++ "\n"
      set { t with world := t.world.write channel text.toUTF8.toList }
    | none => pure ()

/-- Carries out a simple command. -/
def runSimple (e : Engine) (tested : Bool) (line : Nat) (assignments : List (String × Word))
    (words : List Word) (redirects : List Redirect) : Act Unit := do
  let final := (← get).final
  modify fun t => { t with line := line, inner := 0, final := false }
  asProcess (Doing.pass commandTime)
  let all ← commandArguments e words
  let errors? := (← get).toProcess.channel? 2
  let (past, called) := pastCommand (all.length + 1) all
  let fails : Act Unit := setStatus 2
  match called with
  | [] =>
    let setting : Act Unit := do
      let settings ← assignAll e false assignments
      if !settings.isEmpty then trace errors? settings []
      setStatus (← get).inner
    withRedirects e redirects setting fails
  | "command" :: "-v" :: names =>
    withRedirects e redirects (do setStatus (← printNames (names.take 1))) fails
  | "command" :: "-V" :: names =>
    withRedirects e redirects (do setStatus (← describeNames (names.take 1))) fails
  | "exec" :: [] =>
    redirects.forM (turn e)
    let _ ← assignAll e false assignments
    setStatus 0
  | name :: args =>
    let functions := (← get).functions
    let special := !past && name ∈ specialCommands
    let function? := if past then none else functions.lookup name
    match special, function?, builtin? e tested name with
    | true, _, some builtin =>
      withRedirects e redirects (do
        trace errors? (← assignAll e false assignments) all
        runBuiltin name builtin args) (throw .failing)
    | false, some body, _ =>
      withRedirects e redirects (withAssignments e assignments fun settings => do
        trace errors? settings all
        callFunction e tested body args) fails
    | false, none, some builtin =>
      withRedirects e redirects (withAssignments e assignments fun settings => do
        trace errors? settings all
        try runBuiltin name builtin args
        catch
          | .failing => pure ()
          | flow => throw flow) fails
    | _, _, none =>
      withRedirects e redirects (withAssignments e assignments fun settings => do
        trace errors? settings all
        if name = "exec" then inName name (become e (args.headD "") args.tail)
        else if name = "command" then setStatus 0
        else runExternal e final name args) (if special then throw .failing else fails)

/-- Runs the body of a loop once; answers whether the loop is to go on. -/
def runRound (act : Act Unit) : Act Bool := do
  try
    act
    return true
  catch
    | .breaking (n + 2) => throw (.breaking (n + 1))
    | .breaking _ => return false
    | .continuing (n + 2) => throw (.continuing (n + 1))
    | .continuing _ => return true
    | flow => throw flow

/-- Does something inside one more loop. -/
def insideLoop (act : Act Unit) : Act Unit := do
  let loops := (← get).loops
  modify fun t => { t with loops := loops + 1 }
  ensuring act (modify fun t => { t with loops := loops })

/-- How many rounds a loop may have. -/
def mostRounds : Nat := 10000000

/-- Runs a body as long as a condition succeeds, or fails with `untilDone`. The status is that of the
last round. -/
def runLoop (e : Engine) (tested untilDone : Bool) (condition body : Command) :
    Nat → Nat → Act Unit
  | 0, _ => asProcess Doing.waitForever
  | rounds + 1, status => do
    let entered ← runRound (e.command true condition)
    if entered && ((← get).status = 0) != untilDone then
      let more ← runRound (e.command tested body)
      let status := (← get).status
      if more then runLoop e tested untilDone condition body rounds status else setStatus status
    else setStatus (if entered then status else 0)

/-- Starts commands whose output is the input of the next one, as copies of the shell. Answers their
numbers. -/
def startPipeline (e : Engine) (tested : Bool) : Option End → List Command → Act (List Nat)
  | _, [] => return []
  | input?, command :: rest => do
    let t ← get
    let own := t.toProcess.descriptors
    let descriptors := match input? with
      | some input => Keyed.put 0 input own
      | none => own
    if rest.isEmpty then
      return [← startCopy e descriptors (t.copy command) (e.command tested command)]
    else
      let (output, input, p) := t.toProcess.addPipe
      set { t with toProcess := p }
      let number ←
        startCopy e (Keyed.put 1 input descriptors) (t.copy command) (e.command tested command)
      return number :: (← startPipeline e tested (some output) rest)

/-- Waits for commands in the foreground, in the order in which they end. The status is that of the
one with the number `last`. -/
def awaitPipeline (last : Nat) : Nat → List Nat → Act Unit
  | 0, _ | _, [] => pure ()
  | fuel + 1, numbers => do
    let ended (w : World) (number : Nat) : Bool := (w.ending? number).isSome
    asProcess (Doing.await fun w => numbers.any (ended w))
    let w := (← get).world
    match numbers.find? (ended w) with
    | none => pure ()
    | some number =>
      let status ← settle (← awaitForeground number)
      if number = last then setStatus status
      awaitPipeline last fuel (numbers.filter (· != number))

/-- Runs commands whose output is the input of the next one. The status is that of the last one. -/
def runPipeline (e : Engine) (tested : Bool) (commands : List Command) : Act Unit := do
  let numbers ← startPipeline e tested none commands
  awaitPipeline (numbers.getLastD 0) numbers.length numbers

/-- Carries out the first case that a text matches. -/
def runCases (e : Engine) (tested : Bool) (subject : String) :
    List (List Word × Command) → Act Unit
  | [] => setStatus 0
  | (patterns, body) :: cases => do
    if ← patterns.anyM fun word => do return (← patternOf e word).holds subject.toList then
      match body with
      | .nothing => setStatus 0
      | body => e.command tested body
    else runCases e tested subject cases

/-- Carries out a command. -/
def runNow (e : Engine) (tested : Bool) : Command → Act Unit
  | .nothing => setStatus 0
  | .simple line assignments words redirects => do
    runSimple e tested line assignments words redirects
    minded e tested
  | .redirected line body redirects => do
    modify fun t => { t with line := line }
    withRedirects e redirects (e.command tested body) (setStatus 2)
  | .sequence parts => parts.forM (e.command tested)
  | .andThen first second => do
    e.command true first
    if (← get).status = 0 then e.command tested second
  | .orElse first second => do
    e.command true first
    if (← get).status != 0 then e.command tested second
  | .negated body => do
    e.command true body
    setStatus (if (← get).status = 0 then 1 else 0)
  | .choose condition yes no => do
    e.command true condition
    if (← get).status = 0 then e.command tested yes else e.command tested no
  | .loop untilDone condition body =>
    insideLoop (runLoop e tested untilDone condition body mostRounds 0)
  | .forEach line name words body => do
    modify fun t => { t with line := line }
    let values ← argumentsFor e words
    setStatus 0
    insideLoop do
      for value in values do
        assign name value
        if !(← runRound (e.command tested body)) then break
  | .select line subject cases => do
    modify fun t => { t with line := line }
    let subject ← textOf e subject
    runCases e tested subject cases
  | .define name body => do
    modify fun t => { t with functions := Keyed.put name body t.functions }
    setStatus 0
  | .pipeline parts => do
    runPipeline e tested parts
    minded e tested
  | .subshell line body => do
    let t ← get
    set { t with line := line }
    if t.final && t.traps.isEmpty then
      set { t with line := line, final := body matches .simple .. | .subshell .. }
      e.command tested body
      throw .exiting
    setStatus (← inCopy e tested body)
    minded e tested
  | .background body => do
    startJob e body
    setStatus 0

/-- Carries out a command, unless commands are only to be read. -/
def runCommand (e : Engine) (tested : Bool) (command : Command) : Act Unit := do
  if !(← get).hasOption 'n' then runNow e tested command

/-- Writes what has been read of a script to standard error, if that is wanted. -/
def echoInput (before after : List Char) : Act Unit := do
  let t ← get
  if t.hasOption 'v' then
    let text := String.ofList (before.take (before.length - after.length))
    set { t with toProcess := t.toProcess.write 2 text.toUTF8.toList }

/-- Carries out the commands of a script from where it has been read so far. -/
def runLines (e : Engine) (tested fromFile : Bool) : Nat → Bool → Scan → Act Unit
  | 0, _, _ => asProcess Doing.waitForever
  | fuel + 1, ran, scan => do
    let t ← get
    let before := scan.rest
    match readLine.run { scan with documents := t.documents, aliases := t.aliases } with
    | .error problem =>
      modify fun t => { t with line := problem.line }
      failWith s!"Syntax error: {problem.text}"
    | .ok (none, _) => if !ran then setStatus 0
    | .ok (some .nothing, scan) =>
      if fromFile then echoInput before scan.rest
      runLines e tested fromFile fuel ran scan
    | .ok (some command, scan) =>
      modify fun t => { t with documents := scan.documents }
      if fromFile then echoInput before scan.rest
      e.command tested command
      runLines e tested fromFile fuel true scan

/-- Carries out the commands of a text. -/
def runText (e : Engine) (tested fromFile : Bool) (text : String) : Act Unit :=
  let chars := text.toList.filter (· != '\x00')
  runLines e tested fromFile (chars.length + 2) false (.ofText chars)

end ToolHost.Shell
