import ToolHost.Machine.Signal
import ToolHost.Utility.Format
import ToolHost.Utility.Names

/-! The programs that start other programs, wait, or send signals. -/
namespace ToolHost.Utility

/-- Loads the program that words name, or tells why that is not possible, with the name written in
some way and a text in front of it. -/
def loadWords (front : String) (written : String → String) (words : List String) :
    Doing (Except Nat Loaded) := do
  match (← get).loadProgram (words.headD "") words.tail with
  | .ok loaded => return .ok loaded
  | .error e =>
    blame (front ++ written (words.headD "")) e
    return .error (if e matches .notFound then 127 else 126)

/-- Starts the program that words name, in place of the one that runs. -/
def callWords (front : String) (written : String → String) (start : Starter) (words : List String) :
    Doing Nat := do
  match ← loadWords front written words with
  | .error code => return code
  | .ok loaded => throw (← Doing.become start (words.headD "") loaded)

/-- Whether a word sets a variable. -/
def isSetting (word : String) : Bool := '=' ∈ word.toList

/-- Splits a text into words at blanks, with quotes and escapes taken out. -/
def splitWords (text : List Char) : List String :=
  let step (state : List String × Option (List Char) × Option Char × Bool) (c : Char) :
      List String × Option (List Char) × Option Char × Bool :=
    let (words, present?, quote?, escaped) := state
    let add (c : Char) : Option (List Char) := some (present?.getD [] ++ [c])
    if escaped then (words, add c, quote?, false)
    else if c = '\\' && quote? != some '\'' then (words, present?, quote?, true)
    else
      match quote? with
      | some quote =>
        if c = quote then (words, some (present?.getD []), none, false)
        else (words, add c, some quote, false)
      | none =>
        if c = '\'' || c = '"' then (words, some (present?.getD []), some c, false)
        else if c.isWhitespace then
          (match present? with
            | some word => (words ++ [String.ofList word], none, none, false)
            | none => (words, none, none, false))
        else (words, add c, none, false)
  let (words, present?, _, _) := text.foldl step ([], none, none, false)
  match present? with
  | some word => words ++ [String.ofList word]
  | none => words

/-- The quote that is open at the end of a line of a text, if there is one. -/
def openQuote? (text : List Char) : Option Char :=
  let (open?, found?, _) := text.foldl (fun (state : Option Char × Option Char × Bool) c =>
    let (open?, found?, escaped) := state
    if escaped then (open?, found?, false)
    else
      match open? with
      | some quote =>
        if c = '\n' then (none, found?.or (some quote), false)
        else (if c = quote then none else some quote, found?, false)
      | none =>
        if c = '\\' then (none, found?, true)
        else (if c = '\'' || c = '"' then some c else none, found?, false)) (none, none, false)
  found?.or open?

/-- Runs a program with another environment, or prints the environment. -/
def env : Program := fun start => withOptions
  { letters := "iu:0C:S:v"
    optional := "DIB"
    inner := "DIBl"
    words := [("ignore-environment", 'i'), ("null", '0'), ("unset", 'u'), ("chdir", 'C'),
      ("default-signal", 'D'), ("ignore-signal", 'I'), ("block-signal", 'B'),
      ("list-signal-handling", 'l'), ("debug", 'v'), ("split-string", 'S')]
    leading := true
    failure := 125 }
  fun o => do
    let (bare, operands) := match o.operands with
      | "-" :: rest => (true, rest)
      | rest => (false, rest)
    let operands := (o.options.filterMap fun (c, value) =>
      if c = 'S' then some (splitWords value.toList) else none).flatten ++ operands
    let p ← get
    let kept := if o.has 'i' || bare then [] else
      o.options.foldl (fun env (c, name) => if c = 'u' then Keyed.erase name env else env) p.env
    let settings := operands.takeWhile isSetting
    let env := settings.foldl (fun env word =>
      let (name, value) := word.toList.span (· != '=')
      let name := String.ofList name
      let value := String.ofList value.tail
      if (env.lookup name).isSome then
        env.map fun (other, old) => (other, if other = name then value else old)
      else env ++ [(name, value)]) kept
    let command := operands.dropWhile isSetting
    if o.has '0' && !command.isEmpty then
      return ← misused 125 "cannot specify --null (-0) with command"
    if o.has 'C' && command.isEmpty then
      return ← misused 125 "must specify command with --chdir (-C)"
    match (o.options.filter fun (c, name) => c = 'u' && (name = "" || '=' ∈ name.toList)) with
    | (_, name) :: _ =>
      Doing.complain s!"cannot unset {cited name}: Invalid argument"
      return 125
    | [] => pure ()
    match o.last? 'C' with
    | some dir =>
      match p.world.files.enter p.cwd dir with
      | .ok place => set { p with cwd := place, env := env }
      | .error e =>
        blame s!"cannot change directory to {quoted dir}" e
        return 125
    | none => set { p with env := env }
    match command with
    | [] =>
      let finish := if o.has '0' then "\x00" else "\n"
      env.forM fun (name, value) => Doing.print s!"{name}={value}{finish}"
      return 0
    | words => callWords "" cited start words

/-- A power of two at the front as a fraction, and what follows. -/
def spanBinaryExponent (text : List Char) : Nat × Nat × List Char :=
  match text with
  | p :: rest =>
    let (down, rest) := spanSign rest
    let (digits, after) := spanDigits 10 rest.length rest
    if (p = 'p' || p = 'P') && !digits.isEmpty && digits.length < 4 then
      let power := Nat.shiftLeft 1 (valueIn 10 digits)
      if down then (1, power, after) else (power, 1, after)
    else (1, 1, text)
  | [] => (1, 1, text)

/-- The microseconds of a number of seconds that may stand with the letter of another unit. Without
an end there is none. -/
def microsOf? (text : String) : Option (Option Nat) :=
  let unit (rest : List Char) : Option Nat := match rest with
    | [] | ['s'] => some 1
    | ['m'] => some 60
    | ['h'] => some 3600
    | ['d'] => some 86400
    | _ => none
  let lower := text.toLower
  match text.toList with
  | '0' :: x :: rest =>
    let (digits, after) := spanDigits 16 rest.length rest
    if (x = 'x' || x = 'X') && !digits.isEmpty then
      let (top, bottom, after) := spanBinaryExponent after
      (unit after).map fun n =>
        some ((valueIn 16 digits * top * n * 1000000 + bottom - 1) / bottom)
    else general text unit
  | _ =>
    if lower ∈ ["inf", "infinity", "+inf", "+infinity"] then some none
    else general text unit
where
  /-- Reads a decimal. -/
  general (text : String) (unit : List Char → Option Nat) : Option (Option Nat) :=
    match spanFraction text.toList with
    | some (negative, f, rest) =>
      if negative && f.top != 0 then none
      else (unit rest).map fun n => some ((f.top * n * 1000000 + f.bottom - 1) / f.bottom)
    | none => none

/-- Waits for as long as words say together. -/
def sleep : Program := fun _ => withOptions { letters := "" } fun o => do
  if o.operands.isEmpty then misused 1 "missing operand"
  else
    let times := o.operands.map fun word => (word, microsOf? word)
    let bad := times.filter fun (_, time) => time.isNone
    if bad.isEmpty then
      let times := times.filterMap Prod.snd
      if times.any Option.isNone then Doing.waitForever
      else
        Doing.pass ((times.filterMap id).foldl (· + ·) 0)
        return 0
    else
      bad.forM fun (word, _) => Doing.complain s!"invalid time interval {cited word}"
      pointToHelp
      return 1

/-- Runs a program for a limited time. -/
def timeout : Program := fun start => withOptions
  { letters := "s:k:v"
    inner := "fp"
    words := [("kill-after", 'k'), ("foreground", 'f'), ("preserve-status", 'p'),
      ("signal", 's'), ("verbose", 'v')]
    leading := true
    failure := 125 } fun o => do
    let signal? := match o.last? 's' with
      | some text =>
        Signal.ofText? (if text.startsWith "SIG" then (text.drop 3).toString else text)
      | none => some Signal.terminate
    match o.operands, signal? with
    | [], _ | [_], _ =>
      pointToHelp
      return 125
    | _, none =>
      let shown := cited ((o.last? 's').getD "")
      misused 125 s!"{shown}: invalid signal"
    | limit :: words, some signal =>
      match microsOf? limit with
      | none => misused 125 s!"invalid time interval {cited limit}"
      | some limit? =>
        match ← loadWords "failed to run command " cited words with
        | .error code => return code
        | .ok loaded =>
          let number ← Doing.spawn start (words.headD "") loaded
          let later? := match o.last? 'k' with
            | some text => (microsOf? text).getD none
            | none => none
          watch o number (words.headD "") limit? later? signal
where
  /-- Sends a signal to a program and to all that it has started. -/
  sendAll (o : Options) (number : Nat) (called : String) (signal : Nat) : Doing Unit := do
    if o.has 'v' then
      let name := Signal.name signal
      Doing.complain s!"sending signal {name} to command {cited called}"
    let p ← get
    let family := if o.has 'f' then [] else p.world.familyOf p.world.programs.length number
    set { p with world := (number :: family).foldl (fun w n =>
      (w.signal n signal).signal n Signal.goOn) p.world }
    Doing.giveWay
    if signal = Signal.kill then throw (.killed signal)
  /-- Waits for a program, and signals it when its time is over, and once more later on. -/
  watch (o : Options) (number : Nat) (called : String) (limit? later? : Option Nat)
      (signal : Nat) : Doing Nat := do
    let isOver (w : World) : Bool := (w.ending? number).isSome
    let waitFor (limit? : Option Nat) : Doing Unit := do
      let clock := (← get).world.clock
      Doing.wait ⟨(limit?.filter (0 < ·)).map (clock + ·), isOver⟩
    waitFor limit?
    if isOver (← get).world then return Doing.codeOf (← Doing.awaitEnd number)
    sendAll o number called signal
    if later?.isSome then
      waitFor later?
      if !isOver (← get).world then sendAll o number called Signal.kill
    let ending ← Doing.awaitEnd number
    return if o.has 'p' || ending = .killed Signal.kill then Doing.codeOf ending else 124

/-- Runs a program with less right to time, which makes no difference here. -/
def nice : Program := fun start => withOptions
  { letters := "n:", words := [("adjustment", 'n')], leading := true, failure := 125 } fun o => do
    if o.operands.isEmpty then
      Doing.print "0\n"
      return 0
    else callWords "" cited start o.operands

/-- Runs a program that does not notice when the terminal goes. -/
def nohup : Program := fun start => withOptions { letters := "", leading := true, failure := 125 }
  fun o => do
    if o.operands.isEmpty then misused 125 "missing operand"
    else
      modify fun p => p.present fun s => { s with ignored := 1 :: s.ignored }
      callWords "failed to run command " quoted start o.operands

/-- The parts of a list, each of at most so many elements. -/
def groupsOf (size : Nat) : Nat → List α → List (List α)
  | 0, _ => []
  | _, [] => []
  | fuel + 1, l => l.take size :: groupsOf size fuel (l.drop size)

/-- A text with each place where another one stands replaced. -/
def replaceAll (old new : List Char) : Nat → List Char → List Char
  | 0, text => text
  | _, [] => []
  | fuel + 1, c :: rest =>
    if old.isPrefixOf (c :: rest) && !old.isEmpty then
      new ++ replaceAll old new fuel ((c :: rest).drop old.length)
    else c :: replaceAll old new fuel rest

/-- Runs a program with the words of the input. -/
def callWithInput : Program := fun start => withOptions
  { letters := "0rtn:I:L:d:P:s:xpa:E:o"
    optional := "eRl"
    inner := "eRlwv:"
    words := [("null", '0'), ("arg-file", 'a'), ("delimiter", 'd'), ("eof", 'e'),
      ("replace", 'R'), ("max-lines", 'l'), ("max-args", 'n'), ("open-tty", 'o'),
      ("interactive", 'p'), ("no-run-if-empty", 'r'), ("max-chars", 's'), ("verbose", 't'),
      ("show-limits", 'w'), ("exit", 'x'), ("max-procs", 'P'), ("process-slot-var", 'v')]
    leading := true } fun o => do
    let input := Bytes.text (← Doing.readInput)
    modify fun p => p.attach 0 .nowhere
    let mark? : Option Char := if o.has '0' then some '\x00' else
      (o.last? 'd').bind fun text =>
        if text = "\\n" then some '\n' else if text = "\\0" then some '\x00' else text.toList.head?
    let lines (mark : Char) : List String :=
      let parts := (Path.splitAt mark input.toList).map String.ofList
      if parts.getLast? = some "" then parts.dropLast else parts
    let items := match mark?, o.last? 'I' with
      | some mark, _ => lines mark
      | none, some _ =>
        ((lines '\n').map fun line => line.trimAsciiStart.toString).filter (· != "")
      | none, none => splitWords input.toList
    let command := if o.operands.isEmpty then ["echo"] else o.operands
    for letter in ['n', 'L'] do
      if ((o.last? letter).bind String.toNat?) = some 0 then
        return ← misused 1 s!"value 0 for -{letter} option should be >= 1"
    match (if mark?.isNone then openQuote? input.toList else none) with
    | some quote =>
      let kind := if quote = '"' then "double" else "single"
      Doing.complain (s!"unmatched {kind} quote; by default quotes are special to xargs unless " ++
        "you use the -0 option")
      return 1
    | none => pure ()
    let calls := match o.last? 'I', (o.last? 'n').bind String.toNat?, o.last? 'L' with
      | some place, _, _ => items.map fun item => command.map fun word =>
        String.ofList (replaceAll place.toList item.toList (word.length + 1) word.toList)
      | none, some n, _ => (groupsOf (max n 1) items.length items).map (command ++ ·)
      | none, none, some n =>
        let rows := (lines '\n').map fun line => splitWords line.toList
        (groupsOf (max (n.toNat?.getD 1) 1) rows.length rows).map fun rows => command ++ rows.flatten
      | none, none, none => [command ++ items]
    let calls := if items.isEmpty && (o.has 'r' || (o.last? 'I').isSome) then []
      else if items.isEmpty then [command] else calls
    let mut status := 0
    for words in calls do
      if o.has 't' then
        modify fun p => p.write 2 (" ".intercalate words ++ "\n").toUTF8.toList
      match ← Doing.call start words with
      | .error e =>
        blame (words.headD "") e
        return if e matches .notFound then 127 else 126
      | .ok code =>
        if code = 255 then
          let shown := words.headD ""
          Doing.complain s!"{shown}: exited with status 255; aborting"
          return 124
        if code != 0 then status := 123
    return status

/-- Sends signals to programs. -/
def kill : Program := fun _ words => do
  if words.any fun word => word ∈ ["--help", "--version", "-h", "-V"] then return 0
  let (signal?, targets) : Option Nat × List String := match words with
    | "-s" :: name :: rest => (Signal.ofText? name, rest)
    | "--" :: rest => (some Signal.terminate, rest)
    | word :: rest =>
      match word.toList with
      | '-' :: name => (Signal.ofText? (String.ofList name), rest)
      | _ => (some Signal.terminate, words)
    | [] => (none, [])
  match signal?, targets with
  | none, _ | _, [] =>
    Doing.complain "not enough arguments"
    return 1
  | some signal, targets =>
    targets.foldlM (fun status target => do
      let p ← get
      match target.toNat? with
      | some number =>
        if (p.world.standing? number).isSome then
          set { p with world := p.world.signal number signal }
          Doing.giveWay
          return status
        else
          Doing.complain s!"({number}): No such process"
          return 1
      | none =>
        Doing.complain s!"failed to parse argument: {cited target}"
        return 1) 0

end ToolHost.Utility
