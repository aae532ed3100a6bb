import ToolHost.Machine.Process

/-! What a running program can do: with what it has of its own, and with what it shares. -/
namespace ToolHost

namespace Process

/-- The value of a variable of the environment. -/
def setting? (p : Process) (name : String) : Option String := p.env.lookup name

/-- The directories in which programs are looked for that are called by name alone. -/
def searchPath (p : Process) : List Path :=
  (Path.splitAt ':' ((p.setting? "PATH").getD "/bin:/usr/bin").toList).map String.ofList

/-- The path of the directory that a program works in. -/
def workingPath (p : Process) : Path := "/" ++ "/".intercalate p.cwd

/-- The files, with what the program gives to new ones. -/
def files (p : Process) : FileTree := p.world.filesFor p.mask

/-- The open descriptors. -/
def descriptors (p : Process) : List (Nat × End) :=
  ((p.world.standing? p.number).map Standing.descriptors).getD []

/-- The signals that the program does not notice. -/
def ignored (p : Process) : List Nat :=
  ((p.world.standing? p.number).map Standing.ignored).getD []

/-- Changes what the program shows of itself. -/
def present (p : Process) (change : Standing → Standing) : Process :=
  { p with world := p.world.update p.number change }

def end? (p : Process) (descriptor : Nat) : Option End := p.descriptors.lookup descriptor

/-- How many descriptors are handed on to a program that takes the place of the running one. -/
def lentDescriptors : Nat := 10

/-- The first descriptor that is not open, from a given one on. -/
def firstFree (p : Process) (first : Nat) : Nat :=
  ((List.range' first (p.descriptors.length + 1)).find? fun n => (p.end? n).isNone).getD first

def channel? (p : Process) (descriptor : Nat) : Option Nat :=
  (p.end? descriptor).map End.channel

/-- Makes a descriptor lead to an end of a channel. -/
def connect (p : Process) (descriptor : Nat) (e : End) : Process :=
  p.present fun s => { s with descriptors := Keyed.put descriptor e s.descriptors }

def close (p : Process) (descriptor : Nat) : Process :=
  p.present fun s => { s with descriptors := Keyed.erase descriptor s.descriptors }

/-- Makes a descriptor lead to a new channel. -/
def attach (p : Process) (descriptor : Nat) (c : Channel) : Process :=
  let (n, world) := p.world.addChannel c
  { p with world := world }.connect descriptor ⟨n, false⟩

/-- Writes to a descriptor without waiting; what goes to a closed one is lost. -/
def write (p : Process) (descriptor : Nat) (bytes : Bytes) : Process :=
  match p.channel? descriptor with
  | some n => { p with world := p.world.write n bytes }
  | none => p

/-- Writes a line to standard error, in the name of the program. -/
def complain (p : Process) (text : String) : Process :=
  p.write 2 s!"{p.name}: {text}\n".toUTF8.toList

/-- Loads the program that a word names. A file that the system cannot start is taken for a script
of the shell. -/
def loadProgram (p : Process) (word : String) (args : List String) : Except OsError Loaded :=
  match p.world.files.findProgram p.cwd p.searchPath word with
  | .error e => .error e
  | .ok (path, place) =>
    match p.world.files.load p.cwd path place args with
    | .error .notAProgram => .ok ⟨"sh", path :: args, some "/bin/sh"⟩
    | loaded => loaded

/-- What can be read from a descriptor at once. -/
def waiting (p : Process) (descriptor : Nat) : Bytes :=
  ((p.channel? descriptor).map p.world.waiting).getD []

def skip (p : Process) (descriptor count : Nat) : Process :=
  match p.channel? descriptor with
  | some n => { p with world := p.world.skip n count }
  | none => p

/-- What a path in `/dev` stands for that names a descriptor of the program itself. -/
def ownDescriptor? (p : Process) (path : Path) : Option Nat :=
  match path with
  | "/dev/stdin" => some 0
  | "/dev/stdout" => some 1
  | "/dev/stderr" => some 2
  | path =>
    match (p.world.files.locate p.cwd path).toOption with
    | some ["dev", "stdin"] => some 0
    | some ["dev", "stdout"] => some 1
    | some ["dev", "stderr"] => some 2
    | some ["dev", "fd", digits] => digits.toNat?
    | _ => none

/-- Opens a file for reading. -/
def openToRead (p : Process) (descriptor : Nat) (path : Path) : Except OsError Process :=
  match (p.ownDescriptor? path).bind p.end? with
  | some e => .ok (p.connect descriptor e)
  | none =>
    match p.world.files.find p.cwd path with
    | .error e => .error e
    | .ok (_, .sink) => .ok (p.attach descriptor .nowhere)
    | .ok (_, .directory ..) => .ok (p.attach descriptor .directory)
    | .ok (place, _) =>
      match p.world.files.fileAt? place with
      | some number => .ok (p.attach descriptor (.file number 0 false))
      | none =>
        let (number, files) := p.world.files.addFile (p.world.files.contentAt place) ⟨0o755, 0⟩
        .ok ({ p with world.files := files }.attach descriptor (.file number 0 false))

/-- Opens a file for writing, and empties it unless it is to be kept. -/
def openToWrite (p : Process) (descriptor : Nat) (path : Path) (keep appending : Bool) :
    Except OsError Process :=
  match (p.ownDescriptor? path).bind p.end? with
  | some e => .ok (p.connect descriptor e)
  | none =>
    match p.files.openToWrite p.cwd path keep with
    | .error e => .error e
    | .ok (place, files) =>
      let p := { p with world.files := files }
      match files.fileAt? place with
      | none => .ok (p.attach descriptor .nowhere)
      | some number => .ok (p.attach descriptor (.file number 0 appending))

/-- The descriptors with which a pipe is read from one of them and written to another. -/
def addPipe (p : Process) : End × End × Process :=
  let (n, world) := p.world.addChannel (.pipe (.ofBytes []))
  (⟨n, false⟩, ⟨n, true⟩, { p with world := world })

end Process

/-- Something that a running program does. It may end the program. -/
abbrev Doing (α : Type) := ExceptT Ending (StateT Process Course) α

namespace Doing

/-- Waits. -/
def wait (wait : Wait) : Doing Unit := fun p =>
  let world := p.world
  let p := { p with world := .empty }
  .waits world wait fun world => .done (.ok (), { p with world := world })

/-- Waits until something holds. -/
def await (ready : World → Bool) : Doing Unit := wait ⟨none, ready⟩

/-- Gives the others a turn. Signals take effect. -/
def giveWay : Doing Unit := wait ⟨none, fun _ => true⟩

/-- Lets time pass. -/
def pass (micros : Nat) : Doing Unit := do
  let p ← get
  let time := p.world.clock + micros
  if p.world.horizon?.any (· ≤ time) then wait ⟨some time, fun _ => false⟩
  else set { p with world.clock := time }

/-- Lets the time pass that it takes to follow a path. -/
def follow (path : Path) : Doing Unit := do
  let p ← get
  let time := p.world.files.walkTime p.cwd path
  if 0 < time then pass time

/-- Waits for good. -/
def waitForever : Doing α := do
  await fun _ => false
  throw .overtime

/-- How many bytes wait in a pipe at most. -/
def pipeSize : Nat := 65536

/-- The signal for one who writes to a pipe that nobody reads from. -/
def brokenPipe : Nat := 13

/-- Writes to a descriptor, in parts if there is not room enough. -/
def sendWithin (descriptor : Nat) : Nat → Bytes → Doing Unit
  | 0, _ => pure ()
  | fuel + 1, bytes => do
    let p ← get
    match p.channel? descriptor with
    | none => pure ()
    | some n =>
      match p.world.channel n with
      | .pipe content =>
        if !p.world.holds ⟨n, false⟩ then
          if !p.ignored.contains brokenPipe then throw (.killed brokenPipe)
        else if content.size + bytes.length ≤ pipeSize then set (p.write descriptor bytes)
        else
          let room := pipeSize - content.size
          set (p.write descriptor (bytes.take room))
          let hasRoom (w : World) : Bool :=
            match w.channel n with
            | .pipe content => content.size < pipeSize || !w.holds ⟨n, false⟩
            | _ => true
          await hasRoom
          sendWithin descriptor fuel (bytes.drop room)
      | _ => set (p.write descriptor bytes)

/-- Writes to a descriptor. -/
def send (descriptor : Nat) (bytes : Bytes) : Doing Unit :=
  if bytes.isEmpty then pure () else sendWithin descriptor (bytes.length + 2) bytes

/-- Writes to standard output. -/
def printBytes (bytes : Bytes) : Doing Unit := send 1 bytes

def print (text : String) : Doing Unit := printBytes text.toUTF8.toList

/-- Writes a line to standard error, in the name of the program. -/
def complain (text : String) : Doing Unit := modify fun p => p.complain text

/-- Waits until there is something to read from a descriptor, and answers all of it; nothing means
the end. -/
def peek (descriptor : Nat) : Doing Bytes := do
  match (← get).channel? descriptor with
  | none => return []
  | some n =>
    if !(← get).world.isReadable n then await fun w => w.isReadable n
    return (← get).world.waiting n

/-- Takes what there is to read from a descriptor, but not more than so many bytes. Nothing means
the end. -/
def receive (descriptor most : Nat) : Doing Bytes := do
  let bytes := (← peek descriptor).take most
  modify fun p => p.skip descriptor bytes.length
  return bytes

/-- Leaves to others what was taken from a file last. -/
def giveBack (descriptor count : Nat) : Doing Unit := modify fun p =>
  match p.channel? descriptor with
  | none => p
  | some n =>
    match p.world.channel n with
    | .file number offset appending =>
      { p with world := p.world.setChannel n (.file number (offset - count) appending) }
    | _ => p

/-- How often a program reads before it gives up. -/
def mostReads : Nat := 10000000

/-- Takes what there is to read until the end, the last part first. -/
def receiveAll (descriptor : Nat) : Nat → List Bytes → Doing (List Bytes)
  | 0, _ => waitForever
  | fuel + 1, before => do
    let bytes ← peek descriptor
    if bytes.isEmpty then return before
    else
      modify fun p => p.skip descriptor bytes.length
      receiveAll descriptor fuel (bytes :: before)

/-- Reads all that is left behind a descriptor. -/
def readAll (descriptor : Nat) : Doing Bytes := do
  return (← receiveAll descriptor mostReads []).reverse.flatten

/-- Reads all of the standard input. -/
def readInput : Doing Bytes := readAll 0

/-- The content that a path leads to. -/
def readFile (path : Path) : Doing (Except OsError Bytes) := do
  let p ← get
  match p.ownDescriptor? path with
  | some descriptor => return .ok (← readAll descriptor)
  | none => return p.world.files.read p.cwd path

/-- Whether a descriptor leads to a directory. -/
def leadsToDirectory (descriptor : Nat) : Doing Bool := do
  let p ← get
  match (p.channel? descriptor).map p.world.channel with
  | some .directory => return true
  | _ => return false

/-- The content of a file; a hyphen names the standard input. -/
def readNamed (path : Path) : Doing (Except OsError Bytes) := do
  if path = "-" then
    if ← leadsToDirectory 0 then return .error .isADirectory
    return .ok (← readInput)
  else readFile path

/-- The first descriptor of those with which programs open files of their own. -/
def ownDescriptor : Nat := 1000

/-- Opens what a path names, reads from its descriptor and closes it; a hyphen names the standard
input. -/
def withInput (path : Path) (body : Nat → Doing α) : Doing (Except OsError α) := do
  if path = "-" then
    if ← leadsToDirectory 0 then return .error .isADirectory
    return .ok (← body 0)
  else
    match (← get).openToRead ownDescriptor path with
    | .error e => return .error e
    | .ok p =>
      set p
      let result ← if ← leadsToDirectory ownDescriptor then pure (.error .isADirectory)
        else Except.ok <$> body ownDescriptor
      modify fun p => p.close ownDescriptor
      return result

/-- Passes what is left behind a descriptor on to others, each part as it comes. -/
def passOnWithin (source : Nat) (targets : List Nat) : Nat → Doing Unit
  | 0 => waitForever
  | fuel + 1 => do
    let bytes ← peek source
    if !bytes.isEmpty then
      modify fun p => p.skip source bytes.length
      targets.forM fun target => send target bytes
      passOnWithin source targets fuel

/-- Passes what is left behind a descriptor on to others. -/
def passOn (source : Nat) (targets : List Nat) : Doing Unit := passOnWithin source targets mostReads

/-- How many bytes a program takes that looks for the end of a line. -/
def blockSize : Nat := 8192

/-- Takes parts off a descriptor until so many lines, which a mark ends, are among them, and answers
these. What has been taken behind them is lost, but not from a file. -/
def takeLinesWithin (descriptor : Nat) (mark : UInt8) : Nat → Nat → List Bytes → Doing (List Bytes)
  | 0, _, _ => waitForever
  | _, 0, before => return before
  | fuel + 1, count + 1, before => do
    let block := (← peek descriptor).take blockSize
    if block.isEmpty then return before
    else
      let step (state : Bytes × Nat) (b : UInt8) : Bytes × Nat :=
        let (lines, left) := state
        if left = 0 then state else (b :: lines, if b = mark then left - 1 else left)
      let (lines, left) := block.foldl step ([], count + 1)
      let p ← get
      let fromFile := ((p.channel? descriptor).map p.world.channel) matches some (.file ..)
      set (p.skip descriptor (if fromFile then lines.length else block.length))
      takeLinesWithin descriptor mark fuel left (lines.reverse :: before)

/-- The next lines behind a descriptor. -/
def takeLines (descriptor : Nat) (mark : UInt8) (count : Nat) : Doing Bytes := do
  return (← takeLinesWithin descriptor mark mostReads count []).reverse.flatten

/-- Takes so many bytes off a descriptor. -/
def takeBytesWithin (descriptor : Nat) : Nat → Nat → List Bytes → Doing (List Bytes)
  | 0, _, _ => waitForever
  | fuel + 1, count, before => do
    if count = 0 then return before
    else
      let bytes ← receive descriptor count
      if bytes.isEmpty then return before
      else takeBytesWithin descriptor fuel (count - bytes.length) (bytes :: before)

/-- The next bytes behind a descriptor. -/
def takeBytes (descriptor count : Nat) : Doing Bytes := do
  return (← takeBytesWithin descriptor mostReads count []).reverse.flatten

/-- Changes the files, if the system lets that happen. -/
def changeFiles (change : FileTree → Place → Except OsError FileTree) :
    Doing (Except OsError Unit) := do
  let p ← get
  match change p.files p.cwd with
  | .error e => return .error e
  | .ok files =>
    set { p with world.files := files }
    return .ok ()

/-- Starts something that goes on at the same time, with descriptors of its own. Answers its
number. -/
def fork (descriptors : List (Nat × End)) (first : Process → Thread) : Doing Nat := fun p =>
  let (number, world) := p.world.enroll p.number descriptors p.ignored
  let p := { p with world := .empty }
  let child := { p with number := number, parent := p.number }
  .starts world number (fun world => first { child with world := world })
    fun world => .done (.ok number, { p with world := world })

/-- How many microseconds it takes to load a program. -/
def loadTime : Nat := 400

/-- Runs a loaded program in place of the one that runs. -/
def become (start : Starter) (name : String) (loaded : Loaded) : Doing Ending := do
  pass loadTime
  let p ← get
  let p := p.present fun s =>
    { s with
      caught := []
      descriptors := s.descriptors.filter fun (n, _) => n < Process.lentDescriptors }
  let course := (start loaded { p with name := loaded.name?.getD name }).course
  let run : Doing (World × Ending) := fun p => course.bind fun result => .done (.ok result, p)
  let (world, ending) ← run
  set { p with world := world }
  return ending

/-- Runs something that the running program does to its end. -/
def toThread (doing : Doing Ending) (p : Process) : Thread :=
  (doing.run.run p).thread fun (result, p) =>
    match result with
    | .ok ending | .error ending => (p.world, ending)

/-- Starts a loaded program at the same time and answers its number. -/
def spawn (start : Starter) (name : String) (loaded : Loaded) : Doing Nat := do
  fork (← get).descriptors (toThread (become start name loaded))

/-- Waits until a program is over that this one has started, and answers how it ended. -/
def awaitEnd (number : Nat) : Doing Ending := do
  let isOver (w : World) : Bool := (w.ending? number).isSome || (w.standing? number).isNone
  if !isOver (← get).world then await isOver
  let ending := ((← get).world.ending? number).getD (.exited 127)
  modify fun p => { p with world := p.world.forget number }
  return ending

/-- The exit code that stands for an ending, as a shell counts. -/
def codeOf : Ending → Nat
  | .exited code => code
  | .killed signal => 128 + signal
  | .overtime => 0

/-- Runs the program that words name and answers its exit code, or why it could not be started. -/
def call (start : Starter) (words : List String) : Doing (Except OsError Nat) := do
  match words with
  | [] => return .ok 0
  | word :: args =>
    match (← get).loadProgram word args with
    | .error e => return .error e
    | .ok loaded => return .ok (codeOf (← awaitEnd (← spawn start word loaded)))

end Doing
end ToolHost
