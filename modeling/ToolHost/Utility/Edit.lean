import ToolHost.Editing.Reading
import ToolHost.Utility.Names

/-! The program that edits lines as a script says. -/
namespace ToolHost.Utility

open Editing (Action Address Instruction Letters Part Substitution)

/-- What is written when a line is done. -/
inductive Queued where
  | text (bytes : Bytes)
  | file (name : String)

/-- Where the lines come from at present. -/
inductive Source where
  /-- The next file has to be opened. -/
  | between
  | reading (descriptor : Nat)
  /-- A file has come to its end, which the next line does not belong to. -/
  | finished
  deriving DecidableEq

/-- How lines are edited. -/
structure EditPlan where
  all : Array Instruction
  quiet : Bool
  /-- The byte at the end of lines. -/
  mark : UInt8
  /-- Whether each file is a text of its own. -/
  separate : Bool
  /-- Whether files are replaced by what becomes of them, and what the names of their copies end
  in. -/
  inPlace? : Option String
  width : Nat
  /-- How much is read at once. -/
  block : Nat

/-- How far an edit has come. -/
structure Editor where
  /-- The line in work. -/
  space : List Char := []
  /-- Whether the line had an end. -/
  ended : Bool := true
  /-- The text put away. -/
  held : List Char := []
  lineNumber : Nat := 0
  queue : List Queued := []
  /-- The ranges that are open, by the place of their instruction, with their last line if that is
  known. -/
  ranges : List (Nat × Option Nat) := []
  /-- The expression used last, and whether it leaves the case out of account. -/
  lastPattern? : Option (Text.Regex × Bool) := none
  substituted : Bool := false
  names : List String
  source : Source := .between
  /-- The name of the file that is read. -/
  name : String := "-"
  /-- What has been read from it and not been used. -/
  buffer : Bytes := []
  /-- Whether a file could not be read. -/
  failed : Bool := false
  /-- What was written and has not gone out yet, the last part first. -/
  output : List Bytes := []
  outputSize : Nat := 0
  /-- The descriptors on which an end of a line is owed. -/
  owing : List Nat := []
  /-- The descriptors of the files that are written, by their names. -/
  targets : List (String × Nat) := []
  /-- The lines that are left of files that are read line by line. -/
  lines : List (String × List Bytes) := []

/-- Something that is done in the course of an edit. -/
abbrev Edit := StateT Editor Doing

namespace Edit

/-- How much is written at once. -/
def flushSize : Nat := 4096

/-- Sends out what was written. -/
def flush : Edit Unit := do
  let s ← get
  let bytes := s.output.reverse.flatten
  set { s with output := [], outputSize := 0 }
  liftM (Doing.printBytes bytes)

/-- Writes to a descriptor. Standard output is not written to at once. -/
def put (plan : EditPlan) (descriptor : Nat) (bytes : Bytes) : Edit Unit := do
  if descriptor != 1 then liftM (Doing.send descriptor bytes)
  else
    modify fun s => { s with
      output := bytes :: s.output, outputSize := s.outputSize + bytes.length }
    if plan.inPlace?.isNone && flushSize ≤ (← get).outputSize then flush

/-- Writes the end of a line that is owed. -/
def settle (plan : EditPlan) (descriptor : Nat) : Edit Unit := do
  if (← get).owing.contains descriptor then
    modify fun s => { s with owing := s.owing.filter (· != descriptor) }
    put plan descriptor [plan.mark]

/-- Writes a text, with an end of a line or owing it. -/
def putLine (plan : EditPlan) (descriptor : Nat) (text : List Char) (ended : Bool) : Edit Unit := do
  settle plan descriptor
  put plan descriptor (Bytes.ofUnits text ++ if ended then [plan.mark] else [])
  if !ended then modify fun s => { s with owing := descriptor :: s.owing }

/-- Writes the line in work. -/
def putSpace (plan : EditPlan) : Edit Unit := do
  let s ← get
  putLine plan 1 s.space s.ended

/-- Writes what has been queued. -/
def putQueue (plan : EditPlan) : Edit Unit := do
  let queue := (← get).queue
  modify fun s => { s with queue := [] }
  for queued in queue do
    match queued with
    | .text bytes =>
      settle plan 1
      put plan 1 bytes
    | .file name =>
      match ← liftM (Doing.readFile name) with
      | .ok bytes =>
        settle plan 1
        put plan 1 bytes
      | .error _ => pure ()

/-- Replaces the file that was read by what has been written. -/
def finishFile (plan : EditPlan) : Edit Unit := do
  match plan.inPlace? with
  | none => pure ()
  | some ending =>
    let s ← get
    set { s with output := [], outputSize := 0, owing := s.owing.filter (· != 1) }
    let bytes := s.output.reverse.flatten
    let write (name : String) (bytes : Bytes) : Doing Unit := do
      match (← get).openToWrite (Doing.ownDescriptor + 1) name false false with
      | .ok p => set ((p.write (Doing.ownDescriptor + 1) bytes).close (Doing.ownDescriptor + 1))
      | .error e => Doing.complain s!"couldn't open file {name}: {e.description}"
    if ending != "" then
      let copy := if '*' ∈ ending.toList then ending.replace "*" (lastName s.name)
        else s.name ++ ending
      match ← liftM (Doing.readFile s.name) with
      | .ok old => liftM (write copy old)
      | .error _ => pure ()
    liftM (write s.name bytes)

/-- Opens the next file. -/
def openNext (plan : EditPlan) (name : String) : Edit Unit := do
  let refuse (problem : String) : Edit Unit := do
    liftM (Doing.complain problem)
    modify fun s => { s with failed := true }
  let p ← liftM (get : Doing Process)
  if name = "-" && plan.inPlace?.isNone then
    modify fun s => { s with source := .reading 0, name := "-" }
  else
    match p.openToRead Doing.ownDescriptor name with
    | .error e => refuse s!"can't read {name}: {e.description}"
    | .ok opened =>
      liftM (set opened : Doing Unit)
      if ← liftM (Doing.leadsToDirectory Doing.ownDescriptor) then
        liftM (modify fun p => p.close Doing.ownDescriptor : Doing Unit)
        flush
        liftM (Doing.complain (if plan.inPlace?.isSome then
          s!"couldn't edit {name}: not a regular file"
          else s!"read error on {name}: Is a directory"))
        liftM (throw (.exited 4) : Doing Unit)
      else modify fun s => { s with source := .reading Doing.ownDescriptor, name := name }

/-- Sees to it that there is something to read, if there is any left; from one file to the next only
where that is said. -/
def fill (plan : EditPlan) (cross : Bool) : Nat → Edit Bool
  | 0 => liftM (Doing.waitForever : Doing Bool)
  | fuel + 1 => do
    let s ← get
    if !s.buffer.isEmpty then return true
    match s.source with
    | .reading descriptor =>
      let bytes ← liftM (Doing.receive descriptor plan.block)
      if bytes.isEmpty then
        if descriptor != 0 then liftM (modify fun p => p.close descriptor : Doing Unit)
        modify fun s => { s with source := .finished }
      else modify fun s => { s with buffer := bytes }
      fill plan cross fuel
    | source =>
      if source = .finished && plan.separate then
        if !cross then return false
        finishFile plan
        modify fun s => { s with lineNumber := 0, ranges := [], source := .between }
      match (← get).names with
      | [] => return false
      | name :: names =>
        modify fun s => { s with names := names, source := .between }
        openNext plan name
        fill plan cross fuel

/-- Takes the rest of a line. Answers whether it has an end. -/
def takeLine (plan : EditPlan) : Nat → List Bytes → Edit (Bytes × Bool)
  | 0, _ => liftM (Doing.waitForever : Doing (Bytes × Bool))
  | fuel + 1, before => do
    let s ← get
    let line := s.buffer.takeWhile (· != plan.mark)
    match s.buffer.drop line.length with
    | _ :: rest =>
      set { s with buffer := rest }
      return ((line :: before).reverse.flatten, true)
    | [] =>
      let bytes ← match s.source with
        | .reading descriptor => liftM (Doing.receive descriptor plan.block)
        | _ => pure []
      set { s with buffer := bytes }
      if bytes.isEmpty then return ((line :: before).reverse.flatten, false)
      else takeLine plan fuel (line :: before)

/-- Whether the line in work is the last one. -/
def isLast (plan : EditPlan) : Edit Bool := do
  return !(← fill plan (!plan.separate) Doing.mostReads)

/-- Reads the next line, behind the line in work or for it. Answers whether there is one. -/
def nextLine (plan : EditPlan) (joined : Bool) : Edit Bool := do
  putQueue plan
  if !(← fill plan true Doing.mostReads) then return false
  let (line, ended) ← takeLine plan Doing.mostReads []
  let chars := Bytes.units line
  modify fun s => { s with
    space := if joined then s.space ++ Char.ofNat plan.mark.toNat :: chars else chars
    ended := ended
    lineNumber := s.lineNumber + 1
    substituted := false }
  return true

/-- Gives up because there is no expression that was used before. -/
def lacksPattern : Edit α := do
  flush
  liftM (Doing.complain "-e expression #1, char 0: no previous regular expression")
  liftM (throw (.exited 1) : Doing α)

/-- The expression that is meant, which is the one used last from now on. -/
def patternFor (r? : Option Text.Regex) (foldCase : Bool) : Edit (Text.Regex × (Char → Char → Bool)) := do
  let some (r, fold) := (r?.map fun r => (r, foldCase)).or (← get).lastPattern?
    | lacksPattern
  modify fun s => { s with lastPattern? := some (r, fold) }
  return (r, if fold then fun a b => a.toLower == b.toLower else (· == ·))

/-- Whether the line in work is one that an address means. -/
def meets (plan : EditPlan) : Address → Edit Bool
  | .line n => return (← get).lineNumber = n
  | .last => isLast plan
  | .step first size => do
    let n := (← get).lineNumber
    return first ≤ n && (n - first) % size = 0
  | .behind _ | .multiple _ => return false
  | .matching r? foldCase => do
    let (r, same) ← patternFor r? foldCase
    return (r.find? same (← get).space 0).isSome

/-- The last line of a range that begins in a line, if it can be told. -/
def finalLine? (first : Nat) : Address → Option Nat
  | .line n => some n
  | .behind count => some (first + count)
  | .multiple size => some (if size = 0 then first else (first / size + 1) * size)
  | _ => none

/-- Whether an instruction is for the line in work. -/
def chosen (plan : EditPlan) (place : Nat) (i : Instruction) : Edit Bool := do
  let holds ← match i.first?, i.final? with
    | none, _ => pure true
    | some first, none => meets plan first
    | some first, some final => do
      let s ← get
      match s.ranges.lookup place with
      | some (some last) =>
        if last ≤ s.lineNumber then set { s with ranges := Keyed.erase place s.ranges }
        pure (s.lineNumber ≤ last)
      | some none =>
        if ← meets plan final then
          modify fun s => { s with ranges := Keyed.erase place s.ranges }
        pure true
      | none =>
        if ← meets plan first then
          let last? := finalLine? s.lineNumber final
          if last?.all (s.lineNumber < ·) then
            modify fun s => { s with ranges := Keyed.put place last? s.ranges }
          pure true
        else pure false
  return holds != i.negated

/-- Characters with the letters changed. -/
def changed (l : Letters) (c : Char) : Char :=
  match l with
  | .asTheyAre => c
  | .upper => c.toUpper
  | .lower => c.toLower

/-- The text of a replacement. -/
def replacement (group : Nat → List Char) :
    List Part → Letters → Option Letters → List Char
  | [], _, _ => []
  | part :: parts, letters, once =>
    let put (text : List Char) : List Char :=
      match text, once with
      | c :: rest, some first =>
        changed first c :: rest.map (changed letters) ++ replacement group parts letters none
      | text, once => text.map (changed letters) ++ replacement group parts letters once
    match part with
    | .text c => put [c]
    | .group n => put (group n)
    | .letters .asTheyAre => replacement group parts .asTheyAre none
    | .letters l => replacement group parts l once
    | .nextLetter l => replacement group parts letters (some l)

/-- A text with what matches replaced, from an index on; `count` matches have been seen. Without an
answer nothing was replaced. -/
def replaced (r : Text.Regex) (same : Char → Char → Bool) (s : Substitution) (text : List Char) :
    Nat → Nat → Nat → Option Nat → Option (List Char)
  | 0, _, _, _ => none
  | fuel + 1, index, count, last? =>
    match r.find? same text index with
    | none => none
    | some found =>
      let between := (text.take found.start).drop index
      let piece := (text.take found.finish).drop found.start
      -- an empty match right behind another match does not count
      let counts := !(found.start = found.finish && last? = some found.start)
      let count := if counts then count + 1 else count
      let wanted := counts && (count = s.nth || (s.everywhere && s.nth < count))
      let group (n : Nat) : List Char :=
        if n = 0 then piece
        else match found.groups.lookup n with
          | some (start, finish) => (text.take finish).drop start
          | none => []
      let new := if wanted then replacement group s.parts .asTheyAre none else piece
      let empty := found.start = found.finish
      let next := if empty then found.finish + 1 else found.finish
      let skipped := if empty then (text.drop found.finish).take 1 else []
      let front := between ++ new ++ skipped
      if wanted && !s.everywhere then some (front ++ text.drop next)
      else if text.length < next then if wanted then some front else none
      else
        match replaced r same s text fuel next count (some found.finish) with
        | some after => some (front ++ after)
        | none => if wanted then some (front ++ text.drop next) else none

/-- How a character is listed so that it can be told from all others. -/
def listed (c : Char) : List Char :=
  match c with
  | '\\' => ['\\', '\\']
  | '\x07' => ['\\', 'a']
  | '\x08' => ['\\', 'b']
  | '\x0c' => ['\\', 'f']
  | '\n' => ['\\', 'n']
  | '\r' => ['\\', 'r']
  | '\t' => ['\\', 't']
  | '\x0b' => ['\\', 'v']
  | c =>
    if 0x20 ≤ c.toNat && c.toNat < 0x7f then [c]
    else
      let digit (n : Nat) : Char := Nat.digitChar (n % 8)
      ['\\', digit (c.toNat / 64), digit (c.toNat / 8), digit c.toNat]

/-- A text listed in lines of some width; without a width it is one line. -/
def listedLine (width : Nat) (text : List Char) : List Char :=
  let (shown, _) := text.foldl (fun ((shown, used) : List (List Char) × Nat) c =>
    let piece := listed c
    if 0 < width && width - 1 < used + piece.length then
      (piece :: ['\\', '\n'] :: shown, piece.length)
    else (piece :: shown, used + piece.length)) ([], 0)
  shown.reverse.flatten ++ ['$']

/-- What comes after an instruction. -/
inductive Step where
  | onward
  | jumpTo (place : Nat)
  /-- The line is done; it may have to be printed. -/
  | done (silent : Bool)
  /-- The instructions begin anew without a new line. -/
  | again
  | stop (code : Nat) (silent : Bool)

/-- The place behind the block that an instruction opens. -/
def blockEnd (all : Array Instruction) : Nat → Nat → Nat → Nat
  | 0, place, _ => place
  | fuel + 1, place, depth =>
    match all[place]?.map Instruction.action with
    | none => place
    | some .openBlock => blockEnd all fuel (place + 1) (depth + 1)
    | some .closeBlock => if depth ≤ 1 then place + 1 else blockEnd all fuel (place + 1) (depth - 1)
    | some _ => blockEnd all fuel (place + 1) depth

/-- The place of a label; without a name the end of the script. -/
def placeOf (all : Array Instruction) (name : List Char) : Nat :=
  let found := if name.isEmpty then none else all.findIdx? fun i =>
    match i.action with
    | .label label => label = name
    | _ => false
  found.getD all.size

/-- Writes a line to a file that the script names. -/
def putTo (plan : EditPlan) (name : String) (text : List Char) (ended : Bool) : Edit Unit := do
  match (← get).targets.lookup name with
  | some descriptor =>
    if descriptor = 1 && plan.inPlace?.isSome then
      liftM (Doing.send 1 (Bytes.ofUnits text ++ [plan.mark]))
    else putLine plan descriptor text ended
  | none => pure ()

/-- The part of a text before the end of its first line, and whether there is one. -/
def firstLine (plan : EditPlan) (text : List Char) : List Char × Bool :=
  let line := text.takeWhile fun c => c.toNat != plan.mark.toNat
  (line, line.length < text.length)

/-- Replaces what matches in the line in work. -/
def substitute (plan : EditPlan) (sub : Substitution) : Edit Unit := do
  let (r, same) ← patternFor sub.r? sub.foldCase
  let space := (← get).space
  match replaced r same sub space (space.length + 2) 0 0 none with
  | none => pure ()
  | some space =>
    modify fun s => { s with space := space, substituted := true }
    if sub.print then putSpace plan
    match sub.file? with
    | some name => putTo plan name space (← get).ended
    | none => pure ()

/-- Takes one more line of a file. -/
def lineOf? (plan : EditPlan) (name : String) : Edit (Option Bytes) := do
  let lines ← match (← get).lines.lookup name with
    | some lines => pure lines
    | none => do
      match ← liftM (Doing.readFile name) with
      | .ok bytes =>
        let stretches := (bytes.map fun b => if b = plan.mark then 0x0a else b)
        pure (linesOf stretches).1
      | .error _ => pure []
  modify fun s => { s with lines := Keyed.put name (lines.drop 1) s.lines }
  return lines.head?

/-- Does what an instruction says. -/
def act (plan : EditPlan) (place : Nat) (i : Instruction) : Edit Step := do
  let s ← get
  match i.action with
  | .substitute sub =>
    substitute plan sub
    return .onward
  | .exchange old new =>
    let pairs := old.zip new
    set { s with space := s.space.map fun c => (pairs.lookup c).getD c }
    return .onward
  | .print =>
    putSpace plan
    return .onward
  | .printFirst =>
    let (line, cut) := firstLine plan s.space
    putLine plan 1 line (cut || s.ended)
    return .onward
  | .list width? =>
    settle plan 1
    put plan 1 (Bytes.ofUnits (listedLine (width?.getD plan.width) s.space) ++ [0x0a])
    return .onward
  | .printName =>
    settle plan 1
    put plan 1 (s.name.toUTF8.toList ++ [0x0a])
    return .onward
  | .delete => return .done true
  | .deleteFirst =>
    let (line, cut) := firstLine plan s.space
    if cut then
      set { s with space := s.space.drop (line.length + 1) }
      return .again
    else return .done true
  | .clear =>
    set { s with space := [] }
    return .onward
  | .next =>
    if ← isLast plan then return .done plan.quiet
    if !plan.quiet then putSpace plan
    if ← nextLine plan false then return .onward else return .done plan.quiet
  | .nextJoined =>
    if ← isLast plan then return .done plan.quiet
    if ← nextLine plan true then return .onward else return .done plan.quiet
  | .quit code silent => return .stop code (silent || plan.quiet)
  | .number =>
    settle plan 1
    put plan 1 (toString s.lineNumber ++ "\n").toUTF8.toList
    return .onward
  | .keep joined =>
    set { s with held :=
      if joined then s.held ++ Char.ofNat plan.mark.toNat :: s.space else s.space }
    return .onward
  | .recall joined =>
    set { s with space :=
      if joined then s.space ++ Char.ofNat plan.mark.toNat :: s.held else s.held }
    return .onward
  | .swap =>
    set { s with space := s.held, held := s.space }
    return .onward
  | .append text =>
    set { s with queue := s.queue ++ [Queued.text (Bytes.ofUnits text)] }
    return .onward
  | .insert text =>
    settle plan 1
    put plan 1 (Bytes.ofUnits text)
    return .onward
  | .change text =>
    if i.final?.isNone || i.negated || (s.ranges.lookup place).isNone then
      settle plan 1
      put plan 1 (Bytes.ofUnits text)
    return .done true
  | .jump name => return .jumpTo (placeOf plan.all name)
  | .jumpIf name expected =>
    set { s with substituted := false }
    return if s.substituted = expected then .jumpTo (placeOf plan.all name) else .onward
  | .label _ | .openBlock | .closeBlock | .nothing => return .onward
  | .readFile name =>
    set { s with queue := s.queue ++ [Queued.file name] }
    return .onward
  | .readLine name =>
    match ← lineOf? plan name with
    | some line => modify fun s => { s with queue := s.queue ++ [Queued.text (line ++ [plan.mark])] }
    | none => pure ()
    return .onward
  | .writeFile name =>
    putTo plan name s.space s.ended
    return .onward
  | .writeFirst name =>
    putTo plan name (firstLine plan s.space).1 true
    return .onward

/-- Carries out the instructions for the line in work from a place on. -/
def runFrom (plan : EditPlan) : Nat → Nat → Edit Step
  | 0, _ => liftM (Doing.waitForever : Doing Step)
  | fuel + 1, place => do
    match plan.all[place]? with
    | none => return .done plan.quiet
    | some i =>
      if ← chosen plan place i then
        match ← act plan place i with
        | .onward => runFrom plan fuel (place + 1)
        | .jumpTo place => runFrom plan fuel place
        | .again =>
          putQueue plan
          runFrom plan fuel 0
        | result => return result
      else
        let next := if i.action matches .openBlock then blockEnd plan.all (plan.all.size + 1) place 0
          else place + 1
        runFrom plan fuel next

/-- How many instructions one line may take. -/
def mostSteps : Nat := 1000000

/-- Edits all lines that are left. Answers the exit code. -/
def runAll (plan : EditPlan) : Nat → Edit Nat
  | 0 => return 0
  | fuel + 1 => do
    if !(← nextLine plan false) then return 0
    match ← runFrom plan mostSteps 0 with
    | .stop code silent =>
      if !silent then putSpace plan
      putQueue plan
      return code
    | .done silent =>
      if !silent then putSpace plan
      runAll plan fuel
    | _ => runAll plan fuel

/-- The instructions whose ranges are open before the first line. -/
def openAtFirst (all : Array Instruction) : List (Nat × Option Nat) :=
  all.toList.zipIdx.filterMap fun (i, place) =>
    match i.first? with
    | some (.line 0) => some (place, none)
    | _ => none

/-- Edits the files of a plan. -/
def run (plan : EditPlan) : Edit Nat := do
  let code ← runAll plan Doing.mostReads
  let s ← get
  if s.source != .between then finishFile plan
  if s.source = .reading 0 then liftM (Doing.giveBack 0 s.buffer.length)
  flush
  return if s.failed then 2 else code

/-- A script: what it is called in complaints, and its text. -/
abbrev Named := String × Bytes

/-- Reads the scripts one after the other, or complains about one of them. -/
def readScripts (extended zero : Bool) (scripts : List Named) :
    Except (Nat × String) Editing.Reading := do
  let mut r : Editing.Reading := {}
  let mut first := true
  for (place, bytes) in scripts do
    let text := Bytes.units bytes
    match r.add ⟨extended, first, zero⟩ text with
    | .ok next => r := next
    | .error (.outright problem) => throw (4, problem)
    | .error (.at problem left) =>
      let fromFile := place.startsWith "file "
      let read := text.take (text.length - left)
      let line := read.dropLast.count '\n' + 1
      let spot := if fromFile then s!"line {line}" else s!"char {read.length}"
      throw (1, if fromFile then s!"{place} {spot}: {problem}" else s!"{place}, {spot}: {problem}")
    first := false
  if r.depth != 0 then throw (1, "-e expression #1, char 0: unmatched \x60\x7b'")
  let labels := r.instructions.filterMap fun i =>
    match i.action with
    | .label name => some name
    | _ => none
  match (r.instructions.filterMap fun i => i.action.goal?).find? (· ∉ labels) with
  | some name => throw (4, s!"can't find label for jump to \x60{String.ofList name}'")
  | none => return r

/-- Opens the files that a script writes. -/
def openTargets (all : List Instruction) : Doing (Option (List (String × Nat))) := do
  let mut targets : List (String × Nat) := []
  for name in all.filterMap fun i => i.action.target? do
    if (targets.lookup name).isNone then
      if name = "/dev/stdout" then targets := (name, 1) :: targets
      else if name = "/dev/stderr" then targets := (name, 2) :: targets
      else
        let descriptor := Doing.ownDescriptor + 2 + targets.length
        match (← get).openToWrite descriptor name false false with
        | .ok p =>
          set p
          targets := (name, descriptor) :: targets
        | .error e =>
          Doing.complain s!"couldn't open file {name}: {e.description}"
          return none
  return some targets

end Edit

/-- Edits lines as a script says. -/
def edit : Program := fun _ => withOptions
  { letters := "nEre:f:szul:b"
    optional := "i"
    inner := "PSF"
    words := [("quiet", 'n'), ("silent", 'n'), ("regexp-extended", 'E'), ("expression", 'e'),
      ("file", 'f'), ("in-place", 'i'), ("separate", 's'), ("unbuffered", 'u'),
      ("line-length", 'l'), ("null-data", 'z'), ("zero-terminated", 'z'), ("binary", 'b'),
      ("posix", 'P'), ("sandbox", 'S'), ("follow-symlinks", 'F')] } fun o => do
    let mut scripts : List Edit.Named := []
    let mut expressions := 0
    for (c, value) in o.options do
      if c = 'e' then
        expressions := expressions + 1
        let before := scripts.getLast?.filter fun (_, bytes) =>
          (bytes.reverse.takeWhile (· == 0x5c)).length % 2 = 1
        match before with
        | some (place, bytes) =>
          -- a backslash at the end of a script joins it with the next one
          scripts := scripts.dropLast ++ [(place, bytes ++ 0x0a :: value.toUTF8.toList)]
        | none => scripts := scripts ++ [(s!"-e expression #{expressions}", value.toUTF8.toList)]
      if c = 'f' then
        match ← Doing.readNamed value with
        | .ok bytes =>
          let bytes := if bytes.getLast? = some 0x0a then bytes.dropLast else bytes
          scripts := scripts ++ [(s!"file {value}", bytes)]
        | .error e =>
          Doing.complain s!"couldn't open file {value}: {e.description}"
          return 4
    let fromWord := !(o.has 'e' || o.has 'f')
    if fromWord && o.operands.isEmpty then
      let p ← get
      let usage :=
        s!"Usage: {p.name} [OPTION]... \x7bscript-only-if-no-other-script\x7d [input-file]...\n"
      set (p.write 2 usage.toUTF8.toList)
      return 1
    if fromWord then scripts := [("-e expression #1", (o.operands.headD "").toUTF8.toList)]
    let names := if fromWord then o.operands.drop 1 else o.operands
    match Edit.readScripts (o.has 'E' || o.has 'r') (o.has 'z') scripts with
    | .error (code, problem) =>
      Doing.complain problem
      return code
    | .ok r =>
      let some targets ← Edit.openTargets r.instructions | return 4
      let plan : EditPlan :=
        { all := r.instructions.toArray
          quiet := o.has 'n' || r.silent
          mark := if o.has 'z' then 0 else 0x0a
          separate := o.has 's' || o.has 'i'
          inPlace? := o.last? 'i'
          width := ((o.last? 'l').bind String.toNat?).getD 70
          block := if o.has 'u' then 1 else Edit.flushSize }
      let start : Editor :=
        { names := if names.isEmpty then ["-"] else names
          ranges := Edit.openAtFirst plan.all
          targets := targets }
      let (code, _) ← StateT.run (Edit.run plan) start
      return code

end ToolHost.Utility
