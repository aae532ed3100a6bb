import ToolHost.Calendar
import ToolHost.Text.Glob
import ToolHost.Text.Regex.Reading
import ToolHost.Utility.Listing

/-! The program that looks for files. -/
namespace ToolHost.Utility

namespace Finding

/-- How a number compares with the one that is asked for. -/
inductive Comparison where
  | more
  | less
  | equal
  deriving DecidableEq

def Comparison.holds (c : Comparison) (n bound : Nat) : Bool :=
  match c with
  | more => bound < n
  | less => n < bound
  | equal => n = bound

/-- Which bits of a mode are asked for. -/
inductive ModeTest where
  | exactly (mode : Nat)
  | all (mode : Nat)
  | any (mode : Nat)

/-- A condition on files, or something to do with those that meet the ones before. -/
inductive Criterion where
  | always (holds : Bool)
  | name (glob : Text.Glob) (foldCase : Bool)
  | path (glob : Text.Glob) (foldCase : Bool)
  | target (glob : Text.Glob) (foldCase : Bool)
  | expression (r : Text.Regex) (foldCase : Bool)
  | kind (letters : List Char)
  | empty
  | size (c : Comparison) (n unit : Nat)
  /-- The age in units of microseconds. -/
  | age (c : Comparison) (n : Nat) (unit : Nat)
  | newer (modified : Int)
  | names (c : Comparison) (n : Nat)
  | rights (t : ModeTest)
  | runnable
  | same (place : Place)
  | prune
  | quit
  | print (finish : String)
  | printFormat (text : List Char)
  | delete
  /-- Runs a program for each file, in the directory where it lies or in the present one. -/
  | run (words : List String) (inPlace : Bool)
  /-- Runs a program for all files together; the number tells it from others. -/
  | runAll (number : Nat) (words : List String)
  | negated (c : Criterion)
  | both (a b : Criterion)
  | either (a b : Criterion)
  | sequence (a b : Criterion)

/-- Whether a criterion does something that is seen. -/
def Criterion.acts : Criterion → Bool
  | print _ | printFormat _ | delete | run .. | runAll .. => true
  | negated c => c.acts
  | both a b | either a b | sequence a b => a.acts || b.acts
  | _ => false

/-- How files are looked for. -/
structure Plan where
  least : Nat := 0
  greatest? : Option Nat := none
  /-- Whether what a directory holds comes before it. -/
  depthFirst : Bool := false
  followed : Bool := false
  /-- Whether links are followed where the search begins. -/
  followedAtStart : Bool := false
  /-- The notation of expressions. -/
  dialect : Text.Regex.Dialect := .paths

/-- How far the words have been read. -/
structure Reader where
  words : List String
  plan : Plan
  /-- How many programs are to be run for all files together. -/
  batches : Nat := 0

abbrev Read := StateT Reader (Except String)

def fail (problem : String) : Read α := throw problem

/-- The next word, without taking it. -/
def peek : Read (Option String) := do return (← get).words.head?

def skip : Read Unit := modify fun s => { s with words := s.words.drop 1 }

/-- Takes the argument of a word. -/
def argument (word : String) : Read String := do
  match (← get).words with
  | value :: rest =>
    modify fun s => { s with words := rest }
    return value
  | [] => fail s!"missing argument to \x60{word}'"

/-- Reads a number that may stand behind a sign. -/
def comparison? (text : String) : Option (Comparison × Nat × List Char) :=
  let (c, digits) : Comparison × List Char := match text.toList with
    | '+' :: rest => (.more, rest)
    | '-' :: rest => (.less, rest)
    | text => (.equal, text)
  let number := digits.takeWhile Char.isDigit
  (String.ofList number).toNat?.map fun n => (c, n, digits.drop number.length)

/-- Takes the number behind a word. -/
def number (word : String) : Read (Comparison × Nat) := do
  let text ← argument word
  match comparison? text with
  | some (c, n, []) => return (c, n)
  | _ => fail s!"invalid argument \x60{text}' to \x60{word}'"

/-- Takes a depth behind a word. -/
def depth (word : String) : Read Nat := do
  let text ← argument word
  match text.toNat? with
  | some n => return n
  | none =>
    fail s!"Expected a positive decimal integer argument to {word}, but got {cited text}"

/-- Reads a size with its unit. -/
def sizeOfText (text : String) : Except String Criterion :=
  let units : List (Char × Nat) := [('b', 512), ('c', 1), ('w', 2), ('k', 1024), ('M', 1048576),
    ('G', 1073741824)]
  let last := (text.toList.getLast?).getD ' '
  match comparison? text with
  | some (c, n, []) => .ok (.size c n 512)
  | some (c, n, [letter]) =>
    match units.lookup letter with
    | some unit => .ok (.size c n unit)
    | none => .error s!"invalid -size type \x60{letter}'"
  | _ =>
    if (units.lookup last).isSome then .error s!"Invalid argument \x60{text}' to -size"
    else .error s!"invalid -size type \x60{last}'"

/-- Reads which kinds of files are asked for. -/
def kindsOfText (text : String) : Except String Criterion := do
  let letters ← (Path.splitAt ',' text.toList).mapM fun part =>
    match part with
    | [c] =>
      if c ∈ ['f', 'd', 'l', 'c', 'b', 'p', 's'] then .ok c
      else .error s!"Unknown argument to -type: {c}"
    | [] => .error "Arguments to -type should contain at least one letter"
    | _ => .error "Must separate multiple arguments to -type using: ','"
  return .kind letters

/-- Reads which rights are asked for. -/
def rightsOfText (text : String) : Except String Criterion :=
  let change (text : String) : Except String Nat :=
    match Rights.change? false 0 text 0 with
    | some mode => .ok mode
    | none => .error s!"invalid mode {cited text}"
  match text.toList with
  | '-' :: rest => (change (String.ofList rest)).map fun mode => .rights (.all mode)
  | '/' :: rest => (change (String.ofList rest)).map fun mode => .rights (.any mode)
  | _ => (change text).map fun mode => .rights (.exactly mode)

/-- Takes the words of a program to run. -/
def programWords (word : String) : Read (List String × Bool) := do
  let words := (← get).words
  -- a plus sign ends the words only behind braces
  let finish := words.zipIdx.findIdx? fun (text, n) =>
    text = ";" || (text = "+" && 0 < n && (words[n - 1]?) = some "\x7b\x7d")
  match finish with
  | none => fail s!"missing argument to \x60{word}'"
  | some n =>
    let last := (words[n]?).getD ""
    if n = 0 then fail s!"invalid argument \x60{last}' to \x60{word}'"
    modify fun s => { s with words := words.drop (n + 1) }
    return (words.take n, last = "+")

/-- The file that a path leads to, for a comparison with others. -/
def reference (p : Process) (path : Path) : Except String (Place × Node) :=
  match p.world.files.find p.cwd path with
  | .ok found => .ok found
  | .error e => .error s!"{cited path}: {e.description}"

/-- The microseconds of a day and of a minute. -/
def dayUnit : Nat := 86400000000

def minuteUnit : Nat := 60000000

/-- Takes one condition or action behind its word. -/
def readSingle (p : Process) (word : String) : Read Criterion := do
  let glob : Read Text.Glob := do return Text.Glob.ofText (← argument word).toList
  let lower : Read Text.Glob := do return Text.Glob.ofText (← argument word).toLower.toList
  let always (holds : Bool) : Read Criterion := return .always holds
  let withPlan (change : Plan → Plan) : Read Criterion := do
    modify fun s => { s with plan := change s.plan }
    return .always true
  let expression (foldCase : Bool) : Read Criterion := do
    let text ← argument word
    match Text.Regex.read (← get).plan.dialect (Bytes.units text.toUTF8.toList) with
    | .ok (r, _) => return .expression r foldCase
    | .error problem => fail problem.message
  let run (inPlace : Bool) : Read Criterion := do
    let (words, together) ← programWords word
    if together && !inPlace then
      let s ← get
      set { s with batches := s.batches + 1 }
      return .runAll s.batches words
    else return .run words inPlace
  let user : Read Criterion := do
    let name ← argument word
    if name = "root" || name = "0" then return .always true
    else if name.toNat?.isSome then return .always false
    else
      let kind := if word = "-user" then "user" else "group"
      fail s!"{cited name} is not the name of a known {kind}"
  match word with
  | "-true" | "-xdev" | "-mount" | "-daystart" | "-noleaf" | "-warn" | "-nowarn"
  | "-ignore_readdir_race" | "-noignore_readdir_race" => always true
  | "-false" | "-nouser" | "-nogroup" => always false
  | "-readable" | "-writable" => always true
  | "-executable" => return .runnable
  | "-follow" => withPlan fun plan => { plan with followed := true }
  | "-depth" | "-d" => withPlan fun plan => { plan with depthFirst := true }
  | "-maxdepth" =>
    let n ← depth word
    withPlan fun plan => { plan with greatest? := some n }
  | "-mindepth" =>
    let n ← depth word
    withPlan fun plan => { plan with least := n }
  | "-regextype" =>
    let name ← argument word
    let extended := name ∈ ["posix-extended", "egrep", "posix-egrep", "awk", "gnu-awk", "posix-awk"]
    let basic := name ∈ ["posix-basic", "grep", "ed", "sed", "posix-minimal-basic"]
    let dialect : Text.Regex.Dialect :=
      if extended then Text.Regex.Dialect.searching true
      else if basic then Text.Regex.Dialect.editing false false
      else Text.Regex.Dialect.paths
    withPlan fun plan => { plan with dialect := dialect }
  | "-name" => return .name (← glob) false
  | "-iname" => return .name (← lower) true
  | "-path" | "-wholename" => return .path (← glob) false
  | "-ipath" | "-iwholename" => return .path (← lower) true
  | "-lname" => return .target (← glob) false
  | "-ilname" => return .target (← lower) true
  | "-regex" => expression false
  | "-iregex" => expression true
  | "-type" => liftM (kindsOfText (← argument word))
  | "-empty" => return .empty
  | "-size" => liftM (sizeOfText (← argument word))
  | "-perm" => liftM (rightsOfText (← argument word))
  | "-user" | "-group" => user
  | "-uid" | "-gid" =>
    let (c, n) ← number word
    always (c.holds 0 n)
  | "-links" =>
    let (c, n) ← number word
    return .names c n
  | "-inum" =>
    let _ ← number word
    always false
  | "-mtime" | "-atime" | "-ctime" =>
    let (c, n) ← number word
    return .age c n dayUnit
  | "-mmin" | "-amin" | "-cmin" =>
    let (c, n) ← number word
    return .age c n minuteUnit
  | "-newer" | "-anewer" | "-cnewer" | "-newermm" =>
    let (_, node) ← liftM (reference p (← argument word))
    return .newer node.status.modified
  | "-samefile" =>
    let (place, _) ← liftM (reference p (← argument word))
    return .same place
  | "-prune" => return .prune
  | "-quit" => return .quit
  | "-print" => return .print "\n"
  | "-print0" => return .print "\x00"
  | "-printf" =>
    let text := (← argument word).toList
    if (text.reverse.takeWhile (· == '%')).length % 2 = 1 then
      throw "error: % at end of format string"
    return .printFormat text
  | "-delete" =>
    let _ ← withPlan fun plan => { plan with depthFirst := true }
    return .delete
  | "-exec" => run false
  | "-execdir" => run true
  | word => fail s!"unknown predicate \x60{word}'"

/-- What binds two criteria, the loosest first. -/
inductive Level where
  | list
  | alternatives
  | conjunction
  | single
  deriving DecidableEq

/-- Reads criteria; the number bounds how many there can be. -/
def readCriterion (p : Process) : Nat → Level → Read Criterion
  | 0, _ => fail "invalid expression"
  | fuel + 1, level => do
    match level with
    | .list =>
      let a ← readCriterion p fuel .alternatives
      match ← peek with
      | some "," =>
        skip
        if (← peek).isNone then fail "expected an expression after ','"
        return .sequence a (← readCriterion p fuel .list)
      | _ => return a
    | .alternatives =>
      let a ← readCriterion p fuel .conjunction
      match ← peek with
      | some word =>
        if word = "-o" || word = "-or" then
          skip
          if (← peek).isNone then fail s!"expected an expression after '{word}'"
          return .either a (← readCriterion p fuel .alternatives)
        else return a
      | none => return a
    | .conjunction =>
      let a ← readCriterion p fuel .single
      match ← peek with
      | none => return a
      | some word =>
        if word ∈ ["-o", "-or", ",", ")"] then return a
        else if word = "-a" || word = "-and" then
          skip
          if (← peek).isNone then fail s!"expected an expression after '{word}'"
          return .both a (← readCriterion p fuel .conjunction)
        else return .both a (← readCriterion p fuel .conjunction)
    | .single =>
      match ← peek with
      | none => fail "invalid expression"
      | some word =>
        skip
        match word with
        | "!" | "-not" =>
          if (← peek).isNone then fail s!"expected an expression after '{word}'"
          return .negated (← readCriterion p fuel .single)
        | "(" =>
          match ← peek with
          | none =>
            fail ("invalid expression; expected to find a ')' but didn't see one. " ++
              "Perhaps you need an extra predicate after '('")
          | some ")" => fail "invalid expression; empty parentheses are not allowed."
          | _ =>
            let c ← readCriterion p fuel .list
            match ← peek with
            | some ")" =>
              skip
              return c
            | _ =>
              fail ("invalid expression; I was expecting to find a ')' somewhere but " ++
                "did not see one.")
        | ")" => fail "invalid expression; you have too many ')'"
        | "-o" | "-or" | "-a" | "-and" | "," =>
          fail ("invalid expression; you have used a binary operator '" ++ word ++
            "' with nothing before it.")
        | word =>
          if word.startsWith "-" then readSingle p word
          else fail s!"paths must precede expression: \x60{word}'"

/-- A file that was found. -/
structure Found where
  path : Path
  /-- The path where the search began. -/
  start : Path
  place : Place
  node : Node
  depth : Nat

/-- What the search has come to. -/
structure Progress where
  /-- Whether what a directory holds is left out. -/
  pruned : Bool := false
  finished : Bool := false
  failed : Bool := false
  /-- The files for the programs that are run for all together. -/
  batches : List (Nat × List String × List Path) := []

abbrev Search := StateT Progress Doing

/-- When a file was changed; a link counts as new. -/
def Found.modified (f : Found) (p : Process) : Int :=
  match f.node with
  | .link _ => p.world.now
  | node => node.status.modified

/-- The path below the one where the search began. -/
def Found.below (f : Found) : Path :=
  let rest := (f.path.toList.drop f.start.length).dropWhile (· == '/')
  String.ofList rest

/-- What a letter stands for in a format. -/
def Found.part? (f : Found) (files : FileTree) : Char → Option String
  | 'p' => some f.path
  | 'f' => some (lastName f.path)
  | 'h' => some (if '/' ∈ (withoutSlashes f.path).toList then directoryOf f.path else ".")
  | 'P' => some f.below
  | 'H' => some f.start
  | 's' => some (toString (sizeOf f.node))
  | 'm' => some (Rights.octalText 1 f.node.status.mode)
  | 'M' => some (String.singleton (kindOf f.node).2 ++ Rights.text f.node.status.mode)
  | 'd' => some (toString f.depth)
  | 'y' | 'Y' =>
    let letter := (kindOf f.node).2
    some (String.singleton (if letter = '-' then 'f' else letter))
  | 'l' => some (match f.node with
    | .link target => target
    | _ => "")
  | 'u' | 'g' => some "root"
  | 'U' | 'G' => some "0"
  | 'n' => some (toString (namesOf files f.place f.node))
  | 'k' => some (toString ((sizeOf f.node + 4095) / 4096 * 4))
  | 'b' => some (toString ((sizeOf f.node + 4095) / 4096 * 8))
  | 't' | 'a' | 'c' =>
    let m := Moment.ofMicros f.node.status.modified
    some (m.format "%a %b %e %H:%M:%S." ++ Moment.digits '0' 9 (m.micro * 1000) ++ "0"
      ++ m.format " %Y")
  | '%' => some "%"
  | _ => none

/-- A format filled with what is known of a file. -/
def Found.fill (f : Found) (files : FileTree) : Nat → List Char → Bytes
  | 0, _ => []
  | _, [] => []
  | fuel + 1, '\\' :: 'c' :: _ => if fuel = 0 then [] else []
  | fuel + 1, '\\' :: rest =>
    let (bytes, rest) := escape .program rest
    bytes ++ f.fill files fuel rest
  | fuel + 1, '%' :: rest =>
    let (flags, rest) := rest.span (· ∈ ['-', '0', '#', ' ', '+'])
    let (digits, rest) := rest.span Char.isDigit
    let width := ((String.ofList digits).toNat?).getD 0
    match rest with
    | kind :: letter :: rest' =>
      if kind = 'T' || kind = 'A' || kind = 'C' then
        let m := Moment.ofMicros f.node.status.modified
        let fraction := "." ++ Moment.digits '0' 9 (m.micro * 1000) ++ "0"
        let text := match letter with
          | '@' => toString (m.toMicros.fdiv 1000000) ++ fraction
          | '+' => m.format "%Y-%m-%d+%H:%M:%S" ++ fraction
          | 'S' => m.format "%S" ++ fraction
          | 'T' => m.format "%H:%M:%S" ++ fraction
          | letter => m.format (String.ofList ['%', letter])
        text.toUTF8.toList ++ f.fill files fuel rest'
      else
        let text := ((f.part? files kind).map (inField flags width)).getD
          (String.ofList ['%', kind])
        text.toUTF8.toList ++ f.fill files fuel (letter :: rest')
    | [kind] =>
      (((f.part? files kind).map (inField flags width)).getD (String.ofList ['%', kind])).toUTF8.toList
    | [] => []
  | fuel + 1, c :: rest => utf8 [c] ++ f.fill files fuel rest

/-- Marks that something went wrong. -/
def failing : Search Unit := modify fun s => { s with failed := true }

/-- Runs a program for a file. -/
def runFor (start : Starter) (f : Found) (words : List String) (inPlace : Bool) : Search Bool := do
  let path := if inPlace then "./" ++ lastName f.path else f.path
  let words := words.map fun word => word.replace "\x7b\x7d" path
  let cwd := (← liftM (get : Doing Process)).cwd
  if inPlace then liftM (modify fun p => { p with cwd := f.place.dropLast } : Doing Unit)
  let result ← liftM (Doing.call start words)
  liftM (modify fun p => { p with cwd := cwd } : Doing Unit)
  match result with
  | .ok code => return code = 0
  | .error e =>
    liftM (blame (cited (words.headD "")) e)
    return false

/-- Removes a file. -/
def remove (f : Found) : Search Bool := do
  let p ← liftM (get : Doing Process)
  let refuse (e : OsError) : Search Bool := do
    liftM (blame s!"cannot delete {cited f.path}" e)
    failing
    return false
  match f.node with
  | .directory .. =>
    if f.path = "." then return true
    else if !(p.world.files.namesIn f.place).isEmpty then refuse .notEmpty
    else
      liftM (set { p with world.files := p.world.files.cut f.place } : Doing Unit)
      return true
  | _ =>
    liftM (set { p with world.files := p.world.files.cut f.place } : Doing Unit)
    return true

/-- Whether a file meets a criterion; what there is to do is done. -/
def Criterion.meets (start : Starter) (f : Found) : Criterion → Search Bool
  | always holds => return holds
  | name glob foldCase =>
    let name := lastName f.path
    return glob.holds (if foldCase then name.toLower else name).toList
  | .path glob foldCase => return glob.holds (if foldCase then f.path.toLower else f.path).toList
  | target glob foldCase =>
    return match f.node with
      | .link text => glob.holds (if foldCase then text.toLower else text).toList
      | _ => false
  | expression r foldCase =>
    let text := Bytes.units f.path.toUTF8.toList
    let same (a b : Char) : Bool := if foldCase then a.toLower == b.toLower else a == b
    return (r.matchAt? same text 0).any fun found => found.finish = text.length
  | kind letters =>
    let letter := (kindOf f.node).2
    return letters.contains (if letter = '-' then 'f' else letter)
  | empty => do
    let files := (← liftM (get : Doing Process)).world.files
    return match f.node with
      | .file content _ => content.isEmpty
      | .directory .. => (files.namesIn f.place).isEmpty
      | _ => false
  | .size c n unit => return c.holds ((sizeOf f.node + unit - 1) / unit) n
  | age c n unit => do
    let p ← liftM (get : Doing Process)
    let passed := ((p.world.now - f.modified p).toNat) / unit
    -- minutes count when they have begun, days when they are over
    return c.holds (if unit = minuteUnit && c != .more then passed + 1 else passed) n
  | newer modified => return modified < f.modified (← liftM (get : Doing Process))
  | names c n => do
    let files := (← liftM (get : Doing Process)).world.files
    return c.holds (namesOf files f.place f.node) n
  | rights t =>
    let mode := f.node.status.mode
    return match t with
      | .exactly bits => mode = bits
      | .all bits => mode &&& bits = bits
      | .any bits => bits = 0 || mode &&& bits != 0
  | runnable =>
    return match f.node with
      | .directory .. | .program _ => true
      | .file _ status => status.executable
      | _ => false
  | same place => do
    let files := (← liftM (get : Doing Process)).world.files
    return f.place = place || ((files.fileAt? place).isSome &&
      files.fileAt? place = files.fileAt? f.place)
  | prune => do
    modify fun s => { s with pruned := true }
    return true
  | quit => do
    modify fun s => { s with finished := true }
    return true
  | print finish => do
    liftM (Doing.print (f.path ++ finish))
    return true
  | printFormat text => do
    let files := (← liftM (get : Doing Process)).world.files
    liftM (Doing.printBytes (f.fill files (text.length + 1) text))
    return true
  | delete => remove f
  | .run words inPlace => runFor start f words inPlace
  | runAll number words => do
    let s ← get
    let paths := ((s.batches.lookup number).map Prod.snd).getD []
    set { s with batches := Keyed.put number (words, paths ++ [f.path]) s.batches }
    return true
  | negated c => do return !(← c.meets start f)
  | both a b => do
    if ← a.meets start f then
      if (← get).finished then return false else b.meets start f
    else return false
  | either a b => do
    if ← a.meets start f then return true
    else if (← get).finished then return false
    else b.meets start f
  | sequence a b => do
    let _ ← a.meets start f
    if (← get).finished then return false else b.meets start f

/-- Looks at a file and at all that is below it; the number bounds how deep. -/
def walk (start : Starter) (plan : Plan) (c : Criterion) (origin : Path) :
    Nat → Nat → Path → Place → Search Unit
  | 0, _, _, _ => return
  | fuel + 1, depth, path, place => do
    let p ← liftM (get : Doing Process)
    let node? := match p.world.files.node? place with
      | some (.link target) =>
        if plan.followed || (plan.followedAtStart && depth = 0) then
          match p.world.files.find [] ("/" ++ "/".intercalate place) with
          | .ok (_, node) => some node
          | .error _ => some (.link target)
        else some (.link target)
      | node? => node?
    let some node := node? | return
    let look : Search Unit := do
      if plan.least ≤ depth && !(← get).finished then
        modify fun s => { s with pruned := false }
        let _ ← c.meets start ⟨path, origin, place, node, depth⟩
    if !plan.depthFirst then look
    let pruned := !plan.depthFirst && (← get).pruned && plan.least ≤ depth
    let deeper := (node matches .directory ..) && plan.greatest?.all (depth < ·) && !pruned
    if deeper && !(← get).finished then
      let files := (← liftM (get : Doing Process)).world.files
      for name in (files.namesIn place).mergeSort (· ≤ ·) do
        if !(← get).finished then
          walk start plan c origin fuel (depth + 1) (Path.join path name) (place ++ [name])
    if plan.depthFirst then look

/-- Whether a word is no path but the beginning of the criteria. -/
def begins (word : String) : Bool :=
  (word.startsWith "-" && 1 < word.length) || word = "(" || word = "!"

/-- The letters in front of the paths that say whether links are followed. -/
def spanLinkOptions : List String → Plan → Plan × List String
  | "-L" :: rest, plan => spanLinkOptions rest { plan with followed := true }
  | "-H" :: rest, plan => spanLinkOptions rest { plan with followed := false, followedAtStart := true }
  | "-P" :: rest, plan => spanLinkOptions rest { plan with followed := false, followedAtStart := false }
  | "--" :: rest, plan => (plan, rest)
  | words, plan => (plan, words)


/-- Looks for files from the given paths on. -/
def search (start : Starter) (plan : Plan) (c : Criterion) (paths : List Path) : Search Unit := do
  for path in paths do
    let p ← liftM (get : Doing Process)
    let found := do
      let place ← p.world.files.locateEntry p.cwd path
      let some node := p.world.files.node? place | .error OsError.notFound
      if Path.endsInSlash path && !(node matches .directory .. | .link _) then
        .error OsError.notADirectory
      else .ok place
    match found with
    | .error e =>
      liftM (blame (cited path) e)
      failing
    | .ok place => if !(← get).finished then walk start plan c path 100 0 path place
  for (_, words, found) in (← get).batches.reverse do
    match ← liftM (Doing.call start (words.dropLast ++ found)) with
    | .ok code => if code != 0 then failing
    | .error e =>
      liftM (blame (cited (words.headD "")) e)
      failing

end Finding

open Finding in
/-- Looks for files. -/
def findFiles : Program := fun start words => do
  if words.any fun word => word ∈ ["-help", "--help", "-version", "--version"] then
    Doing.print "Usage: find [path...] [expression]\n"
    return 0
  let (plan, words) := spanLinkOptions words {}
  let paths := words.takeWhile fun word => !begins word
  let rest := words.drop paths.length
  let p ← get
  let read : Read Criterion := do
    if rest.isEmpty then return .always true
    let c ← readCriterion p (4 * rest.length + 8) .list
    match ← peek with
    | some _ => fail "invalid expression; you have too many ')'"
    | none => return c
  match read.run ⟨rest, plan, 0⟩ with
  | .error problem =>
    Doing.complain problem
    return 1
  | .ok (c, s) =>
    let c := if c.acts then c else .both c (.print "\n")
    let ((), progress) ← (search start s.plan c (if paths.isEmpty then ["."] else paths)).run {}
    return if progress.failed then 1 else 0

end ToolHost.Utility
