import ToolHost.Calendar
import ToolHost.Difference.Columns
import ToolHost.Difference.Merged
import ToolHost.Text.Glob
import ToolHost.Text.Regex.Reading
import ToolHost.Utility.Names

/-! The program that shows in which lines two files differ, or all files of two directories. -/
namespace ToolHost.Utility

/-- Points to more help in the name of the program. -/
def namedHint (name : String) : String := s!"{name}: Try '{name} --help' for more information.\n"

/-- Complains that words are missing or too many. -/
def miscompared (problem : String) : Doing Nat :=
  OptionTable.stop { letters := "", failure := 2, hint := namedHint } (.wrong problem)

namespace Differ

open Difference

/-- In which manner differences are shown. -/
inductive Manner where
  | normal
  | context
  | unified
  | editor
  | forward
  | counted
  | columns
  | merged
  deriving DecidableEq, Repr

/-- What the options say. -/
structure Settings where
  manner : Manner
  around : Nat
  sameness : Sameness
  look : Look
  columns : Columns
  formats : Formats
  minimal : Bool
  brief : Bool
  tellsSame : Bool
  asText : Bool
  dropsReturns : Bool
  recursive : Bool
  /-- Whether a file that is not there counts as empty: the first one, and the second one. -/
  absentIsEmpty : Bool × Bool
  labels : List String
  excluded : List Text.Glob
  /-- The name from which on the files of directories are compared. -/
  startName : String
  /-- The options as they were given. -/
  shown : List String

/-- What stands at one side of a comparison. -/
inductive Subject where
  | absent
  | input
  | found (place : Place) (node : Node)

namespace Subject

def isDirectory : Subject → Bool
  | found _ (.directory ..) => true
  | _ => false

/-- Whether a file is meant that has content, where directories hold nothing else. -/
def isPlain : Subject → Bool
  | found _ (.file ..) | found _ (.program _) => true
  | _ => false

/-- What sort of thing a subject is. -/
def kind : Subject → String
  | found _ (.directory ..) => "directory"
  | found _ (.file content _) => if content.isEmpty then "regular empty file" else "regular file"
  | found _ (.program _) => "regular file"
  | found _ .sink => "character special file"
  | _ => "fifo"

/-- When it was changed. -/
def modified (now : Int) : Subject → Int
  | absent => 0
  | input => now
  | found _ node => node.status.modified

end Subject

/-- Finds what a path names. -/
def subjectOf (path : Path) : Doing (Except OsError Subject) := do
  if path = "-" then return .ok .input
  let p ← get
  return (p.world.files.find p.cwd path).map fun (place, node) => .found place node

/-- Whether two subjects are one. -/
def isSame (files : FileTree) : Subject → Subject → Bool
  | .input, .input => true
  | .found a _, .found b _ =>
    a = b || ((files.fileAt? a).isSome && files.fileAt? a = files.fileAt? b)
  | _, _ => false

/-- The name at one side as messages show it. -/
def Settings.named (s : Settings) (n : Nat) (path : Path) : String := s.labels[n]?.getD path

/-- A word as a shell reads it back. -/
def shellWord (word : String) : String :=
  let starts := word.toList.head?.all fun c => c = '#' || c = '~'
  if !starts && !word.toList.any fun c => needsQuotes c && c != ':' then word
  else
    let inner := word.toList.flatMap fun c => if c = '\'' then "'\\''".toList else [c]
    "'" ++ String.ofList inner ++ "'"

/-- The letter for a character behind a backslash, or its digits. -/
def escapedCharacter (c : Char) : String :=
  match c with
  | '\x07' => "\\a"
  | '\x08' => "\\b"
  | '\t' => "\\t"
  | '\n' => "\\n"
  | '\x0b' => "\\v"
  | '\x0c' => "\\f"
  | '\r' => "\\r"
  | '"' => "\\\""
  | '\\' => "\\\\"
  | c =>
    if c.toNat < 32 then
      let digits := String.ofList (Nat.toDigits 8 c.toNat)
      "\\" ++ "".pushn '0' (3 - digits.length) ++ digits
    else String.singleton c

/-- A name in a heading, in quotes if it holds characters that could be taken for something else. -/
def headingName (name : String) : String :=
  let escaped := "".intercalate (name.toList.map escapedCharacter)
  if escaped != name || ' ' ∈ name.toList then "\"" ++ escaped ++ "\"" else name

/-- What the headings say of one side. -/
def Settings.title (s : Settings) (n : Nat) (path : Path) (modified : Int) : String :=
  match s.labels[n]? with
  | some label => label
  | none => headingName path ++ "\t" ++ (Moment.ofMicros modified).exactText

/-- All that is printed about changes, without a heading. -/
def Settings.body (s : Settings) (a b : Text) (changes : List Change) : Bytes :=
  let grouped (print : Hunk → Bytes) : Bytes :=
    (group s.look a b s.around changes).flatMap fun group =>
      if s.look.isTrivial a b group then [] else print (.ofChanges group)
  let single (changes : List Change) (print : Hunk → Bytes) : Bytes :=
    changes.flatMap fun c =>
      if s.look.isTrivial a b [c] then [] else print (.ofChanges [c])
  match s.manner with
  | .normal => single changes (normalHunk s.look a b)
  | .context => grouped (contextHunk s.look s.around a b)
  | .unified => grouped (unifiedHunk s.look s.around a b)
  | .editor => single changes.reverse (editorHunk s.look b)
  | .forward => single changes (forwardHunk s.look b)
  | .counted => single changes (countedHunk s.look b)
  | .columns => s.columns.rowsFrom s.look a b 0 0 changes
  | .merged => mergedFrom s.look s.formats a b 0 0 changes

/-- Whether nothing is printed about texts without differences. -/
def Settings.silentIfSame (s : Settings) : Bool :=
  match s.manner with
  | .columns => s.columns.hidesEqual
  | .merged =>
    s.formats.equalGroup = "" || (s.formats.equalGroup = "%=" && s.formats.equalLine = "")
  | _ => true

/-- Whether the ends of last lines count. -/
def Settings.endsMatter (s : Settings) : Bool := s.manner != .editor && s.manner != .forward

/-- Whether some differences do not count. -/
def Settings.ignores (s : Settings) : Bool :=
  s.sameness.blanks != .matter || s.sameness.ignoreCase || s.dropsReturns || s.look.trivial?.isSome

/-- How many bytes at the front of a file tell whether it holds text. -/
def sampleSize : Nat := 4096

/-- Bytes without the returns at the ends of lines. -/
def withoutReturns : Bytes → Bytes
  | 0x0d :: 0x0a :: rest => 0x0a :: withoutReturns rest
  | b :: rest => b :: withoutReturns rest
  | [] => []

/-- Tells that two files differ, and nothing more. -/
def tellDifferent (s : Settings) (front : String) (a b : Path) : Doing Unit := do
  let (first, second) := (s.named 0 a, s.named 1 b)
  Doing.print s!"{front} {first} and {second} differ\n"

/-- Compares the contents of two files, and shows how they differ. -/
def compareContents (s : Settings) (within : Bool) (a b : Path) (left right : Subject)
    (x y : Bytes) : Doing Nat := do
  if s.brief && !s.ignores then
    if x = y then return 0
    tellDifferent s "Files" a b
    return 1
  else if !s.asText && (0 ∈ x.take sampleSize || 0 ∈ y.take sampleSize) then
    if x = y then return 0
    tellDifferent s (if s.brief then "Files" else "Binary files") a b
    return 1
  else
    let clean (bytes : Bytes) : Bytes := if s.dropsReturns then withoutReturns bytes else bytes
    let (one, other) := (Text.ofBytes (clean x), Text.ofBytes (clean y))
    let margin := match s.manner with
      | .context | .unified => s.around
      | _ => 0
    let changes := changesOf s.sameness s.minimal margin s.endsMatter one other
    let differs := changes.any fun c => !s.look.isTrivial one other [c]
    if s.brief then
      if differs then tellDifferent s "Files" a b
      return if differs then 1 else 0
    let bare := if differs || !s.silentIfSame then s.body one other changes else []
    if !bare.isEmpty then
      if within then
        let words := "diff" :: s.shown.map shellWord ++ [headingName a, headingName b]
        Doing.print (" ".intercalate words ++ "\n")
      let now := (← get).world.now
      let (first, second) := (s.title 0 a (left.modified now), s.title 1 b (right.modified now))
      match s.manner with
      | .context => Doing.print s!"*** {first}\n--- {second}\n"
      | .unified => Doing.print s!"--- {first}\n+++ {second}\n"
      | _ => pure ()
      Doing.printBytes bare
    if !s.endsMatter && (!one.ended || !other.ended) then
      for (path, t) in [(a, one), (b, other)] do
        if !t.ended then Doing.complain s!"{path}: No newline at end of file\n"
      return 2
    return if differs then 1 else 0

/-- The content of a subject. -/
def contentOf : Subject → Doing (Except OsError Bytes)
  | .absent => return .ok []
  | .input => Doing.readNamed "-"
  | .found _ (.file content _) => return .ok content
  | .found _ (.program _) => return .ok FileTree.programBytes
  | .found _ (.directory ..) => return .error .isADirectory
  | .found _ _ => return .ok []

/-- The names in a directory that are to be compared. -/
def namesFor (s : Settings) (files : FileTree) : Subject → List String
  | .found place (.directory ..) =>
    ((files.namesIn place).filter fun name =>
      s.startName ≤ name && !s.excluded.any fun glob => glob.holds name.toList).mergeSort (· ≤ ·)
  | _ => []

/-- Pairs of equal names in two lists in order, with those that stand in one of them alone. -/
def pairNames : Nat → List String → List String → List (String × Bool × Bool)
  | 0, _, _ => []
  | _, [], others => others.map fun name => (name, false, true)
  | _, names, [] => names.map fun name => (name, true, false)
  | fuel + 1, a :: names, b :: others =>
    if a = b then (a, true, true) :: pairNames fuel names others
    else if a < b then (a, true, false) :: pairNames fuel names (b :: others)
    else (b, false, true) :: pairNames fuel (a :: names) others

/-- Compares all that two directories hold; `inner` compares what stands at two paths below them. -/
def compareDirectories (s : Settings) (inner : Path × Bool → Path × Bool → Doing Nat)
    (a b : Path) (left right : Subject) : Doing Nat := do
  let files := (← get).world.files
  let (names, others) := (namesFor s files left, namesFor s files right)
  let pairs := pairNames (names.length + others.length + 1) names others
  let mut status := 0
  for (name, aThere, bThere) in pairs do
    let alone := (aThere && !bThere && !s.absentIsEmpty.2) ||
      (bThere && !aThere && !s.absentIsEmpty.1)
    if alone then
      let dir := if aThere then a else b
      Doing.print s!"Only in {dir}: {name}\n"
      status := max status 1
    else
      let code ← inner (Path.join a name, aThere) (Path.join b name, bThere)
      status := max status code
  return status

/-- Compares what two subjects contain that are no directories. -/
def compareSubjects (s : Settings) (within : Bool) (a b : Path) (left right : Subject) :
    Doing Nat := do
  let x ← contentOf left
  let y ← contentOf right
  match x, y with
  | .ok x, .ok y => compareContents s within a b left right x y
  | .error e, .error f =>
    blame a e
    blame b f
    return 2
  | .error e, .ok _ =>
    blame a e
    return 2
  | .ok _, .error e =>
    blame b e
    return 2

/-- Tells that something is there only once. -/
def tellOnly (path : Path) : Doing Unit := do
  let (dir, name) := (directoryOf path, lastName path)
  Doing.print s!"Only in {dir}: {name}\n"

/-- Compares what was found at two paths. -/
def compareFound (s : Settings) (inner : Path × Bool → Path × Bool → Doing Nat) (within : Bool)
    (a b : Path) (left right : Subject) : Doing Nat := do
  let files := (← get).world.files
  let missing := (left matches .absent, right matches .absent)
  let absent := missing.1 || missing.2
  let directories := (left.isDirectory, right.isDirectory)
  if (missing.1 && missing.2) || (isSame files left right && s.silentIfSame) then return 0
  else if directories.1 && directories.2 || (absent && (directories.1 || directories.2)) then
    if s.manner = .merged then
      Doing.complain "-D option not supported with directories"
      return 2
    else if !within || s.recursive then compareDirectories s inner a b left right
    else if absent then
      tellOnly (if missing.1 then b else a)
      return 1
    else
      Doing.print s!"Common subdirectories: {a} and {b}\n"
      return 0
  else if directories.1 || directories.2 || (within && !absent && !(left.isPlain && right.isPlain)) then
    let (first, second) := (s.named 0 a, s.named 1 b)
    Doing.print s!"File {first} is a {left.kind} while file {second} is a {right.kind}\n"
    return 1
  else compareSubjects s within a b left right

/-- What stands at two paths, with the paths of what is compared; a path may stand for nothing. An
error says what the exit code is. -/
def subjectsAt (s : Settings) (within : Bool) (one other : Path × Bool) :
    Doing (Except Nat ((Path × Subject) × (Path × Subject))) := do
  let (a, b) := (one.1, other.1)
  let find (side : Path × Bool) : Doing (Except OsError Subject) :=
    if side.2 then subjectOf side.1 else return .ok .absent
  let first ← find one
  let second ← find other
  let tolerant (found : Except OsError Subject) (present allowed : Bool) : Except OsError Subject :=
    if found matches .error .notFound then
      if present && !within && allowed then .ok .absent else found
    else found
  match tolerant first second.isOk s.absentIsEmpty.1, tolerant second first.isOk s.absentIsEmpty.2 with
  | .error e, .error f =>
    blame a e
    blame b f
    return .error 2
  | .error e, .ok _ =>
    blame a e
    return .error 2
  | .ok _, .error e =>
    blame b e
    return .error 2
  | .ok left, .ok right =>
    let absent := (left matches .absent) || (right matches .absent)
    if within || absent || left.isDirectory == right.isDirectory then
      return .ok ((a, left), (b, right))
    else if a = "-" || b = "-" then
      Doing.complain "cannot compare '-' to a directory"
      return .error 2
    else
      -- what is found there may be a directory again
      let path := if left.isDirectory then Path.join a (lastName b) else Path.join b (lastName a)
      match ← subjectOf path with
      | .error e =>
        blame path e
        return .error 2
      | .ok found =>
        return .ok (if left.isDirectory then ((path, found), (b, right)) else ((a, left), (path, found)))

/-- Compares what stands at two paths; a path may stand for nothing. Directories are compared only so
deep. -/
def compareAt (s : Settings) : Nat → Bool → Path × Bool → Path × Bool → Doing Nat
  | 0, _, _, _ => return 2
  | depth + 1, within, one, other => do
    match ← subjectsAt s within one other with
    | .error code => return code
    | .ok ((a, left), (b, right)) =>
      let status ← compareFound s (compareAt s depth true) within a b left right
      if status = 0 && s.tellsSame && !left.isDirectory then
        let (first, second) := (s.named 0 a, s.named 1 b)
        Doing.print s!"Files {first} and {second} are identical\n"
      return status

/-- How deep directories are compared. -/
def deepest : Nat := 200

/-- The manner that an option asks for. -/
def mannerOf? (letter : Char) : Option Manner :=
  if letter ∈ ['c', 'C'] then some .context
  else if letter ∈ ['u', 'U'] then some .unified
  else if letter ∈ ['D', 'A', 'G', 'g', 'J', 'j', 'K', 'k', 'M'] then some .merged
  else
    match letter with
    | 'e' => some .editor
    | 'f' => some .forward
    | 'n' => some .counted
    | 'y' => some .columns
    | 'z' => some .normal
    | _ => none

/-- Why a comparison is not begun. -/
inductive Refusal where
  /-- The words are not what they should be. -/
  | misuse (problem : String)
  | problem (text : String)

/-- The one manner that options ask for. -/
def readManner (o : Options) : Except Refusal (Option Manner) :=
  match (o.options.filterMap fun (c, _) => mannerOf? c).eraseDups with
  | [] => .ok none
  | [manner] => .ok (some manner)
  | _ => .error (.misuse "conflicting output style options")

/-- How many lines options want to see around a change. -/
def readAround (o : Options) (shown : Bool) : Except Refusal Nat := do
  let given ← o.options.filterMapM fun (c, value) =>
    if c ∈ ['C', 'U'] || (c ∈ ['c', 'u'] && value != "") then
      match value.toNat? with
      | some n => return some (n, true)
      | none => throw (.misuse s!"invalid context length '{value}'")
    else if c ∈ ['c', 'u'] then return some (3, false)
    else return none
  let digits := o.options.filterMap fun (c, _) => if c.isDigit then some c else none
  let most := (given.map Prod.fst).foldl max 0
  let exact := given.any Prod.snd
  match (String.ofList digits).toNat? with
  | some n => return if most < n || !exact then n else most
  | none => return if given.isEmpty && shown then 3 else most

/-- Which blanks options leave out of account. -/
def readBlanks (o : Options) : Blanks :=
  if o.has 'w' then .never
  else if o.has 'b' then .asOne
  else if o.has 'E' && o.has 'Z' then .tabsAsBlanksExceptAtEnd
  else if o.has 'E' then .tabsAsBlanks
  else if o.has 'Z' then .exceptAtEnd
  else .matter

/-- The patterns that options with a letter give. -/
def readPatterns (o : Options) (letter : Char) : Except Refusal (List Text.Regex) :=
  (o.options.filter fun (c, _) => c = letter).mapM fun (_, text) =>
    match Text.Regex.read (.searching false) text.toList with
    | .ok (r, _) => .ok r
    | .error problem => .error (.problem s!"{text}: {problem.message}")

/-- Whether a line holds something that one of the patterns describes. -/
def holdsAny (patterns : List Text.Regex) (line : Bytes) : Bool :=
  let chars := (Bytes.text line).toList
  patterns.any fun r => (r.find? (· == ·) chars 0).isSome

/-- Which lines make no difference, as options say. -/
def readTrivial (o : Options) (blanks : Blanks) : Except Refusal (Option (Bytes → Bool)) := do
  let patterns ← readPatterns o 'I'
  if !o.has 'B' && patterns.isEmpty then return none
  let blank (line : Bytes) : Bool :=
    o.has 'B' && (if blanks.endsMatter then line.isEmpty else line.all isBlank)
  return some fun line => blank line || holdsAny patterns line

/-- Which lines are shown in headings, as options say. -/
def readHeads (o : Options) : Except Refusal (Option (Bytes → Bool)) := do
  let patterns ← readPatterns o 'F'
  if !o.has 'p' && patterns.isEmpty then return none
  let begins (line : Bytes) : Bool := o.has 'p' && line.head?.any fun b =>
    (Char.ofNat b.toNat).isAlpha || b = 0x24 || b = 0x5f
  return some fun line => begins line || holdsAny patterns line

/-- The formats of a merged text, as options say. -/
def readFormats (o : Options) : Formats :=
  let named? := (o.last? 'D').map Formats.ofName
  let replaced? := o.last? 'A'
  let line (letter : Char) : String := (((o.last? letter).or (o.last? 'G')).getD "%l\n")
  let group (letter : Char) (other : Formats → String) (usual : String) : String :=
    (((o.last? letter).or (named?.map other)).getD usual)
  let deleted := group 'j' Formats.deletedGroup (replaced?.getD "%<")
  let inserted := group 'g' Formats.insertedGroup (replaced?.getD "%>")
  { deletedGroup := deleted
    insertedGroup := inserted
    replacedGroup := group 'A' Formats.replacedGroup (deleted ++ inserted)
    equalGroup := group 'k' Formats.equalGroup "%="
    deletedLine := line 'K'
    insertedLine := line 'J'
    equalLine := line 'M' }

/-- A positive number that options give, all the same one. -/
def readSize (o : Options) (letter : Char) (called : String) (usual : Nat) : Except Refusal Nat := do
  let size (option : Char × String) : Except Refusal Nat :=
    match option.2.toNat? with
    | some (n + 1) => .ok (n + 1)
    | _ => .error (.misuse s!"invalid {called} '{option.2}'")
  let sizes ← (o.options.filter fun (c, _) => c = letter).mapM size
  match sizes.eraseDups with
  | [] => return usual
  | [n] => return n
  | _ => throw (.problem s!"conflicting {called} options")

/-- The words that are no operands. -/
def optionWords (words operands : List String) : List String :=
  (words.foldr (fun word (kept, left) =>
    match left with
    | operand :: rest => if word = operand then (kept, rest) else (word :: kept, left)
    | [] => (word :: kept, [])) ([], operands.reverse)).1

/-- What options say. -/
def readSettings (o : Options) (words : List String) : Except Refusal Settings := do
  let manner? ← readManner o
  let manner := manner?.getD (if o.has 'p' then .context else .normal)
  let around ← readAround o (manner? = none)
  let blanks := readBlanks o
  let tabWidth ← readSize o 'Q' "tabsize" 8
  let width ← readSize o 'W' "width" 130
  let look : Look :=
    { expandTabs := o.has 't'
      tabWidth := tabWidth
      tabBehindMark := o.has 'T'
      trimsEmpty := o.has '@'
      trivial? := ← readTrivial o blanks
      heads? := ← readHeads o }
  return {
    manner := manner
    around := around
    sameness := { blanks := blanks, ignoreCase := o.has 'i', tabWidth := tabWidth }
    look := look
    columns := .ofWidth look width (o.has 'Y') (o.has 'V')
    formats := readFormats o
    minimal := o.has 'd'
    brief := o.has 'q'
    tellsSame := o.has 's'
    asText := o.has 'a'
    dropsReturns := o.has 'R'
    recursive := o.has 'r'
    absentIsEmpty := (o.has 'N' || o.has 'P', o.has 'N')
    labels := o.options.filterMap fun (c, value) => if c = 'L' then some value else none
    excluded := o.options.filterMap fun (c, value) =>
      if c = 'x' then some (Text.Glob.ofText value.toList) else none
    startName := (o.last? 'S').getD ""
    shown := optionWords words o.operands }

/-- The patterns of names that are left out, as files list them. -/
def readExcluded (o : Options) : Doing (Except (Path × OsError) (List Text.Glob)) := do
  let mut globs := []
  for (c, path) in o.options do
    if c = 'X' then
      match ← Doing.readNamed path with
      | .error e => return .error (path, e)
      | .ok bytes =>
        globs := globs ++ ((linesOf bytes).1.filter (!·.isEmpty)).map fun line =>
          Text.Glob.ofText (Bytes.text line).toList
  return .ok globs

/-- The pairs of paths that are to be compared. -/
def readPairs (o : Options) (name : String) (words : List String) :
    Except Refusal (List (Path × Path)) :=
  match o.last? 'm', o.last? 'O', o.operands with
  | some source, _, operands => .ok (operands.map fun path => (source, path))
  | none, some target, operands => .ok (operands.map fun path => (path, target))
  | none, none, [a, b] => .ok [(a, b)]
  | none, none, _ :: _ :: extra :: _ => .error (.misuse s!"extra operand '{extra}'")
  | none, none, _ =>
    let last := words.getLastD name
    .error (.misuse s!"missing operand after '{last}'")

end Differ

/-- Shows in which lines two files differ. -/
def diff : Program := fun _ words => withOptions
  { letters := "0123456789abBcC:dD:eEfF:hHiI:lL:nNpPqrsS:tTuU:vwW:x:X:yZ"
    optional := "uc%"
    inner := "A:G:g:J:j:K:k:M:m:O:o:Q:RVYz@+=~"
    words := [("binary", '='), ("brief", 'q'), ("changed-group-format", 'A'), ("color", '%'),
      ("context", 'c'), ("ed", 'e'), ("exclude", 'x'), ("exclude-from", 'X'), ("expand-tabs", 't'),
      ("forward-ed", 'f'), ("from-file", 'm'), ("horizon-lines", 'o'), ("ifdef", 'D'),
      ("ignore-all-space", 'w'), ("ignore-blank-lines", 'B'), ("ignore-case", 'i'),
      ("ignore-file-name-case", '~'), ("ignore-matching-lines", 'I'),
      ("ignore-space-change", 'b'), ("ignore-tab-expansion", 'E'),
      ("ignore-trailing-space", 'Z'), ("inhibit-hunk-merge", '='), ("initial-tab", 'T'),
      ("label", 'L'), ("left-column", 'Y'), ("line-format", 'G'), ("minimal", 'd'),
      ("new-file", 'N'), ("new-group-format", 'g'), ("new-line-format", 'J'),
      ("no-dereference", '+'), ("no-ignore-file-name-case", '='), ("normal", 'z'),
      ("old-group-format", 'j'), ("old-line-format", 'K'), ("paginate", 'l'), ("rcs", 'n'),
      ("recursive", 'r'), ("report-identical-files", 's'), ("show-c-function", 'p'),
      ("show-function-line", 'F'), ("side-by-side", 'y'), ("speed-large-files", 'H'),
      ("starting-file", 'S'), ("strip-trailing-cr", 'R'), ("suppress-blank-empty", '@'),
      ("suppress-common-lines", 'V'), ("tabsize", 'Q'), ("text", 'a'), ("to-file", 'O'),
      ("unchanged-group-format", 'k'), ("unchanged-line-format", 'M'),
      ("unidirectional-new-file", 'P'), ("unified", 'u'), ("width", 'W')]
    failure := 2
    hint := namedHint }
  (fun o => do
    if o.has 'v' then return 0
    match Differ.readSettings o words, Differ.readPairs o (← get).name words with
    | .error (.misuse problem), _ | .ok _, .error (.misuse problem) => miscompared problem
    | .error (.problem text), _ | .ok _, .error (.problem text) =>
      Doing.complain text
      return 2
    | .ok settings, .ok pairs =>
      if 2 < settings.labels.length then
        Doing.complain "too many file label options"
        return 2
      match ← Differ.readExcluded o with
      | .error (path, e) =>
        blame path e
        return 2
      | .ok globs =>
        let settings := { settings with excluded := settings.excluded ++ globs }
        pairs.foldlM (fun status (a, b) => do
          let code ← Differ.compareAt settings Differ.deepest false (a, true) (b, true)
          return max status code) 0) words

end ToolHost.Utility
