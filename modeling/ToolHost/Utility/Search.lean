import ToolHost.Text.Glob
import ToolHost.Text.Regex.Reading
import ToolHost.Utility.LineReader
import ToolHost.Utility.Streams

/-! The program that looks for lines. -/
namespace ToolHost.Utility

/-- What lines are looked for. -/
structure Search where
  patterns : List Text.Regex
  same : Char → Char → Bool
  wholeLine : Bool
  wholeWord : Bool

namespace Search

/-- Whether a stretch of a line is bounded by what is no part of a word. -/
def isWord (line : List Char) (start finish : Nat) : Bool :=
  let wordAt (index : Nat) : Bool := (line.drop index).head?.any Text.Regex.isWordChar
  !(0 < start && wordAt (start - 1)) && !wordAt finish

/-- The end of a match that begins at an index, where that match may be shorter than it could be so
that it is a word. -/
def wordEnd? (s : Search) (r : Text.Regex) (line : List Char) (start : Nat) :
    Nat → Nat → Option Nat
  | 0, _ => none
  | fuel + 1, limit =>
    match r.matchAt? s.same (line.take limit) start with
    | none => none
    | some found =>
      if isWord line start found.finish then some found.finish
      else if found.finish ≤ start then none
      else wordEnd? s r line start fuel (found.finish - 1)

/-- The end of the match that begins at an index, the longest one. -/
def endAt? (s : Search) (line : List Char) (start : Nat) : Option Nat :=
  let ends := s.patterns.filterMap fun r =>
    if s.wholeLine then
      if start = 0 then
        ((r.matchAt? s.same line 0).map Text.Regex.Found.finish).filter (· = line.length)
      else none
    else if s.wholeWord then s.wordEnd? r line start (line.length + 1) line.length
    else (r.matchAt? s.same line start).map Text.Regex.Found.finish
  ends.max?

/-- The first match that does not begin before an index. -/
def find? (s : Search) (line : List Char) (index : Nat) : Option (Nat × Nat) :=
  (List.range' index (line.length + 1 - index)).findSome? fun start =>
    (s.endAt? line start).map fun finish => (start, finish)

/-- All matches that are not empty, one behind the other. -/
def findAll (s : Search) (line : List Char) : Nat → Nat → List (Nat × Nat)
  | 0, _ => []
  | fuel + 1, index =>
    match s.find? line index with
    | none => []
    | some (start, finish) =>
      if finish ≤ start then findAll s line fuel (start + 1)
      else (start, finish) :: findAll s line fuel finish

end Search

/-- Whether two characters are the same but for their case. -/
def sameLetter (a b : Char) : Bool := a.toLower == b.toLower

/-- What is done with what is found. -/
structure SearchPlan where
  search : Search
  o : Options
  titled : Bool
  most? : Option Nat
  before : Nat
  after : Nat
  /-- Whether lines around those that match are asked for. -/
  around : Bool
  mark : UInt8

namespace SearchPlan

def has (plan : SearchPlan) (letter : Char) : Bool := plan.o.has letter

/-- Whether no lines are printed. -/
def terse (plan : SearchPlan) : Bool :=
  plan.has 'q' || plan.has 'l' || plan.has 'L' || plan.has 'c'

/-- Whether matches are shown in colours. -/
def coloured (plan : SearchPlan) : Bool := plan.o.last? 'K' == some "always"

/-- A text in a colour. -/
def inColour (plan : SearchPlan) (colour text : String) : String :=
  if plan.coloured && text != "" then s!"\x1b[{colour}m\x1b[K{text}\x1b[m\x1b[K" else text

/-- What stands before a line. -/
def front (plan : SearchPlan) (title : String) (number offset : Nat) (mark : String) : String :=
  let mark := plan.inColour "36" mark
  let name := if plan.titled then
      plan.inColour "35" title ++ (if plan.has 'Z' then "\x00" else mark)
    else ""
  let number := if plan.has 'n' then plan.inColour "32" (toString number) ++ mark else ""
  let offset := if plan.has 'b' then plan.inColour "32" (toString offset) ++ mark else ""
  name ++ number ++ offset

/-- A line with the matches in it in a colour. -/
def shown (plan : SearchPlan) (line : Bytes) : Bytes :=
  if plan.coloured && !plan.has 'v' then
    let chars := Bytes.units line
    let (pieces, finish) := (plan.search.findAll chars (chars.length + 1) 0).foldl
      (fun (pieces, index) (start, finish) =>
        let match_ := Bytes.ofUnits ((chars.take finish).drop start)
        let coloured := "\x1b[01;31m\x1b[K".toUTF8.toList ++ match_ ++ "\x1b[m\x1b[K".toUTF8.toList
        (coloured :: Bytes.ofUnits ((chars.take start).drop index) :: pieces, finish)) ([], 0)
    pieces.reverse.flatten ++ Bytes.ofUnits (chars.drop finish)
  else line

/-- What a line that matches is printed as. -/
def hitLine (plan : SearchPlan) (title : String) (number offset : Nat) (line : Bytes) : Bytes :=
  if plan.has 'o' then
    if plan.has 'v' then []
    else
      let chars := Bytes.units line
      (plan.search.findAll chars (chars.length + 1) 0).flatMap fun (start, finish) =>
        let piece := Bytes.ofUnits ((chars.take finish).drop start)
        let piece := if plan.coloured then
            "\x1b[01;31m\x1b[K".toUTF8.toList ++ piece ++ "\x1b[m\x1b[K".toUTF8.toList
          else piece
        (plan.front title number (offset + start) ":").toUTF8.toList ++ piece ++ [plan.mark]
  else (plan.front title number offset ":").toUTF8.toList ++ plan.shown line ++ [plan.mark]

/-- A line near one that matches. -/
def nearLine (plan : SearchPlan) (title : String) (number offset : Nat) (line : Bytes) : Bytes :=
  if plan.has 'o' then []
  else (plan.front title number offset "-").toUTF8.toList ++ line ++ [plan.mark]

/-- What stands between lines that are not neighbours. -/
def gap (plan : SearchPlan) : Bytes :=
  if plan.has 'g' then []
  else
    let text := (plan.o.last? 'S').getD "--"
    (plan.inColour "36" text ++ "\n").toUTF8.toList

/-- How far the search in a file has come. -/
structure Progress where
  reader : LineReader
  number : Nat := 0
  offset : Nat := 0
  count : Nat := 0
  /-- The lines before the present one that may have to be shown, the last one first. -/
  recent : List (Nat × Nat × Bytes) := []
  /-- How many lines behind a match are still to be shown. -/
  following : Nat := 0
  /-- Whether lines have been left out since the last one that was printed. -/
  gapped : Bool := false
  binary : Bool := false
  /-- What is to be printed, the last part first. -/
  output : List Bytes := []
  outputSize : Nat := 0
  /-- Whether something was printed before. -/
  printed : Bool := false

/-- How much is printed at once. -/
def flushSize : Nat := 4096

def Progress.put (s : Progress) (bytes : Bytes) : Progress :=
  { s with output := bytes :: s.output, outputSize := s.outputSize + bytes.length }

def Progress.flush (s : Progress) : Doing Progress := do
  Doing.printBytes s.output.reverse.flatten
  return { s with output := [], outputSize := 0 }

/-- Whether the search goes on behind a line. -/
def wantsMore (plan : SearchPlan) (s : Progress) : Bool :=
  if 0 < s.count && (plan.has 'q' || plan.has 'l' || plan.has 'L' || s.binary && !plan.terse) then
    false
  else plan.most?.all fun most => s.count < most || 0 < s.following

/-- Adds a line that matches, with the lines before it. -/
def addHit (plan : SearchPlan) (title : String) (s : Progress) (line : Bytes) : Progress :=
  let s := { s with count := s.count + 1 }
  if plan.terse || s.binary then s
  else
    let near := if plan.has 'o' then [] else s.recent.take plan.before
    let skipped := near.length < s.recent.length || s.gapped
    let s := if plan.around && s.printed && skipped && !plan.has 'o' then s.put plan.gap else s
    let s := near.reverse.foldl (fun s (number, offset, line) =>
      s.put (plan.nearLine title number offset line)) s
    let s := s.put (plan.hitLine title s.number s.offset line)
    { s with recent := [], gapped := false, printed := true, following := plan.after }

/-- Adds a line that does not match. -/
def addMiss (plan : SearchPlan) (title : String) (s : Progress) (line : Bytes) : Progress :=
  if plan.terse || s.binary then s
  else if 0 < s.following then
    { s.put (plan.nearLine title s.number s.offset line) with following := s.following - 1 }
  else
    let recent := (s.number, s.offset, line) :: s.recent
    if plan.before < recent.length then
      { s with recent := recent.take plan.before, gapped := true }
    else { s with recent := recent }

/-- Looks through the lines that are left of a file. -/
def searchLines (plan : SearchPlan) (title : String) : Nat → Progress → Doing Progress
  | 0, s => return s
  | fuel + 1, s => do
    if !plan.wantsMore s then return s
    let (line?, reader) ← s.reader.next
    let s := { s with reader := reader }
    match line? with
    | none => return s
    | some (line, _) =>
      let text := plan.has 'a' || plan.has 'z'
      let s := { s with
        number := s.number + 1
        binary := s.binary || (!text && (line.contains 0 || s.reader.buffer.contains 0)) }
      let hit := plan.most?.all (s.count < ·) &&
        (plan.search.find? (Bytes.units line) 0).isSome != plan.has 'v'
      let s := if hit then plan.addHit title s line else plan.addMiss title s line
      let s := { s with offset := s.offset + line.length + 1 }
      let s ← if flushSize ≤ s.outputSize then s.flush else pure s
      searchLines plan title fuel s

/-- Looks through what is behind a descriptor. Answers whether there is such a line. -/
def searchBehind (plan : SearchPlan) (title : String) (descriptor : Nat) (printed : Bool) :
    Doing (Bool × Bool) := do
  let start : Progress := { reader := { descriptor, mark := plan.mark, block := 32768 }, printed, gapped := printed }
  let s ← plan.searchLines title Doing.mostReads start
  if plan.most?.any (s.count = ·) then s.reader.close
  let s ← s.flush
  if s.binary && plan.has 'I' then return (false, printed)
  let name := plan.inColour "35" title ++ if plan.has 'Z' then "\x00" else "\n"
  if plan.has 'q' then pure ()
  else if plan.has 'l' then if 0 < s.count then Doing.print name
  else if plan.has 'L' then if s.count = 0 then Doing.print name
  else if plan.has 'c' then
    let front := if plan.titled then
        plan.inColour "35" title ++ (if plan.has 'Z' then "\x00" else plan.inColour "36" ":")
      else ""
    Doing.print (front ++ toString s.count ++ "\n")
  else if s.binary && 0 < s.count then Doing.complain s!"{title}: binary file matches"
  return (0 < s.count, s.printed)

end SearchPlan

/-- What files are looked through. -/
structure FileFilter where
  included : List Text.Glob
  excluded : List Text.Glob
  excludedDirectories : List Text.Glob

namespace FileFilter

/-- Whether a glob stands for a path or for the last name along it. -/
def meets (glob : Text.Glob) (path : Path) : Bool :=
  glob.holds path.toList || glob.holds (lastName path).toList

/-- Whether a file is looked through. -/
def takes (f : FileFilter) (path : Path) : Bool :=
  (f.included.isEmpty || f.included.any (meets · path)) && !f.excluded.any (meets · path)

/-- The files below a place, in order, with their paths. -/
def below (f : FileFilter) (files : FileTree) (followed : Bool) : Nat → Path → Place → List Path
  | 0, _, _ => []
  | depth + 1, path, place =>
    ((files.namesIn place).mergeSort (· ≤ ·)).flatMap fun name =>
      let inner := place ++ [name]
      let path := Path.join path name
      let node? := match files.node? inner, followed with
        | some (.link _), true => (files.find [] ("/" ++ "/".intercalate inner)).toOption.map Prod.snd
        | node?, _ => node?
      match node? with
      | some (.directory ..) =>
        if f.excludedDirectories.any (meets · path) then []
        else below f files followed depth path inner
      | some (.file ..) | some (.program _) => if f.takes path then [path] else []
      | _ => []

end FileFilter

/-- The expression of a pattern in the notation that options name. -/
def searchPattern (o : Options) (text : String) : Except Text.Regex.Problem Text.Regex :=
  let chars := Bytes.units text.toUTF8.toList
  if o.has 'F' then .ok (Text.Regex.ofWord chars)
  else (Text.Regex.readStrictly (.searching (o.has 'E')) chars).map Prod.fst

/-- What is printed where no pattern is given. -/
def searchUsage (name : String) : String :=
  s!"Usage: {name} [OPTION]... PATTERNS [FILE]...\nTry '{name} --help' for more information.\n"

/-- The options of the program that looks for lines. -/
def searchOptions : OptionTable :=
  { letters := "EFGPivcnlLoqsxwhHre:f:m:A:B:C:aRbyzZTUId:D:u"
    words := [("extended-regexp", 'E'), ("fixed-strings", 'F'), ("basic-regexp", 'G'),
      ("ignore-case", 'i'), ("invert-match", 'v'), ("count", 'c'), ("line-number", 'n'),
      ("files-with-matches", 'l'), ("files-without-match", 'L'), ("only-matching", 'o'),
      ("quiet", 'q'), ("silent", 'q'), ("no-messages", 's'), ("line-regexp", 'x'),
      ("word-regexp", 'w'), ("no-filename", 'h'), ("with-filename", 'H'), ("recursive", 'r'),
      ("dereference-recursive", 'R'), ("regexp", 'e'), ("file", 'f'), ("max-count", 'm'),
      ("after-context", 'A'), ("before-context", 'B'), ("context", 'C'), ("text", 'a'),
      ("no-ignore-case", 'j'), ("perl-regexp", 'P'), ("byte-offset", 'b'),
      ("line-buffered", 'k'), ("color", 'K'), ("colour", 'K'), ("null", 'Z'), ("null-data", 'z'),
      ("initial-tab", 'T'), ("binary", 'U'), ("binary-files", 't'), ("directories", 'd'),
      ("devices", 'D'), ("include", 'N'), ("exclude", 'X'), ("exclude-dir", 'Y'),
      ("exclude-from", 'W'), ("label", 'M'), ("group-separator", 'S'),
      ("no-group-separator", 'g')]
    optional := "K"
    inner := "jkKt:N:X:Y:W:M:S:g"
    failure := 2
    hint := searchUsage }

/-- Words in which a number behind a hyphen asks for so many lines around those that match. -/
def withContexts (words : List String) : List String :=
  match words with
  | [] => []
  | [word] => [rewritten word]
  | "--" :: rest => "--" :: rest
  | word :: value :: rest =>
    if word ∈ ["-A", "-B", "-C", "-e", "-f", "-m", "-d", "-D"] then
      word :: value :: withContexts rest
    else rewritten word :: withContexts (value :: rest)
where
  /-- A number behind a hyphen as an option with an argument. -/
  rewritten (word : String) : String :=
    let digits := word.toList.drop 1
    if word.startsWith "-" && !digits.isEmpty && digits.all Char.isDigit then
      "-C" ++ String.ofList digits
    else word

/-- Prints the lines that match. -/
def searchLines : Program := fun _ words => withOptions searchOptions (fun o => do
  let refuse (problem : String) : Doing Nat := do
    Doing.complain problem
    return 2
  let kinds := (o.options.filterMap fun (c, _) =>
    if c ∈ ['E', 'F', 'G', 'P'] then some c else none).eraseDups
  if 1 < kinds.length then return ← refuse "conflicting matchers specified"
  let mut texts : List String := []
  for (c, value) in o.options do
    if c = 'e' then texts := texts ++ value.splitOn "\n"
    if c = 'f' then
      match ← Doing.readNamed value with
      | .ok bytes => texts := texts ++ (linesOf bytes).1.map Bytes.text
      | .error e =>
        blame value e
        return 2
    if (c = 'A' || c = 'B' || c = 'C') && value.toNat?.isNone then
      return ← refuse s!"{value}: invalid context length argument"
    if c = 'm' && value.toInt?.isNone then return ← refuse "invalid max count"
  let fromWord := !(o.has 'e' || o.has 'f')
  match fromWord, o.operands with
  | true, [] =>
    modify fun p => p.write 2 (searchUsage p.name).toUTF8.toList
    return 2
  | _, operands =>
    let names := if fromWord then operands.drop 1 else operands
    let all := if fromWord then (operands.headD "").splitOn "\n" else texts
    match all.mapM (searchPattern o) with
    | .error problem => refuse problem.message
    | .ok patterns =>
      let fold := o.lastOf? ['i', 'y', 'j']
      run o names
        ⟨patterns, if fold.any (· != 'j') then sameLetter else (· == ·), o.has 'x', o.has 'w'⟩)
    (withContexts words)
where
  /-- Looks through files. -/
  run (o : Options) (names : List String) (s : Search) : Doing Nat := do
    let deep := o.has 'r' || o.has 'R' || o.last? 'd' == some "recurse"
    let everything := deep && names.isEmpty
    let names := if names.isEmpty then (if deep then ["."] else ["-"]) else names
    let globs (letter : Char) : List Text.Glob :=
      (o.options.filter fun (c, _) => c = letter).map fun (_, text) =>
        Text.Glob.ofText (withoutSlashes text).toList
    let wanted : FileFilter := ⟨globs 'N', globs 'X', globs 'Y'⟩
    let number (letter : Char) : Option Nat := (o.last? letter).bind String.toNat?
    let lengths := ['A', 'B', 'C'].map number
    let p ← get
    let isDirectory (name : String) : Bool := (p.world.files.enter p.cwd name).toOption.isSome
    let titled := match o.lastOf? ['H', 'h'] with
      | some c => c == 'H'
      | none => 1 < names.length || (deep && names.any isDirectory)
    let kind := o.last? 't'
    let o := if kind = some "text" then o.add 'a' "" else if kind = some "without-match" then
      o.add 'I' "" else o
    let plan : SearchPlan :=
      { search := s, o := o, most? := (o.last? 'm').bind fun text => text.toInt?.bind fun n =>
          if n < 0 then none else some n.toNat
        titled := titled
        before := (number 'B').getD ((number 'C').getD 0)
        after := (number 'A').getD ((number 'C').getD 0)
        around := lengths.any Option.isSome
        mark := if o.has 'z' then 0 else 0x0a }
    let mut failed := false
    let mut found := false
    let mut printed := false
    for name in names do
      let p ← get
      let paths := match deep && name != "-", (p.world.files.enter p.cwd name).toOption with
        | true, some place =>
          (wanted.below p.world.files (o.has 'R') 100 name place).map fun (path : String) =>
            if everything then (path.drop 2).toString else path
        | _, _ => if name = "-" || wanted.takes name then [name] else []
      for path in paths do
        let title := if path = "-" then (o.last? 'M').getD "(standard input)" else path
        let before := printed
        let result ← Doing.withInput path fun descriptor => do
          if feedsItself (← get) descriptor && !(plan.terse) then
            Doing.complain s!"{title}: input file is also the output"
            return none
          return some (← plan.searchBehind title descriptor before)
        match result with
        | .error e =>
          let skipped := e = .isADirectory && (o.last? 'd' == some "skip" || deep)
          if !skipped then
            if !o.has 's' then blame title e
            failed := true
        | .ok none => failed := true
        | .ok (some (hit, shown)) =>
          if hit then found := true
          printed := shown
          if hit && o.has 'q' then return 0
    return if failed then 2 else if found then 0 else 1

end ToolHost.Utility
