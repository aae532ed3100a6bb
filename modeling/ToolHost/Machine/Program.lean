import ToolHost.Machine.Files

/-! Finding and loading the program that a path starts. -/
namespace ToolHost

/-- A program of the machine that is ready to run. -/
structure Loaded where
  program : String
  /-- The words for it, without the one that names it. -/
  args : List String
  /-- The name it is told it was started under, if that is not the one it was called by. -/
  name? : Option String
  deriving DecidableEq, Repr

namespace FileTree

/-- The place of the file that a path leads to, if it may be started. -/
def executableAt (t : FileTree) (cwd : Place) (path : Path) : Except OsError Place :=
  match t.find cwd path with
  | .error e => .error e
  | .ok (place, .program _) => .ok place
  | .ok (place, .file _ status) =>
    if status.executable then .ok place else .error .permissionDenied
  | .ok _ => .error .permissionDenied

/-- Looks for a program in one directory after the other. A file that may not be started is
remembered, but the search goes on. -/
def search (t : FileTree) (cwd : Place) (name : String) (denied : Bool) :
    List Path → Except OsError (Path × Place)
  | [] => .error (if denied then .permissionDenied else .notFound)
  | dir :: dirs =>
    match t.executableAt cwd (Path.join dir name) with
    | .ok place => .ok (Path.join dir name, place)
    | .error .permissionDenied => search t cwd name true dirs
    | .error .notFound | .error .notADirectory => search t cwd name denied dirs
    | .error e => .error e

/-- The file that is started for a path, and the path under which it was found. A path without a
separator is looked for in the directories of `dirs`, and not in `cwd`. -/
def findProgram (t : FileTree) (cwd : Place) (dirs : List Path) (path : Path) :
    Except OsError (Path × Place) :=
  if path = "" then .error .notFound
  else if '/' ∈ path.toList then (t.executableAt cwd path).map fun place => (path, place)
  else t.search cwd path false dirs

/-- How many bytes of a script the system looks at for its interpreter. -/
def scriptHead : Nat := 256

def isSpace (b : UInt8) : Bool := b == 0x20 || b == 0x09

/-- Whether a byte ends the name of an interpreter. -/
def endsName (b : UInt8) : Bool := isSpace b || b == 0

/-- The first line of a script behind its two marks, without blanks at its ends. Of the script only
so many bytes are looked at, with zeros where it is shorter. A line whose end is not among them, or
stands behind a zero, counts as far as they reach, unless the name of the interpreter may go on. -/
def scriptLine? (rest : Bytes) : Option Bytes :=
  let size := scriptHead - 2
  let head := rest.take size ++ List.replicate (size - rest.length) 0
  let line := head.takeWhile fun b => b != 0x0a && b != 0
  let trim (line : Bytes) : Bytes :=
    ((line.reverse.dropWhile isSpace).reverse).dropWhile isSpace
  let found : Option Bytes :=
    if head[line.length]? = some 0x0a then some line
    else if (head.dropWhile isSpace).any endsName then some head.dropLast
    else none
  (found.map trim).filter fun line => !line.isEmpty

/-- The interpreter that the first line of a script names, and the one word it may give it. -/
def interpreter? (content : Bytes) : Option (Path × List String) :=
  match content with
  | 0x23 :: 0x21 :: rest =>
    (scriptLine? rest).map fun line =>
      let (path, rest) := line.span fun b => !endsName b
      let words := match rest with
        | [] | 0 :: _ => []
        | rest => [Bytes.text ((rest.dropWhile isSpace).takeWhile (· != 0))]
      (Bytes.text path, words)
  | _ => none

/-- Loads the program at a place; a script is loaded as its interpreter, with the script's path as
a word. An interpreter may itself be a script, but not without end. One without a name stands for
the working directory. -/
def loadWithin (t : FileTree) (cwd : Place) :
    Nat → Path → Place → List String → Except OsError Loaded
  | 0, _, _, _ => .error .tooManyLinks
  | depth + 1, path, place, args =>
    match t.node? place with
    | some (.program name) => .ok ⟨name, args, none⟩
    | some (.file content _) =>
      match interpreter? content with
      | none => .error .notAProgram
      | some (interpreter, words) =>
        let found := if interpreter = "" then "." else interpreter
        match t.executableAt cwd found with
        | .error e => .error e
        | .ok place =>
          match loadWithin t cwd depth interpreter place (words ++ path :: args) with
          | .error e => .error e
          | .ok loaded => .ok { loaded with name? := some (loaded.name?.getD interpreter) }
    | _ => .error .permissionDenied

/-- How many scripts may stand in for one another. -/
def mostInterpreters : Nat := 5

/-- Loads the program at a place that was found under a path. -/
def load (t : FileTree) (cwd : Place) (path : Path) (place : Place) (args : List String) :
    Except OsError Loaded :=
  t.loadWithin cwd (mostInterpreters + 1) path place args

end FileTree
end ToolHost
