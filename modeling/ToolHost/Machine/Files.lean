import ToolHost.Keyed
import ToolHost.Machine.OsError
import ToolHost.Path

/-! The files of a machine, and how paths lead to them. -/
namespace ToolHost

abbrev Bytes := List UInt8

namespace Bytes

/-- The text that bytes are meant as: UTF-8, or one character a byte if they are none. -/
def text (bytes : Bytes) : String :=
  (String.fromUTF8? ⟨bytes.toArray⟩).getD (String.ofList (bytes.map fun b => Char.ofNat b.toNat))

/-- Bytes as characters, one for each. -/
def units (bytes : Bytes) : List Char := bytes.map fun b => Char.ofNat b.toNat

/-- The bytes that characters stand for, one for each. -/
def ofUnits (chars : List Char) : Bytes := chars.map fun c => UInt8.ofNat c.toNat

end Bytes

/-- A place in the tree of files: the names from the root down. -/
abbrev Place := List String

/-- The rights to a file, as the bits that the system counts them by, and the microsecond in which it
was changed last, counted from the beginning of 1970. -/
structure Status where
  mode : Nat
  modified : Int
  deriving DecidableEq, Repr

/-- Whether somebody may run the file. The host may if anybody may. -/
def Status.executable (s : Status) : Bool := s.mode &&& 0o111 != 0

/-- What a node gets when it is made: the present time, and the bits of a mode that it does not get. -/
structure Stamp where
  now : Int
  mask : Nat
  deriving DecidableEq, Repr

/-- The status of a node that is made with a mode. -/
def Stamp.status (s : Stamp) (mode : Nat) : Status := ⟨mode &&& (0o7777 - s.mask), s.now⟩

/-- What there can be at a place. -/
inductive Node where
  /-- A closed directory takes no new entries. -/
  | directory (closed : Bool) (status : Status)
  | file (content : Bytes) (status : Status)
  | link (target : Path)
  /-- A program that comes with the machine, known by its name. -/
  | program (name : String)
  /-- Swallows what is written to it. -/
  | sink
  deriving DecidableEq, Repr

namespace Node

/-- Whether a node is an ordinary file, a program included. -/
def isFile : Node → Bool
  | file .. | program _ => true
  | _ => false

/-- The status of a node; what has none of its own has that of the machine. -/
def status : Node → Status
  | directory _ status | file _ status => status
  | link _ => ⟨0o777, 0⟩
  | program _ => ⟨0o755, 0⟩
  | sink => ⟨0o666, 0⟩

end Node

/-- What a directory holds under a name. A file may have several names, so it is kept apart and has
a number here. -/
inductive Entry where
  | directory (closed : Bool) (status : Status)
  | file (number : Nat)
  | link (target : Path)
  | program (name : String)
  | sink
  deriving DecidableEq, Repr

/-- The files of a machine and the tree of their names. The root is always there. -/
structure FileTree where
  entries : List (Place × Entry)
  /-- Contents and status of the files by their numbers. -/
  contents : Array (Bytes × Status)
  /-- What a node gets that is made next. -/
  stamp : Stamp
  deriving DecidableEq, Repr

namespace FileTree

/-- A tree in which there is nothing. -/
def empty : FileTree := ⟨[], #[], ⟨0, 0⟩⟩

/-- The content and the status of the file with a number. -/
def fileData (t : FileTree) (number : Nat) : Bytes × Status := t.contents[number]?.getD ([], ⟨0, 0⟩)

/-- What an entry stands for. -/
def nodeOf (t : FileTree) : Entry → Node
  | .directory closed status => .directory closed status
  | .file number => .file (t.fileData number).1 (t.fileData number).2
  | .link target => .link target
  | .program name => .program name
  | .sink => .sink

/-- What there is at a place. -/
def node? (t : FileTree) (place : Place) : Option Node :=
  if place = [] then some (.directory false ⟨0o755, 0⟩)
  else (t.entries.lookup place).map t.nodeOf

/-- All places with what there is. -/
def nodes (t : FileTree) : List (Place × Node) := t.entries.map fun (place, e) => (place, t.nodeOf e)

/-- The number of the file at a place. -/
def fileAt? (t : FileTree) (place : Place) : Option Nat :=
  match t.entries.lookup place with
  | some (.file number) => some number
  | _ => none

/-- The tree with one more file, which has no name yet, and its number. -/
def addFile (t : FileTree) (content : Bytes) (status : Status) : Nat × FileTree :=
  (t.contents.size, { t with contents := t.contents.push (content, status) })

/-- The tree with an entry at a place, in place of any other. -/
def putEntry (t : FileTree) (place : Place) (e : Entry) : FileTree :=
  { t with entries := Keyed.put place e t.entries }

/-- The tree with a node at a place, in place of any other. -/
def put (t : FileTree) (place : Place) : Node → FileTree
  | .directory closed status => t.putEntry place (.directory closed status)
  | .file content status =>
    let (number, t) := t.addFile content status
    t.putEntry place (.file number)
  | .link target => t.putEntry place (.link target)
  | .program name => t.putEntry place (.program name)
  | .sink => t.putEntry place .sink

/-- The tree without a place and all that is below it. -/
def cut (t : FileTree) (place : Place) : FileTree :=
  { t with entries := t.entries.filter fun e => !place.isPrefixOf e.1 }

/-- The tree with all that is at a place and below it at another place. -/
def move (t : FileTree) (source target : Place) : FileTree :=
  let moved := t.entries.filterMap fun (place, e) =>
    if source.isPrefixOf place then some (target ++ place.drop source.length, e) else none
  let t := (t.cut source).cut target
  { t with entries := moved ++ t.entries }

/-- The tree with the file at a place under a second name. -/
def addName (t : FileTree) (source target : Place) : FileTree :=
  match t.entries.lookup source with
  | some e => t.putEntry target e
  | none => t

/-- How many names a file has. -/
def nameCount (t : FileTree) (number : Nat) : Nat := t.entries.countP fun (_, e) => e = .file number

/-- The tree with another status of what is at a place. -/
def setStatus (t : FileTree) (place : Place) (change : Status → Status) : FileTree :=
  match t.entries.lookup place with
  | some (.directory closed status) => t.putEntry place (.directory closed (change status))
  | some (.file number) =>
    { t with contents := t.contents.modify number fun (content, status) => (content, change status) }
  | _ => t

def isDirectory (t : FileTree) (place : Place) : Bool :=
  match t.node? place with
  | some (.directory ..) => true
  | _ => false

/-- How many bytes a name may have. -/
def longestName : Nat := 255

/-- Walks along names. `follow` goes on where a link leads, with the names that are still left.
Only the last name may be missing. -/
def walkStep (t : FileTree) (follow : Place → List String → Except OsError Place) (place : Place) :
    List String → Except OsError Place
  | [] => .ok place
  | name :: rest =>
    if !t.isDirectory place then .error .notADirectory
    else if name = "" ∨ name = "." then walkStep t follow place rest
    else if name = ".." then walkStep t follow place.dropLast rest
    else if longestName < name.utf8ByteSize then .error .nameTooLong
    else
      match t.node? (place ++ [name]) with
      | some (.link target) =>
        follow (if Path.isAbsolute target then [] else place) (Path.names target ++ rest)
      | some _ => walkStep t follow (place ++ [name]) rest
      | none => if rest = [] then .ok (place ++ [name]) else .error .notFound

/-- Walks along names and at most the given number of links. -/
def walk (t : FileTree) : Nat → Place → List String → Except OsError Place
  | 0 => t.walkStep fun _ _ => .error .tooManyLinks
  | links + 1 => t.walkStep (t.walk links)

/-- How many links one walk may follow. -/
def mostLinks : Nat := 40

/-- How many bytes a path may have. -/
def longestPath : Nat := 4095

/-- Why no walk along a path is even begun. -/
def refusal? (path : Path) : Option OsError :=
  if '\x00' ∈ path.toList then some .nulInPath
  else if path = "" then some .notFound
  else if longestPath < path.utf8ByteSize then some .nameTooLong
  else none

/-- Where a path starts, seen from a directory. -/
def start (cwd : Place) (path : Path) : Place := if Path.isAbsolute path then [] else cwd

/-- The place that a path names, all links followed. There need not be anything yet. -/
def locate (t : FileTree) (cwd : Place) (path : Path) : Except OsError Place :=
  match refusal? path with
  | some e => .error e
  | none => t.walk mostLinks (start cwd path) (Path.names path)

/-- The place of the entry that a path names; a link at its end is not followed. -/
def locateEntry (t : FileTree) (cwd : Place) (path : Path) : Except OsError Place :=
  match refusal? path with
  | some e => .error e
  | none =>
    match (Path.names path).reverse.dropWhile (· == "") with
    | [] => .ok []
    | name :: above =>
      match t.walk mostLinks (start cwd path) above.reverse with
      | .error e => .error e
      | .ok place =>
        if !t.isDirectory place then
          .error (if (t.node? place).isSome then .notADirectory else .notFound)
        else if name = "." then .ok place
        else if name = ".." then .ok place.dropLast
        else if longestName < name.utf8ByteSize then .error .nameTooLong
        else .ok (place ++ [name])

/-- Counts the names that a walk passes. `follow` goes on where a link leads. -/
def stepsStep (t : FileTree) (follow : Nat → Place → List String → Nat) (count : Nat)
    (place : Place) : List String → Nat
  | [] => count
  | name :: rest =>
    if !t.isDirectory place then count
    else if name = "" ∨ name = "." then stepsStep t follow (count + 1) place rest
    else if name = ".." then stepsStep t follow (count + 1) place.dropLast rest
    else
      match t.node? (place ++ [name]) with
      | some (.link target) =>
        follow (count + 1) (if Path.isAbsolute target then [] else place) (Path.names target ++ rest)
      | some _ => stepsStep t follow (count + 1) (place ++ [name]) rest
      | none => count + 1

/-- Counts the names that a walk passes which follows at most the given number of links. -/
def steps (t : FileTree) : Nat → Nat → Place → List String → Nat
  | 0 => t.stepsStep fun count _ _ => count
  | links + 1 => t.stepsStep (t.steps links)

/-- How many names a walk passes in a microsecond. -/
def namesPerMicro : Nat := 16

/-- The microseconds that it takes to follow a path. It takes none unless the path is very long. -/
def walkTime (t : FileTree) (cwd : Place) (path : Path) : Nat :=
  if (refusal? path).isSome then 0
  else t.steps mostLinks 0 (start cwd path) (Path.names path) / namesPerMicro

/-- What a path leads to, and where that is. -/
def find (t : FileTree) (cwd : Place) (path : Path) : Except OsError (Place × Node) :=
  match t.locate cwd path with
  | .error e => .error e
  | .ok place =>
    match t.node? place with
    | some node => .ok (place, node)
    | none => .error .notFound

/-- What a program of the machine looks like when it is read. -/
def programBytes : Bytes := [0x7f, 0x45, 0x4c, 0x46, 0xff]

/-- The content of the file that a path leads to. -/
def read (t : FileTree) (cwd : Place) (path : Path) : Except OsError Bytes :=
  match t.find cwd path with
  | .error e => .error e
  | .ok (_, .file content _) => .ok content
  | .ok (_, .program _) => .ok programBytes
  | .ok (_, .directory ..) => .error .isADirectory
  | .ok _ => .ok []

/-- The content of a file that holds text. -/
def readText (t : FileTree) (cwd : Place) (path : Path) : Except OsError String :=
  match t.read cwd path with
  | .error e => .error e
  | .ok content =>
    match String.fromUTF8? ⟨content.toArray⟩ with
    | some text => .ok text
    | none => .error .notUtf8

/-- The directory that a path leads to. -/
def enter (t : FileTree) (cwd : Place) (path : Path) : Except OsError Place :=
  match t.find cwd path with
  | .error e => .error e
  | .ok (place, .directory ..) => .ok place
  | .ok _ => .error .notADirectory

/-- The names of what a directory holds. -/
def namesIn (t : FileTree) (place : Place) : List String :=
  t.entries.filterMap fun e => if e.1.dropLast = place then e.1.getLast? else none

/-- The tree with a new node at a place, if its directory takes it. -/
def add (t : FileTree) (place : Place) (node : Node) : Except OsError FileTree :=
  match t.node? place.dropLast with
  | some (.directory true _) => .error .notFound
  | _ => .ok (t.put place node)

/-- A new directory. -/
def newDirectory (t : FileTree) : Node := .directory false (t.stamp.status 0o777)

/-- A new file. -/
def newFile (t : FileTree) (content : Bytes) : Node := .file content (t.stamp.status 0o666)

/-- The tree with other content in the file with a number, whose rights stay what they are. -/
def refill (t : FileTree) (number : Nat) (content : Bytes) : FileTree :=
  { t with contents := t.contents.modify number fun (_, status) =>
      (content, { status with modified := t.stamp.now }) }

/-- Opens a file for writing: it is made if it is not there, and emptied otherwise unless `keep`.
Answers the place to write to. -/
def openToWrite (t : FileTree) (cwd : Place) (path : Path) (keep : Bool) :
    Except OsError (Place × FileTree) :=
  match (if Path.endsInSlash path then t.locateEntry cwd path else t.locate cwd path) with
  | .error e => .error e
  | .ok place =>
    if Path.endsInSlash path then .error .isADirectory
    else match t.node? place with
    | some (.directory ..) => .error .isADirectory
    | some (.file ..) =>
      .ok (place, if keep then t else ((t.fileAt? place).map fun n => t.refill n []).getD t)
    | some _ => .ok (place, t)
    | none => (t.add place (t.newFile [])).map fun t => (place, t)

/-- The content of the file at a place, empty if there is none. -/
def contentAt (t : FileTree) (place : Place) : Bytes :=
  match t.node? place with
  | some (.file content _) => content
  | some (.program _) => programBytes
  | _ => []

/-- Writes into the file with a number from an offset on. A gap before the offset is filled with
zeros. -/
def writeAt (t : FileTree) (number offset : Nat) (bytes : Bytes) : FileTree :=
  let content := (t.fileData number).1
  let front := if offset = content.length then content
    else content.take offset ++ List.replicate (offset - content.length) 0
  t.refill number (front ++ bytes ++ content.drop (offset + bytes.length))

/-- Makes a directory. -/
def makeDirectory (t : FileTree) (cwd : Place) (path : Path) : Except OsError FileTree :=
  match t.locateEntry cwd path with
  | .error e => .error e
  | .ok place =>
    if (t.node? place).isSome then .error .alreadyExists else t.add place t.newDirectory

/-- Makes a directory and all that are missing above it. The names come last one first. -/
def makeDirectoriesUp (t : FileTree) (cwd : Place) (front : Path) :
    List String → Except OsError FileTree
  | [] => .ok t
  | name :: above =>
    let path := front ++ "/".intercalate (name :: above).reverse
    let settle (t : FileTree) : Except OsError FileTree :=
      match t.makeDirectory cwd path with
      | .ok t => .ok t
      | .error e => if (t.enter cwd path).isOk then .ok t else .error e
    if t.makeDirectory cwd path matches .error .notFound then
      (makeDirectoriesUp t cwd front above).bind settle
    else settle t

/-- Makes a directory and all that are missing above it. That it is there already is no error. -/
def makeDirectories (t : FileTree) (cwd : Place) (path : Path) : Except OsError FileTree :=
  if '\x00' ∈ path.toList then .error .nulInPath
  else
    t.makeDirectoriesUp cwd (if Path.isAbsolute path then "/" else "")
      ((Path.names path).filter fun name => name != "" && name != ".").reverse

/-- Removes a file or a link, or a directory with all that is in it. -/
def remove (t : FileTree) (cwd : Place) (path : Path) : Except OsError FileTree :=
  match t.locateEntry cwd path with
  | .error e => .error e
  | .ok place => if (t.node? place).isSome then .ok (t.cut place) else .error .notFound

end FileTree
end ToolHost
