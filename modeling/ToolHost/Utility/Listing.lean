import ToolHost.Utility.Files
import ToolHost.Utility.Format

/-! The programs that tell of files: what directories hold, where paths lead, what is known of what is
there. -/
namespace ToolHost.Utility

/-- Prints what links say, or the paths to which paths lead. -/
def readLinks : Program := fun _ => withOptions
  { letters := "fenmqsvz"
    words := [("canonicalize", 'f'), ("canonicalize-existing", 'e'), ("canonicalize-missing", 'm'),
      ("no-newline", 'n'), ("zero", 'z')] } fun o => do
    if o.operands.isEmpty then misused 1 "missing operand"
    else
      let finish := if o.has 'n' then "" else "\n"
      forOperands o.operands fun path => do
        let p ← get
        match o.lastOf? ['f', 'e', 'm'] with
        | none =>
          match nodeAt? p path with
          | some (_, .link target) =>
            Doing.print (target ++ finish)
            return true
          | _ => return false
        | some kind =>
          match p.world.files.locate p.cwd path with
          | .ok place =>
            if kind = 'e' && (p.world.files.node? place).isNone then return false
            Doing.print ("/" ++ "/".intercalate place ++ finish)
            return true
          | .error _ => return false

/-- Prints the paths to which paths lead. -/
def realPaths : Program := fun _ => withOptions
  { letters := "emqsz", words := [("canonicalize-existing", 'e'), ("quiet", 'q')] } fun o => do
    if o.operands.isEmpty then misused 1 "missing operand"
    else
      forOperands o.operands fun path => do
        let p ← get
        match p.world.files.locate p.cwd path with
        | .ok place =>
          if o.has 'e' && (p.world.files.node? place).isNone then
            blame (named path) .notFound
            return false
          Doing.print ("/" ++ "/".intercalate place ++ "\n")
          return true
        | .error e =>
          if !o.has 'q' then blame (named path) e
          return false

/-- The mark behind the name of a node. -/
def markOfNode (o : Options) (node : Node) : String :=
  if o.has 'F' then
    match node with
    | .directory .. => "/"
    | .link _ => "@"
    | .program _ => "*"
    | .file _ status => if status.executable then "*" else ""
    | _ => ""
  else if o.has 'p' && (node matches .directory ..) then "/" else ""

/-- The names in a directory, in order, as they are listed. -/
def listedNames (o : Options) (files : FileTree) (place : Place) : List String :=
  let names := (files.namesIn place).filter fun name =>
    o.has 'a' || o.has 'A' || name.toList.head? != some '.'
  let names := (if o.has 'a' then [".", ".."] else []) ++ names
  let sorted := names.mergeSort (· ≤ ·)
  let sorted := if o.has 'S' then
      sorted.mergeSort fun a b =>
        (files.contentAt (place ++ [b])).length ≤ (files.contentAt (place ++ [a])).length
    else sorted
  if o.has 'r' then sorted.reverse else sorted

/-- Lists a directory, and those below it if that is wanted; the number bounds how deep. -/
def listDirectory (o : Options) : Nat → (heading : Bool) → (first : Bool) → Path → Place → Doing Unit
  | 0, _, _, _, _ => pure ()
  | depth + 1, heading, first, path, place => do
    let files := (← get).world.files
    if heading then Doing.print ((if first then "" else "\n") ++ path ++ ":\n")
    let names := listedNames o files place
    let nodeOf (name : String) : Option Node :=
      if name = "." then files.node? place
      else if name = ".." then files.node? place.dropLast
      else files.node? (place ++ [name])
    let texts := names.map fun name => name ++ ((nodeOf name).map (markOfNode o)).getD ""
    if o.has 'm' then
      if !texts.isEmpty then Doing.print (", ".intercalate texts ++ "\n")
    else texts.forM fun text => Doing.print (text ++ "\n")
    if o.has 'R' then
      names.forM fun name => do
        if name != "." && name != ".." && ((nodeOf name) matches some (.directory ..)) then
          listDirectory o depth true false (Path.join path name) (place ++ [name])

/-- Lists files and what is in directories. -/
def list : Program := fun _ => withOptions
  { letters := "1aAdRrFptSumlhiLHCxqQnogfsUBbkNcvXwIDTZG"
    optional := "ye"
    inner := "yze"
    words := [("all", 'a'), ("escape", 'b'), ("directory", 'd'), ("human-readable", 'h'),
      ("inode", 'i'), ("kibibytes", 'k'), ("numeric-uid-gid", 'n'), ("no-group", 'G'),
      ("reverse", 'r'), ("size", 's'), ("almost-all", 'A'), ("ignore-backups", 'B'),
      ("classify", 'y'), ("file-type", 'p'), ("group-directories-first", 'g'),
      ("dereference", 'L'), ("literal", 'N'), ("quote-name", 'Q'), ("recursive", 'R'),
      ("zero", 'z'), ("color", 'e')]
    failure := 2 } fun o => do
    let p ← get
    let operands := if o.operands.isEmpty then ["."] else o.operands
    let entryOnly := o.has 'd' || o.has 'F'
    let look (path : Path) : Except OsError (Place × Node) :=
      match p.world.files.find p.cwd path, nodeAt? p path with
      | .ok found, other => .ok (if entryOnly then other.getD found else found)
      | .error e, some found => if e matches .notFound | .tooManyLinks then .ok found else .error e
      | .error e, none => .error e
    let looked := (operands.mergeSort (· ≤ ·)).map fun path => (path, look path)
    let mut status := 0
    for (path, result) in looked do
      match result with
      | .error e =>
        blame s!"cannot access {quoted path}" e
        status := 2
      | .ok _ => pure ()
    let found := looked.filterMap fun (path, result) => result.toOption.map fun r => (path, r)
    let sizeOf (place : Place) : Nat := (p.world.files.contentAt place).length
    let found := if o.has 'S' then found.mergeSort fun a b => sizeOf b.2.1 ≤ sizeOf a.2.1 else found
    let found := if o.has 'r' then found.reverse else found
    let isListed (node : Node) : Bool := (node matches .directory ..) && !o.has 'd'
    let plain := found.filter fun (_, _, node) => !isListed node
    let directories := found.filter fun (_, _, node) => isListed node
    plain.forM fun (path, _, node) => Doing.print (path ++ markOfNode o node ++ "\n")
    let heading := 1 < operands.length || o.has 'R'
    let mut first := plain.isEmpty
    for (path, place, _) in directories do
      listDirectory o (p.world.files.nodes.length + 1) heading first path place
      first := false
    return status

/-- What a node is called, and the letter for that. -/
def kindOf : Node → String × Char
  | .directory .. => ("directory", 'd')
  | .link _ => ("symbolic link", 'l')
  | .sink => ("character special file", 'c')
  | .program _ => ("regular file", '-')
  | .file content _ => (if content.isEmpty then "regular empty file" else "regular file", '-')

/-- How many bytes a node counts for. -/
def sizeOf : Node → Nat
  | .file content _ => content.length
  | .link target => target.utf8ByteSize
  | .directory .. => 4096
  | .program _ | .sink => 0

/-- How many names a node has; a directory has one more for itself and for each directory in it. -/
def namesOf (files : FileTree) (place : Place) (node : Node) : Nat :=
  match node with
  | .directory .. =>
    2 + (files.namesIn place).countP fun name => files.isDirectory (place ++ [name])
  | _ => ((files.fileAt? place).map files.nameCount).getD 1

/-- Text in a field of a width, which a hyphen in front has on the left and a zero fills up. -/
def inField (flags : List Char) (width : Nat) (text : String) : String :=
  let room := width - text.length
  if '-' ∈ flags then text ++ "".pushn ' ' room
  else if '0' ∈ flags && text.toList.all Char.isDigit then "".pushn '0' room ++ text
  else "".pushn ' ' room ++ text

/-- What is known of a node, as a format says. -/
def fillStatus (p : Process) (path : Path) (place : Place) (node : Node) :
    Nat → List Char → List Char
  | 0, _ | _, [] => []
  | fuel + 1, '%' :: rest =>
    let (flags, rest) := rest.span (· ∈ ['-', '0', '#', ' ', '+'])
    let (digits, rest) := rest.span Char.isDigit
    let width := ((String.ofList digits).toNat?).getD 0
    match rest with
    | [] => ['%']
    | c :: rest =>
      let status := node.status
      let seconds := status.modified / 1000000
      let (kind, letter) := kindOf node
      let text := match c with
        | 'n' => path
        | 'N' => match node with
          | .link target => s!"{quoted path} -> {quoted target}"
          | _ => quoted path
        | 's' => toString (sizeOf node)
        | 'b' => toString ((sizeOf node + 4095) / 4096 * 8)
        | 'B' => "512"
        | 'o' => "4096"
        | 'F' => kind
        | 'a' => (if '#' ∈ flags then "0" else "") ++ Rights.octalText 1 status.mode
        | 'A' => String.singleton letter ++ Rights.text status.mode
        | 'h' => toString (namesOf p.world.files place node)
        | 'U' | 'G' => "root"
        | 'u' | 'g' | 't' | 'T' => "0"
        | 'X' | 'Y' | 'Z' | 'W' => toString seconds
        | '%' => "%"
        | c => String.ofList ['?', c]
      (inField flags width text).toList ++ fillStatus p path place node fuel rest
  | fuel + 1, c :: rest => c :: fillStatus p path place node fuel rest

/-- Prints what is known of files. -/
def printStatus : Program := fun _ => withOptions
  { letters := "c:Lft"
    inner := "P:C:"
    words := [("format", 'c'), ("printf", 'P'), ("dereference", 'L'), ("file-system", 'f'),
      ("terse", 't'), ("cached", 'C')] } fun o => do
    if o.operands.isEmpty then misused 1 "missing operand"
    else
      forOperands o.operands fun path => do
        let p ← get
        let found := if o.has 'L' then (p.world.files.find p.cwd path).toOption else nodeAt? p path
        match found with
        | none =>
          let e := match p.world.files.find p.cwd path with
            | .error e => e
            | .ok _ => .notFound
          blame s!"cannot statx {quoted path}" e
          return false
        | some (place, node) =>
          let fill (text : List Char) : String :=
            String.ofList (fillStatus p path place node (text.length + 1) text)
          if o.lastOf? ['c', 'P'] = some 'P' then
            let (bytes, _) := unescape .program 1000 ((o.last? 'P').getD "").toList
            Doing.print (fill (Bytes.text bytes).toList)
          else Doing.print (fill ((o.last? 'c').getD "%n %s %F").toList ++ "\n")
          return true

end ToolHost.Utility
