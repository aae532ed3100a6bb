import ToolHost.Machine.Rights
import ToolHost.Utility.Names

/-! The programs that make and remove files, and change the rights to them. -/
namespace ToolHost.Utility

/-- The node that a path leads to, a link at its end not followed. -/
def nodeAt? (p : Process) (path : Path) : Option (Place × Node) :=
  match (p.world.files.locateEntry p.cwd path).toOption with
  | some place => (p.world.files.node? place).map fun node => (place, node)
  | none => none

def isDirectory (p : Process) (path : Path) : Bool := (p.world.files.enter p.cwd path).isOk

/-- Runs something for each word and counts whether all went well. -/
def forOperands (operands : List String) (act : String → Doing Bool) : Doing Nat :=
  operands.foldlM (fun status operand => do return if ← act operand then status else 1) 0

/-- Changes files for a word, or complains. -/
def change (problem : String) (act : FileTree → Place → Except OsError FileTree) : Doing Bool := do
  match ← Doing.changeFiles act with
  | .ok _ => return true
  | .error e =>
    blame problem e
    return false

/-- Makes files that are not there. -/
def touch : Program := fun _ => withOptions
  { letters := "acmd:t:r:hf"
    inner := "0:"
    words := [("time", '0'), ("no-create", 'c'), ("date", 'd'), ("reference", 'r'),
      ("no-dereference", 'h')] } fun o => do
    if o.operands.isEmpty then misused 1 "missing file operand"
    else
      forOperands o.operands fun path => do
        let p ← get
        let problem := s!"cannot touch {quoted path}"
        match p.world.files.find p.cwd path with
        | .ok (place, _) =>
          set { p with world.files := p.world.files.setStatus place fun status =>
            { status with modified := p.world.now } }
          return true
        | .error .notFound =>
          if o.has 'c' then return true
          else if Path.endsInSlash path then
            blame s!"setting times of {quoted path}" .notFound
            return false
          else change problem fun files cwd => (files.openToWrite cwd path true).map Prod.snd
        | .error e =>
          blame (if e matches .notADirectory then s!"setting times of {quoted path}" else problem) e
          return false

/-- The paths of the directories along a path, each of which is in the one before. -/
def pathsAlong (path : Path) : List Path :=
  let names := (Path.names path).filter (· != "")
  let front := if Path.isAbsolute path then "/" else ""
  ((List.range names.length).map fun n => front ++ "/".intercalate (names.take (n + 1)))

/-- Makes directories. -/
def makeDirectories : Program := fun _ => withOptions
  { letters := "pm:vZ"
    words := [("context", 'Z'), ("mode", 'm'), ("parents", 'p'), ("verbose", 'v')] } fun o => do
    let modeText := (o.last? 'm').getD "a=rwx"
    if o.operands.isEmpty then misused 1 "missing operand"
    else if (Rights.change? true 0 modeText 0).isNone then
      Doing.complain s!"invalid mode {cited modeText}"
      return 1
    else
      let makeOne (path : Path) : Doing Bool := do
        let p ← get
        let made ← change s!"cannot create directory {cited path}" fun files cwd =>
          files.makeDirectory cwd path
        if made && o.has 'm' && some path = o.operands.find? (withoutSlashes · = withoutSlashes path) then
          let _ ← Doing.changeFiles fun files cwd => do
            let (place, _) ← files.find cwd path
            return files.setStatus place fun status =>
              { status with mode := (Rights.change? true p.mask modeText 0o777).getD status.mode }
        if made && o.has 'v' then Doing.print s!"{p.name}: created directory {quoted path}\n"
        return made
      forOperands o.operands fun path =>
        if o.has 'p' && path != "" then
          let paths := pathsAlong path
          paths.foldlM (fun ok path => do
            let p ← get
            match p.world.files.find p.cwd path with
            | .ok (_, .directory ..) => return ok
            | .ok _ =>
              if ok then
                blame s!"cannot create directory {cited path}"
                  (if some path = paths.getLast? then .alreadyExists else .notADirectory)
              return false
            | .error _ => if ok then makeOne path else return false) true
        else makeOne path

/-- Removes directories that are empty. -/
def removeDirectories : Program := fun _ => withOptions
  { letters := "pv"
    inner := "i"
    words := [("ignore-fail-on-non-empty", 'i'), ("path", 'p'), ("parents", 'p'),
      ("verbose", 'v')] } fun o => do
    if o.operands.isEmpty then misused 1 "missing operand"
    else
      let removeOne (path : Path) : Doing Bool := do
        let p ← get
        if o.has 'v' then Doing.print s!"{p.name}: removing directory, {quoted path}\n"
        match nodeAt? p path with
        | some (place, .directory ..) =>
          if (p.world.files.namesIn place).isEmpty then
            modify fun now => { now with world.files := p.world.files.cut place }
            return true
          else if o.has 'i' then return true
          else
            blame s!"failed to remove {quoted path}" .notEmpty
            return false
        | found =>
          let e := match p.world.files.locateEntry p.cwd path with
            | .error e => e
            | .ok _ => if found.isSome then .notADirectory else .notFound
          blame s!"failed to remove {quoted path}" e
          return false
      forOperands o.operands fun path => do
        let above (path : Path) : List Path :=
          ((List.range (Path.names path).length).drop 1).reverse.map fun n =>
            "/".intercalate ((Path.names path).take n)
        let paths := if o.has 'p' then path :: (above (withoutSlashes path)).filter (· != "")
          else [path]
        paths.foldlM (fun ok path => if ok then removeOne path else return false) true

/-- How often one is asked before files are removed. -/
inductive Asking where
  | never
  | once
  | always
  | invalid
  deriving DecidableEq

/-- How often options want one to be asked. -/
def askingOf (o : Options) : Asking :=
  match (o.options.filter fun (c, _) => c ∈ ['f', 'i', 'I', 'w']).getLast? with
  | some ('i', _) => .always
  | some ('I', _) => .once
  | some ('w', value) =>
    if value ∈ ["", "always", "yes"] then .always
    else if value = "once" then .once
    else if value ∈ ["never", "no", "none"] then .never
    else .invalid
  | _ => .never

/-- Asks a question, and answers whether the next line of the input says yes. -/
def confirm (question : String) : Doing Bool := do
  let p ← get
  let p := p.write 2 s!"{p.name}: {question}".toUTF8.toList
  set p
  let line := (← Doing.peek 0).takeWhile (· != 0x0a)
  modify fun p => p.skip 0 (line.length + 1)
  return line.head? = some 0x79 || line.head? = some 0x59

/-- What is asked before something is removed. -/
def questionOf (p : Process) (place : Place) (node : Node) (path : Path) : String :=
  let what := match node with
    | .directory .. =>
      if (p.world.files.namesIn place).isEmpty then "remove directory" else "descend into directory"
    | .link _ => "remove symbolic link"
    | .file [] _ => "remove regular empty file"
    | .sink => "remove character special file"
    | _ => "remove regular file"
  s!"{what} {quoted path}? "

/-- Removes files, and directories with all that is in them if that is wanted. -/
def removeFiles : Program := fun _ => withOptions
  { letters := "rRfdviI"
    optional := "w"
    inner := "wonk"
    words := [("force", 'f'), ("interactive", 'w'), ("one-file-system", 'o'),
      ("no-preserve-root", 'n'), ("preserve-root", 'k'), ("recursive", 'r'), ("dir", 'd'),
      ("verbose", 'v')] } fun o => do
    let deep := o.has 'r' || o.has 'R'
    let often := askingOf o
    let count := o.operands.length
    if o.operands.isEmpty then
      if o.has 'f' then return 0 else misused 1 "missing operand"
    else if often = .invalid then
      let shown := cited ((o.last? 'w').getD "")
      Doing.complain s!"invalid argument {shown} for '--interactive'"
      let p ← get
      let known := "Valid arguments are:\n  - 'never', 'no', 'none'\n  - 'once'\n  - 'always', 'yes'\n"
      set (p.write 2 known.toUTF8.toList)
      pointToHelp
      return 1
    else
      let question := s!"remove {count} argument" ++ (if count = 1 then "" else "s") ++
        (if deep then " recursively? " else "? ")
      let agreed ← if often = .once && (deep || 3 < count) then confirm question else pure true
      if !agreed then return 0
      forOperands o.operands fun path => do
        let p ← get
        let name := lastName path
        if deep && (name = "." || name = "..") then
          Doing.complain
            s!"refusing to remove '.' or '..' directory: skipping {quoted (withoutSlashes path)}"
          return false
        let problem := s!"cannot remove {quoted path}"
        match p.world.files.locateEntry p.cwd path with
        | .error e =>
          if o.has 'f' && (e matches .notFound | .notADirectory) then return true
          blame problem e
          return false
        | .ok place =>
          match p.world.files.node? place with
          | none =>
            if o.has 'f' then return true
            blame problem .notFound
            return false
          | some node =>
            if deep && place = [] && !o.has 'n' then
              let same := if path = "/" then "" else " (same as '/')"
              Doing.complain s!"it is dangerous to operate recursively on {quoted path}{same}"
              Doing.complain "use --no-preserve-root to override this failsafe"
              return false
            let asks := often = .always && (deep || !(node matches .directory ..))
            let agreed ← if asks then confirm (questionOf p place node path) else pure true
            if !agreed then return true
            let removed ← change problem fun files _ =>
              if !(node matches .directory ..) then
                if Path.endsInSlash path then .error .notADirectory else .ok (files.cut place)
              else if deep then .ok (files.cut place)
              else if !o.has 'd' then .error .isADirectory
              else if (files.namesIn place).isEmpty then .ok (files.cut place)
              else .error .notEmpty
            if removed && o.has 'v' then
              let kind := if node matches .directory .. then "removed directory" else "removed"
              Doing.print s!"{kind} {quoted path}\n"
            return removed

/-- Changes the rights to files. -/
def changeMode : Program := fun _ words => do
  -- a mode may look like an option
  let isMode (word : String) : Bool := (Rights.change? false 0 word 0).isSome
  let flags := (words.takeWhile fun word => word.startsWith "-" && !isMode word)
  let rest := words.drop flags.length
  let t : OptionTable :=
    { letters := "Rvfc"
      words := [("changes", 'c'), ("recursive", 'R'), ("silent", 'f'), ("quiet", 'f'),
        ("verbose", 'v')] }
  match t.read (OptionTable.mostOptions flags) flags, rest with
  | .error reason, _ => t.stop reason
  | .ok _, [] => misused 1 "missing operand"
  | .ok _, [mode] => misused 1 s!"missing operand after {cited mode}"
  | .ok o, mode :: paths =>
    if !isMode mode then misused 1 s!"invalid mode: {cited mode}"
    else
      forOperands paths fun path => do
        let p ← get
        match p.world.files.find p.cwd path with
        | .error e =>
          if !o.has 'f' then blame s!"cannot access {quoted path}" e
          return false
        | .ok (place, _) =>
          let places := if o.has 'R' then place :: placesBelow p.world.files place else [place]
          for other in places do
            changeOne o mode (shownPath path place other) other
          return true
where
  /-- The places below a place, each behind the one that holds it. -/
  placesBelow (files : FileTree) (place : Place) : List Place :=
    ((files.entries.map Prod.fst).filter fun other => place.isPrefixOf other && other != place).mergeSort
      fun a b => !decide (String.intercalate "\x00" b < String.intercalate "\x00" a)
  /-- The path of what is below the place of a given path. -/
  shownPath (path : Path) (place other : Place) : Path :=
    (other.drop place.length).foldl (fun path name =>
      (if Path.endsInSlash path then path else path ++ "/") ++ name) path
  /-- Changes the rights to one file, and tells of it if that is wanted. -/
  changeOne (o : Options) (mode : String) (path : Path) (place : Place) : Doing Unit := do
    let p ← get
    match p.world.files.node? place with
    | some (.link _) | none => pure ()
    | some node =>
      let old := node.status.mode
      let new := (Rights.change? (node matches .directory ..) p.mask mode old).getD old
      set { p with world.files := p.world.files.setStatus place fun s => { s with mode := new } }
      let shown (mode : Nat) : String :=
        let digits := Rights.octalText 4 mode
        let letters := Rights.text mode
        s!"{digits} ({letters})"
      if old != new && (o.has 'v' || o.has 'c') then
        Doing.print s!"mode of {quoted path} changed from {shown old} to {shown new}\n"
      else if o.has 'v' then Doing.print s!"mode of {quoted path} retained as {shown new}\n"

end ToolHost.Utility
