import ToolHost.Utility.Files

/-! The programs that copy and move files and give them more names. -/
namespace ToolHost.Utility

/-- The status of a copy of a file. -/
def statusOfCopy (kept : Bool) (files : FileTree) (node : Node) : Status :=
  if kept then node.status else files.stamp.status node.status.mode

/-- The tree with a copy of a node at a place. A file that is there already keeps its rights. -/
def putCopy (kept : Bool) (files : FileTree) (node : Node) (target : Place) : FileTree :=
  match files.fileAt? target, node with
  | some number, .file content status =>
    let files := files.refill number content
    if kept then files.setStatus target fun _ => status else files
  | _, .file content _ => files.put target (.file content (statusOfCopy kept files node))
  | _, .directory .. => files.put target (.directory false (statusOfCopy kept files node))
  | _, .program _ => files.put target (.file FileTree.programBytes (statusOfCopy kept files node))
  | _, node => files.put target node

/-- The tree with a copy of a place and of all that is below it at another place. -/
def graft (kept : Bool) (files : FileTree) (source target : Place) : FileTree :=
  files.nodes.foldr (fun (place, node) files =>
    if source.isPrefixOf place then
      let target := target ++ place.drop source.length
      match files.node? target, node with
      | some (.directory ..), .directory .. => files
      | _, node => putCopy kept files node target
    else files) files

/-- Where each of several words goes, given the options and the word that names the target. -/
structure Destination where
  target : Path
  /-- Whether things go into the target. -/
  within : Bool

namespace Destination

/-- Where something goes. -/
def pathOf (d : Destination) (source : Path) : Path :=
  if d.within then Path.join (if Path.endsInSlash d.target then d.target else d.target ++ "/")
    (lastName source)
  else d.target

end Destination

/-- Splits words into sources and a destination, or answers with what is wrong. -/
def withDestination (o : Options) (act : List String → Destination → Doing Nat) : Doing Nat := do
  let p ← get
  match o.last? 't' with
  | some target =>
    if o.operands.isEmpty then misused 1 "missing file operand"
    else act o.operands ⟨target, true⟩
  | none =>
    match o.operands with
    | [] => misused 1 "missing file operand"
    | [source] => misused 1 s!"missing destination file operand after {quoted source}"
    | operands =>
      let target := operands.getLastD ""
      let sources := operands.dropLast
      let within := !o.has 'T' && isDirectory p target
      if !within && 1 < sources.length then
        if o.has 'T' then misused 1 ("extra operand " ++ quoted (operands.getD 2 ""))
        else
          let there := (p.world.files.find p.cwd target).isOk
          let e : OsError := if there then .notADirectory else .notFound
          blame s!"target {quoted target}" e
          return 1
      else act sources ⟨target, within⟩

/-- Copies files, and directories with all that is in them if that is wanted. -/
def copy : Program := fun _ => withOptions
  { letters := "abdfHilLnprst:uvxPRS:TZ"
    optional := "BMUOZ"
    inner := "ADN:EWKBMUO"
    words := [("archive", 'a'), ("attributes-only", 'A'), ("backup", 'B'), ("debug", 'D'),
      ("dereference", 'L'), ("force", 'f'), ("interactive", 'i'), ("link", 'l'),
      ("no-clobber", 'n'), ("no-dereference", 'P'), ("no-preserve", 'N'),
      ("no-target-directory", 'T'), ("one-file-system", 'x'), ("parents", 'E'),
      ("preserve", 'M'), ("recursive", 'R'), ("remove-destination", 'W'), ("sparse", 'S'),
      ("reflink", 'O'), ("strip-trailing-slashes", 'K'), ("suffix", 'S'), ("symbolic-link", 's'),
      ("target-directory", 't'), ("update", 'U'), ("verbose", 'v'), ("context", 'Z')] } fun o => do
    let deep := o.has 'r' || o.has 'R' || o.has 'a'
    let linked := o.has 'a' || o.has 'd' || o.has 'P' || (deep && !o.has 'L')
    let kept := o.has 'a' || o.has 'p' || o.has 'M'
    withDestination o fun sources d => forOperands sources fun source => do
      let p ← get
      let files := p.world.files
      let target := d.pathOf source
      let found := if linked then
          match nodeAt? p source with
          | some found => .ok found
          | none => files.find p.cwd source
        else files.find p.cwd source
      match found with
      | .error e =>
        blame s!"cannot stat {quoted source}" e
        return false
      | .ok (place, node) =>
        let there := (files.locate p.cwd target).toOption.filter fun place =>
          (files.node? place).isSome
        let same := there = some place ||
          ((files.fileAt? place).isSome && there.bind files.fileAt? = files.fileAt? place)
        if same && !(node matches .link _) then
          Doing.complain s!"{quoted source} and {quoted target} are the same file"
          return false
        else if there.isSome && o.has 'n' then return true
        else if (o.has 'u' || o.has 'U') && !(node matches .directory ..) &&
            (there.bind files.node?).any fun other => node.status.modified ≤ other.status.modified then
          return true
        else
          match node with
          | .directory .. =>
            if !deep then
              Doing.complain s!"-r not specified; omitting directory {quoted source}"
              return false
            else if there.isSome && !isDirectory p target then
              Doing.complain
                s!"cannot overwrite non-directory {quoted target} with directory {quoted source}"
              return false
            else if (files.locate p.cwd target).toOption.any place.isPrefixOf then
              Doing.complain s!"cannot copy a directory, {quoted source}, into itself, {quoted target}"
              return false
            else
              let copied ← change s!"cannot create directory {quoted target}" fun files cwd => do
                let files ← if there.isSome then .ok files else files.makeDirectory cwd target
                let target ← files.enter cwd target
                return graft kept files place target
              if copied && o.has 'v' then Doing.print s!"{quoted source} -> {quoted target}\n"
              return copied
          | node =>
            if isDirectory p target then
              Doing.complain
                s!"cannot overwrite directory {quoted target} with non-directory {quoted source}"
              return false
            let notThere := Path.endsInSlash target && there.isNone
            let copied ← change s!"cannot create regular file {quoted target}" fun files cwd => do
              if notThere then throw .notADirectory
              if o.has 's' then
                let place ← files.locateEntry cwd target
                if there.isSome && !o.has 'f' then throw .alreadyExists
                return ← (files.cut place).add place (.link source)
              match node with
              | .link way =>
                let place ← files.locateEntry cwd target
                (files.cut place).add place (.link way)
              | node =>
                let (placeOfCopy, after) ← files.openToWrite cwd target false
                if (files.node? placeOfCopy).isNone then
                  return putCopy kept (after.cut placeOfCopy) node placeOfCopy
                return putCopy kept after node placeOfCopy
            if copied && o.has 'v' then Doing.print s!"{quoted source} -> {quoted target}\n"
            return copied

/-- Moves files and directories. -/
def move : Program := fun _ => withOptions
  { letters := "bfint:uvS:TZ"
    optional := "BU"
    inner := "BUDCK"
    words := [("backup", 'B'), ("context", 'Z'), ("debug", 'D'), ("force", 'f'),
      ("interactive", 'i'), ("no-clobber", 'n'), ("no-copy", 'C'), ("no-target-directory", 'T'),
      ("strip-trailing-slashes", 'K'), ("suffix", 'S'), ("target-directory", 't'),
      ("update", 'U'), ("verbose", 'v')] } fun o => do
    withDestination o fun sources d => forOperands sources fun source => do
      let p ← get
      let target := d.pathOf source
      match nodeAt? p source with
      | none =>
        let e := match p.world.files.locateEntry p.cwd source with
          | .error e => e
          | .ok _ => .notFound
        blame s!"cannot stat {quoted source}" e
        return false
      | some (place, node) =>
        let there := nodeAt? p target
        if (there.map Prod.fst) = some place then
          Doing.complain s!"{quoted source} and {quoted target} are the same file"
          return false
        else if there.isSome && o.has 'n' then return true
        else
          let ofDirectory := node matches .directory ..
          let ontoDirectory := there.any fun (_, node) => (node matches .directory ..)
          if there.isSome && ontoDirectory && !ofDirectory then
            Doing.complain
              s!"cannot overwrite directory {quoted target} with non-directory {quoted source}"
            return false
          else if there.isSome && ofDirectory && !ontoDirectory then
            Doing.complain
              s!"cannot overwrite non-directory {quoted target} with directory {quoted source}"
            return false
          let problem := s!"cannot move {quoted source} to {quoted target}"
          match p.world.files.locateEntry p.cwd target with
          | .ok targetPlace =>
            if ofDirectory && place.isPrefixOf targetPlace then
              Doing.complain
                s!"cannot move {quoted source} to a subdirectory of itself, {quoted target}"
              return false
          | .error _ => pure ()
          let moved ← change problem fun files cwd => do
            let targetPlace ← files.locateEntry cwd target
            if ontoDirectory && !(files.namesIn targetPlace).isEmpty then throw .notEmpty
            let _ ← files.add targetPlace node
            return files.move place targetPlace
          if moved && o.has 'v' then Doing.print s!"renamed {quoted source} -> {quoted target}\n"
          return moved

/-- Makes links, which are more names for files unless they are symbolic. -/
def link : Program := fun _ => withOptions
  { letters := "bdfinrst:vFLPS:T"
    optional := "B"
    inner := "B"
    words := [("backup", 'B'), ("directory", 'd'), ("force", 'f'), ("interactive", 'i'),
      ("logical", 'L'), ("no-dereference", 'n'), ("no-target-directory", 'T'), ("physical", 'P'),
      ("relative", 'r'), ("suffix", 'S'), ("symbolic", 's'), ("target-directory", 't'),
      ("verbose", 'v')] } fun o => do
    let p ← get
    let (sources, d) : List String × Destination := match o.last? 't', o.operands with
      | some target, operands => (operands, ⟨target, true⟩)
      | none, [source] => ([source], ⟨".", true⟩)
      | none, operands =>
        let target := operands.getLastD ""
        let isLink := (nodeAt? p target).any fun (_, node) => (node matches .link _)
        (operands.dropLast, ⟨target, isDirectory p target && !o.has 'T' && !(o.has 'n' && isLink)⟩)
    if o.operands.isEmpty then misused 1 "missing file operand"
    else if 1 < sources.length && !d.within then
      blame s!"target {quoted d.target}"
        (if (p.world.files.find p.cwd d.target).isOk then .notADirectory else .notFound)
      return 1
    else
      forOperands sources fun source => do
        let p ← get
        let target := d.pathOf source
        let say (made : Bool) : Doing Bool := do
          let arrow := if o.has 's' then "->" else "=>"
          if made && o.has 'v' then Doing.print s!"{quoted target} {arrow} {quoted source}\n"
          return made
        let kind := if o.has 's' then "symbolic" else "hard"
        let problem := s!"failed to create {kind} link {quoted target}"
        let there := nodeAt? p target
        if o.has 's' then
          say =<< change problem fun files cwd => do
            let place ← files.locateEntry cwd target
            if there.isSome && !o.has 'f' then throw .alreadyExists
            if there.any fun (_, node) => (node matches .directory ..) then throw .isADirectory
            if source = "" then throw .notFound
            (files.cut place).add place (.link source)
        else
          match nodeAt? p source with
          | none =>
            blame s!"failed to access {quoted source}" .notFound
            return false
          | some (_, .directory ..) =>
            Doing.complain s!"{named source}: hard link not allowed for directory"
            return false
          | some (sourcePlace, node) =>
            say =<< change problem fun files cwd => do
              let place ← files.locateEntry cwd target
              if there.isSome && !o.has 'f' then throw .alreadyExists
              if place = sourcePlace then throw .alreadyExists
              let _ ← files.add place node
              return (files.cut place).addName sourcePlace place

end ToolHost.Utility
