import ToolHost.Utility.Files

/-! The programs that make files for a while, give files a size, and take their names away. -/
namespace ToolHost.Utility

/-- The characters of the names that are made up. -/
def nameChars : List Char :=
  "abcdefghijklmnopqrstuvwxyzABCDEFGHIJKLMNOPQRSTUVWXYZ0123456789".toList

/-- So many characters for a name, a different text for each number. -/
def madeUp (count n : Nat) : List Char :=
  (List.range count).map fun place =>
    nameChars.getD ((n * 7 + place * 13 + n / (place + 1)) % nameChars.length) 'a'

/-- The stretch of a template that is to be filled in, with what stands before and behind it. -/
def splitTemplate (template : List Char) : List Char × Nat × List Char :=
  let behind := template.reverse.takeWhile (· != 'X')
  let marks := (template.reverse.drop behind.length).takeWhile (· == 'X')
  (template.take (template.length - behind.length - marks.length), marks.length, behind.reverse)

/-- Makes a file or a directory with a name that is new. -/
def makeTemporary : Program := fun _ => withOptions
  { letters := "duqp:tV"
    optional := "P"
    inner := "PS:"
    words := [("directory", 'd'), ("quiet", 'q'), ("dry-run", 'u'), ("suffix", 'S'),
      ("tmpdir", 'P')] } fun o => do
    match o.operands with
    | _ :: _ :: _ => misused 1 "too many templates"
    | operands => do
      let p ← get
      let template := operands.headD "tmp.XXXXXXXXXX"
      let ending := (o.last? 'S').getD ""
      let (front, count, behind) := splitTemplate template.toList
      let base := match (o.last? 'p').or ((o.last? 'P').filter (· != "")) with
        | some dir => dir
        | none => (p.setting? "TMPDIR").getD "/tmp"
      let based := operands.isEmpty || o.has 't' || o.has 'p' || o.has 'P'
      if count < 3 || (!behind.isEmpty && ending != "") then
        if !o.has 'q' then Doing.complain s!"too few X's in template {cited template}"
        return 1
      let path (n : Nat) : Path :=
        let name := String.ofList (front ++ madeUp count n ++ behind) ++ ending
        if based then Path.join base name else name
      let isNew (n : Nat) : Bool := (nodeAt? p (path n)).isNone
      let number := ((List.range 1000).map (p.number + ·)).find? isNew
      let path := path (number.getD 0)
      let kind := if o.has 'd' then "directory" else "file"
      let shown := if based then Path.join base (template ++ ending) else template ++ ending
      let problem := s!"failed to create {kind} via template {cited shown}"
      let made ← if o.has 'u' then pure true
        else change problem fun files cwd =>
          let mode := if o.has 'd' then 0o700 else 0o600
          let guard (files : FileTree) : Except OsError FileTree := do
            let (place, _) ← files.find cwd path
            return files.setStatus place fun status => { status with mode := mode }
          if o.has 'd' then (files.makeDirectory cwd path).bind guard
          else (files.openToWrite cwd path true).bind fun (_, files) => guard files
      if made then
        Doing.print (path ++ "\n")
        return 0
      else return 1

/-- The size that a word asks for in place of another one. -/
def sizeFrom? (text : String) (old : Nat) : Option Nat :=
  match text.toList with
  | '+' :: rest => (countOf? (String.ofList rest)).map (old + ·)
  | '-' :: rest => (countOf? (String.ofList rest)).map (old - ·)
  | '<' :: rest => (countOf? (String.ofList rest)).map (min old)
  | '>' :: rest => (countOf? (String.ofList rest)).map (max old)
  | _ => countOf? text

/-- Gives files a size. -/
def truncate : Program := fun _ => withOptions
  { letters := "cor:s:"
    words := [("no-create", 'c'), ("io-blocks", 'o'), ("reference", 'r'), ("size", 's')] } fun o => do
    match o.last? 's', o.operands with
    | none, _ => misused 1 "you must specify either '--size' or '--reference'"
    | some size, operands =>
      if (sizeFrom? size 0).isNone then
        Doing.complain s!"Invalid number: {cited size}"
        return 1
      else if operands.isEmpty then misused 1 "missing file operand"
      else
        forOperands operands fun path => do
          let p ← get
          if o.has 'c' && !(p.world.files.find p.cwd path).isOk then return true
          change s!"cannot open {quoted path} for writing" fun files cwd => do
            let (place, files) ← files.openToWrite cwd path true
            match files.fileAt? place with
            | some number =>
              let content := (files.fileData number).1
              let length := (sizeFrom? size content.length).getD 0
              let bytes := content.take length ++ List.replicate (length - content.length) 0
              return files.refill number bytes
            | none => return files

/-- Takes the name of a file away. -/
def unlink : Program := fun _ => withOptions { letters := "" } fun o => do
  match o.operands with
  | [] => misused 1 "missing operand"
  | _ :: extra :: _ => misused 1 s!"extra operand {cited extra}"
  | [path] =>
    let done ← change s!"cannot unlink {quoted path}" fun files cwd => do
      let place ← files.locateEntry cwd path
      match files.node? place with
      | none => throw .notFound
      | some (.directory ..) => throw .isADirectory
      | some _ => return files.cut place
    return if done then 0 else 1

end ToolHost.Utility
