import ToolHost.Shell.Expansion

/-! Turning the descriptors of commands. -/
namespace ToolHost.Shell

/-- What is said of a file that cannot be opened. -/
def openProblem (e : OsError) (toMake : Bool) : String :=
  match e with
  | .notFound | .notADirectory => if toMake then "Directory nonexistent" else "No such file"
  | e => e.description

/-- Uses what the system answers to an attempt to open a file. -/
def opened (path : Path) (toMake : Bool) (attempt : Process → Except OsError Process) : Act Unit := do
  let t ← get
  match attempt t.toProcess with
  | .ok p => set { t with toProcess := p }
  | .error problem =>
    let verb := if toMake then "create" else "open"
    failWith s!"cannot {verb} {path}: {openProblem problem toMake}"

/-- Makes a descriptor lead to where another one leads. -/
def duplicate (descriptor : Nat) (source : String) : Act Unit := do
  if source = "-" then modify fun t => { t with toProcess := t.toProcess.close descriptor }
  else
    match source.toList, source.toNat? with
    | [_], some n =>
      match (← get).toProcess.end? n with
      | some e =>
        modify fun t => { t with toProcess := t.toProcess.connect descriptor e }
      | none => failWith s!"{source}: Bad file descriptor"
    | _, _ =>
      complain "Syntax error: Bad fd number"
      setStatus 2
      throw .exiting

/-- Turns one descriptor. -/
def turn (e : Engine) : Redirect → Act Unit
  | .turn descriptor target => do
    match target with
    | .readFrom path =>
      let path ← textOf e path
      opened path false fun p => p.openToRead descriptor path
    | .writeTo force path =>
      let path ← textOf e path
      let t ← get
      let saved := !force && t.hasOption 'C' &&
        ((t.world.files.find t.cwd path).toOption.map fun (_, node) => node.isFile).getD false
      opened path true fun p =>
        if saved then .error .alreadyExists else p.openToWrite descriptor path false false
    | .appendTo path =>
      let path ← textOf e path
      opened path true fun p => p.openToWrite descriptor path true true
    | .readWrite path =>
      let path ← textOf e path
      opened path true fun p => p.openToWrite descriptor path true false
    | .sameAs source => duplicate descriptor (← textOf e source)
    | .document number =>
      let text ← textOf e ((← get).documents[number]?.getD [])
      modify fun t =>
        { t with toProcess :=
            t.toProcess.attach descriptor (.pipe (.ofBytes text.toUTF8.toList)) }

/-- Copies a descriptor, if it is open, to one of those that a shell keeps for itself, and answers
which one. -/
def saveDescriptor (descriptor : Nat) : Act (Nat × Option Nat) := do
  let p := (← get).toProcess
  match p.end? descriptor with
  | none => return (descriptor, none)
  | some e =>
    let free := p.firstFree Process.lentDescriptors
    modify fun t => { t with toProcess := p.connect free e }
    return (descriptor, some free)

/-- Puts descriptors back to what they were when they were saved. -/
def restoreDescriptors (saved : List (Nat × Option Nat)) : Act Unit := modify fun t =>
  { t with toProcess := saved.foldl (fun p (descriptor, copy?) =>
      match copy?, copy?.bind p.end? with
      | some copy, some e => (p.connect descriptor e).close copy
      | _, _ => p.close descriptor) t.toProcess }

/-- Does something with descriptors turned for it, or else what is to be done if that fails. -/
def withRedirects (e : Engine) (redirects : List Redirect) (act fallback : Act Unit) :
    Act Unit := do
  if redirects.isEmpty then act
  else
    let saved ← redirects.mapM fun (.turn descriptor _) => saveDescriptor descriptor
    let ok ←
      try
        redirects.forM (turn e)
        pure true
      catch
        | .failing => pure false
        | flow => throw flow
    if ok then ensuring act (restoreDescriptors saved)
    else
      restoreDescriptors saved
      fallback

end ToolHost.Shell
