import ToolHost.Registry.Global

/-! A session: requests to a host that go on one after the other, each seeing what the ones before
it left on the machine and in the registries. -/
namespace ToolHost

/-- A tool as a request names it. -/
inductive ToolName where
  /-- A text to be read as a tool id. -/
  | spelled (text : String)
  | known (id : ToolId)
  deriving DecidableEq, Repr

/-- The tool that is named. -/
def ToolName.resolve : ToolName → Except Problem ToolId
  | spelled text =>
    match ToolId.ofText? text with
    | some id => .ok id
    | none => .error .emptyToolId
  | known id => .ok id

/-- What a session may be asked. -/
inductive Request where
  /-- Makes a registry of its own for the session, in place of the one it had. -/
  | new (config : String)
  | config
  | context (tool : ToolName)
  /-- Finds a tool without keeping it. -/
  | resolve (tool : ToolName)
  | contexts (tool : ToolName) (n : Nat)
  | isInitialized (tool : ToolName)
  | initialized
  | unload (tool : ToolName)
  | run (tool : ToolName) (line : String)
  | launch (tool : ToolName) (args : List String) (workingDir? : Option Path)
      (limit? : Option Duration)
  | install (path : Path) (item : Item)
  | remove (path : Path)
  | read (path : Path)
  | installGlobal (config : String)
  | globalRun (tool : ToolName) (line : String)
  | globalConfig
  | globalInitialized
  | globalUnload (tool : ToolName)
  deriving Repr

/-- A tool as an answer shows it. -/
structure Shown where
  tool : ReadyTool
  /-- The number of the shared tool, if it is one. -/
  number? : Option Nat
  deriving DecidableEq, Repr

inductive Answer where
  | nothing
  | truth (b : Bool)
  | code (n : Nat)
  | text (s? : Option String)
  | names (ids : List ToolId)
  | config (config : HostConfig)
  | tool (shown : Shown)
  | numbers (answers : List (Except Problem Nat))
  | problem (p : Problem)

structure Session where
  machine : Machine
  /-- The registry of the session itself. -/
  own : Registry
  global : Registry.Global
  /-- The shared tools shown so far, by registry and cell, in the order of their numbers. -/
  shown : List (Nat × CellId)

namespace Session

/-- A session in a fresh process. -/
def start (machine : Machine) (config : HostConfig) : Session :=
  ⟨machine, .new 0 config, ⟨none, 1⟩, []⟩

/-- The number of a shared tool; a new one gets the next. -/
def number (s : Session) (shared : Registry.Shared) : Nat × Session :=
  let key := (s.own.number, shared.cell)
  match s.shown.findIdx? (· == key) with
  | some n => (n, s)
  | none => (s.shown.length, { s with shown := s.shown ++ [key] })

/-- The numbers of shared tools, one after the other. -/
def numbers (s : Session) :
    List (Except Problem Registry.Shared) → List (Except Problem Nat) × Session
  | [] => ([], s)
  | .error p :: rest =>
    let (answers, s) := s.numbers rest
    (.error p :: answers, s)
  | .ok shared :: rest =>
    let (n, s) := s.number shared
    let (answers, s) := s.numbers rest
    (.ok n :: answers, s)

/-- The answer to something that may fail. -/
def answerOf (f : α → Answer) : Except Problem α → Answer
  | .ok a => f a
  | .error p => .problem p

/-- Does something with the tool that a request names. -/
def withTool (s : Session) (tool : ToolName) (f : ToolId → Answer × Session) : Answer × Session :=
  match tool.resolve with
  | .error p => (.problem p, s)
  | .ok id => f id

/-- Does something with the configuration in a text. -/
def withConfig (s : Session) (text : String) (f : HostConfig → Answer × Session) : Answer × Session :=
  match HostConfig.parse text with
  | .error p => (.problem p, s)
  | .ok config => f config

/-- Does something with the registry of the process. -/
def withGlobal (s : Session) (f : Registry → Session → Answer × Session) : Answer × Session :=
  match s.global.get s.machine with
  | (.error p, g) => (.problem p, { s with global := g })
  | (.ok r, g) => f r { s with global := g }

/-- Changes the files of the machine, if the system lets that happen. -/
def withFiles (s : Session) : Except OsError FileTree → Answer × Session
  | .error e => (.problem (.system e), s)
  | .ok files => (.nothing, { s with machine.files := files })

/-- The session when it is about to see whether a tool is there, unless a registry knows it already.
Other programs have gone on while it looked. -/
def search (s : Session) (r : Registry) (id : ToolId) : Session :=
  if r.isInitialized id then s
  else { s with machine := s.machine.elapse (r.config.searchTime s.machine id) }

/-- Answers a request. -/
def answer (s : Session) : Request → Answer × Session
  | .new text => s.withConfig text fun config =>
    (.config config, { s with
      own := .new s.global.made config
      global.made := s.global.made + 1 })
  | .config => (.config s.own.config, s)
  | .context tool => s.withTool tool fun id =>
    let s := s.search s.own id
    match s.own.context s.machine id with
    | (.error p, r) => (.problem p, { s with own := r })
    | (.ok shared, r) =>
      let (n, s) := { s with own := r }.number shared
      (.tool ⟨shared.tool, some n⟩, s)
  | .resolve tool => s.withTool tool fun id =>
    let s := s.search (.new s.own.number s.own.config) id
    (answerOf (fun t => .tool ⟨t, none⟩) (s.own.config.resolve s.machine id), s)
  | .contexts tool n => s.withTool tool fun id =>
    let (answers, r, m) := s.own.contexts s.machine id n
    let (answers, s) := { s with own := r, machine := m }.numbers answers
    (.numbers answers, s)
  | .isInitialized tool => s.withTool tool fun id => (.truth (s.own.isInitialized id), s)
  | .initialized => (.names s.own.initialized, s)
  | .unload tool => s.withTool tool fun id =>
    let (live, r) := s.own.unload id
    (.truth live, { s with own := r })
  | .run tool line => s.withTool tool fun id =>
    let s := s.search s.own id
    let (code, r, m) := s.own.run s.machine id line
    (answerOf .code code, { s with own := r, machine := m })
  | .launch tool args workingDir? limit? => s.withTool tool fun id =>
    let s := s.search s.own id
    match s.own.context s.machine id with
    | (.error p, r) => (.problem p, { s with own := r })
    | (.ok shared, r) =>
      let (code, m) := shared.tool.launch s.machine (shared.tool.order args workingDir? limit?)
      (answerOf .code code, { s with own := r, machine := m })
  | .install path item => s.withFiles (s.machine.files.install s.machine.cwd path item)
  | .remove path => s.withFiles (s.machine.files.remove s.machine.cwd path)
  | .read path => (.text (s.machine.files.readText s.machine.cwd path).toOption, s)
  | .installGlobal text => s.withConfig text fun config =>
    let (first, g) := s.global.install config
    (.truth first, { s with global := g })
  | .globalRun tool line => s.withTool tool fun id =>
    let s := ((s.global.get s.machine).1.toOption.map fun r => s.search r id).getD s
    let (code, g, m) := s.global.run s.machine id line
    (answerOf .code code, { s with global := g, machine := m })
  | .globalConfig => s.withGlobal fun r s => (.config r.config, s)
  | .globalInitialized => s.withGlobal fun r s => (.names r.initialized, s)
  | .globalUnload tool => s.withTool tool fun id => s.withGlobal fun r s =>
    let (live, r) := r.unload id
    (.truth live, { s with global := s.global.update r })

/-- Answers requests one after the other. -/
def run (s : Session) : List Request → List Answer × Session
  | [] => ([], s)
  | request :: rest =>
    let (first, s) := s.answer request
    let (answers, s) := s.run rest
    (first :: answers, s)

end Session
end ToolHost
