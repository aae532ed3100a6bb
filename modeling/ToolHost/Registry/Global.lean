import ToolHost.Config.Sources
import ToolHost.Registry.Calls

/-! The registry of the whole process. It is chosen once: whoever needs it first makes it, unless
one has been installed before. Reading a configuration takes time, so another one may have been
chosen in the meantime; then that one counts. -/
namespace ToolHost.Registry

/-- The registry of the process, if it has been chosen, and how many registries were made. -/
structure Global where
  chosen? : Option Registry
  made : Nat
  deriving DecidableEq, Repr

/-- How far a request for the registry of the process has come. -/
inductive Search where
  | begun
  /-- There was none, so a configuration is to be read. -/
  | absent
  | loaded (config : HostConfig)
  /-- The registry, by its number, or why there is none. -/
  | ended (answer : Except Problem Nat)
  deriving Repr

namespace Global

/-- Before anything was chosen. -/
def start : Global := ⟨none, 0⟩

/-- Makes a registry for a process that may have one already. Says which one counts, and whether it
is the new one. -/
def offer (g : Global) (config : HostConfig) : (Registry × Bool) × Global :=
  match g.chosen? with
  | some r => ((r, false), { g with made := g.made + 1 })
  | none =>
    let r := Registry.new g.made config
    ((r, true), ⟨some r, g.made + 1⟩)

/-- Installs a registry, and says whether it is the first. -/
def install (g : Global) (config : HostConfig) : Bool × Global :=
  let ((_, first), g) := g.offer config
  (first, g)

/-- Takes one step of a request. -/
def step (m : Machine) (g : Global) : Search → Search × Global
  | .begun =>
    match g.chosen? with
    | some r => (.ended (.ok r.number), g)
    | none => (.absent, g)
  | .absent =>
    match HostConfig.loadDefault m with
    | .ok config => (.loaded config, g)
    | .error problem => (.ended (.error problem), g)
  | .loaded config =>
    let ((r, _), g) := g.offer config
    (.ended (.ok r.number), g)
  | .ended answer => (.ended answer, g)

/-- The registry of the process, made from the default configuration if there is none. -/
def get (m : Machine) (g : Global) : Except Problem Registry × Global :=
  match g.chosen? with
  | some r => (.ok r, g)
  | none =>
    match HostConfig.loadDefault m with
    | .error problem => (.error problem, g)
    | .ok config =>
      let ((r, _), g) := g.offer config
      (.ok r, g)

/-- The process with its registry in a new state. -/
def update (g : Global) (r : Registry) : Global := { g with chosen? := some r }

/-- Runs a tool of the registry of the process. -/
def run (m : Machine) (g : Global) (id : ToolId) (line : String) :
    Except Problem Nat × Global × Machine :=
  match g.get m with
  | (.error problem, g) => (.error problem, g, m)
  | (.ok r, g) =>
    let (code, r, m) := r.run m id line
    (code, g.update r, m)

/-- Runs SQLiteCompare. -/
def sqliteCompare (m : Machine) (g : Global) (line : String) :
    Except Problem Nat × Global × Machine :=
  g.run m .sqliteCompare line

/-- Runs ReoGridCompare. -/
def reoGridCompare (m : Machine) (g : Global) (line : String) :
    Except Problem Nat × Global × Machine :=
  g.run m .reoGridCompare line

/-- What can happen in a process while requests are open. -/
inductive Event where
  /-- The request at an index takes a step. -/
  | advance (index : Nat)
  | install (config : HostConfig)
  /-- Somebody else changes the machine. -/
  | change (machine : Machine)

/-- A process with the requests for its registry. -/
structure Scene where
  machine : Machine
  global : Global
  requests : List Search

namespace Scene

def happen (s : Scene) : Event → Scene
  | .advance index =>
    match s.requests[index]? with
    | none => s
    | some request =>
      let (request, g) := s.global.step s.machine request
      { s with global := g, requests := s.requests.set index request }
  | .install config => { s with global := (s.global.install config).2 }
  | .change machine => { s with machine := machine }

/-- Everything that happens, in its order. -/
def run (s : Scene) (events : List Event) : Scene := events.foldl happen s

end Scene
end Global
end ToolHost.Registry
