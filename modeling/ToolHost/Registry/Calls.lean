import ToolHost.CommandLine.Tokens
import ToolHost.Registry.Basic

/-! Asking a registry for a tool. A question takes up to three steps: getting hold of the tool's
cell, filling the cell if it is still empty, and, if that failed, throwing it away. Other questions
may take steps in between. -/
namespace ToolHost.Registry

/-- A tool in use, with the cell that it shares. -/
structure Shared where
  cell : CellId
  tool : ReadyTool
  deriving DecidableEq, Repr

/-- How far a question has come. -/
inductive Stage where
  | asked
  | holding (cell : CellId)
  /-- The cell could not be filled. -/
  | failing (cell : CellId) (problem : Problem)
  | answered (answer : Except Problem Shared)
  deriving Repr

/-- A question for a tool. -/
structure Question where
  id : ToolId
  stage : Stage

/-- Takes one step of a question. -/
def step (m : Machine) (r : Registry) (q : Question) : Question × Registry :=
  match q.stage with
  | .asked =>
    let (cell, r) := r.fetch q.id
    ({ q with stage := .holding cell }, r)
  | .holding cell =>
    match r.content? cell with
    | some tool => ({ q with stage := .answered (.ok ⟨cell, tool⟩) }, r)
    | none =>
      match r.config.resolve m q.id with
      | .ok tool => ({ q with stage := .answered (.ok ⟨cell, tool⟩) }, r.fill cell tool)
      | .error problem => ({ q with stage := .failing cell problem }, r)
  | .failing cell problem => ({ q with stage := .answered (.error problem) }, r.discard q.id cell)
  | .answered _ => (q, r)

/-- What can happen while questions are open. -/
inductive Event where
  /-- The question at an index takes a step. -/
  | advance (index : Nat)
  | unload (id : ToolId)
  /-- Somebody else changes the files. -/
  | change (files : FileTree)

/-- A registry with the questions put to it. -/
structure Scene where
  machine : Machine
  registry : Registry
  questions : List Question

namespace Scene

def happen (s : Scene) : Event → Scene
  | .advance index =>
    match s.questions[index]? with
    | none => s
    | some q =>
      let (q, r) := s.registry.step s.machine q
      { s with registry := r, questions := s.questions.set index q }
  | .unload id => { s with registry := (s.registry.unload id).2 }
  | .change files => { s with machine.files := files }

/-- Everything that happens, in its order. -/
def run (s : Scene) (events : List Event) : Scene := events.foldl happen s

/-- The answer to a question, if there is one yet. -/
def answer? (s : Scene) (index : Nat) : Option (Except Problem Shared) :=
  match s.questions[index]? with
  | some ⟨_, .answered answer⟩ => some answer
  | _ => none

end Scene

/-- A tool that is in use, found first if it is not. -/
def context (m : Machine) (r : Registry) (id : ToolId) : Except Problem Shared × Registry :=
  let (cell, r) := r.fetch id
  match r.content? cell with
  | some tool => (.ok ⟨cell, tool⟩, r)
  | none =>
    match r.config.resolve m id with
    | .ok tool => (.ok ⟨cell, tool⟩, r.fill cell tool)
    | .error problem => (.error problem, r.discard id cell)

/-- A question that takes all its steps at once gets the answer of `context`. -/
theorem step_step_step (m : Machine) (r : Registry) (id : ToolId) :
    let (q, s) := r.step m ⟨id, .asked⟩
    let (q, s) := s.step m q
    s.step m q = (⟨id, .answered (r.context m id).1⟩, (r.context m id).2) := by
  simp only [step, context]
  rcases (r.fetch id).2.content? (r.fetch id).1 with _ | tool
  · rcases (r.fetch id).2.config.resolve m id with problem | tool <;> rfl
  · rfl

/-- The scene when a question is about to see whether its tool is there. Other programs have gone on
while it looked. -/
def Scene.search (s : Scene) (index : Nat) : Scene :=
  match s.questions[index]? with
  | some ⟨id, .holding cell⟩ =>
    if (s.registry.content? cell).isSome then s
    else { s with machine := s.machine.elapse (s.registry.config.searchTime s.machine id) }
  | _ => s

/-- Asks for one tool many times at once. All questions get hold of a cell; then one after the other
looks for the tool while the rest of them wait. -/
def contexts (m : Machine) (r : Registry) (id : ToolId) (n : Nat) :
    List (Except Problem Shared) × Registry × Machine :=
  let turns := List.range n
  let s := Scene.run ⟨m, r, List.replicate n ⟨id, .asked⟩⟩ (turns.map Event.advance)
  let s := turns.foldl (fun s index => (s.search index).run [.advance index, .advance index]) s
  (turns.filterMap s.answer?, s.registry, s.machine)

/-- Runs a tool with the arguments of a command line and gives its exit code. -/
def run (m : Machine) (r : Registry) (id : ToolId) (line : String) :
    Except Problem Nat × Registry × Machine :=
  match r.context m id with
  | (.error problem, r) => (.error problem, r, m)
  | (.ok shared, r) =>
    let (code, m) := shared.tool.launch m (shared.tool.orderUnder r.config (CommandLine.tokenize line))
    (code, r, m)

end ToolHost.Registry
