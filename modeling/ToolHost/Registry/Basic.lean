import ToolHost.Tool.Ready

/-! The registry of the tools in use. A tool is found when it is first asked for and kept from then
on. Every tool in use has a cell; the cell is made empty, may be filled once, and is shared by all
who ask for the tool. A cell that was never filled is thrown away by those who could not fill it. -/
namespace ToolHost

/-- The number of a cell; no two cells of a registry have the same. -/
abbrev CellId := Nat

structure Registry where
  /-- Tells one registry from another. -/
  number : Nat
  config : HostConfig
  /-- The cells that are in use, by tool. -/
  slots : List (ToolId × CellId)
  /-- What is in the cells made so far, those no longer in use included. -/
  cells : List (Option ReadyTool)
  deriving DecidableEq, Repr

namespace Registry

def new (number : Nat) (config : HostConfig) : Registry := ⟨number, config, [], []⟩

/-- What a cell holds. -/
def content? (r : Registry) (cell : CellId) : Option ReadyTool := r.cells[cell]?.join

/-- The cell of a tool. -/
def slot? (r : Registry) (id : ToolId) : Option CellId := r.slots.lookup id

/-- The registry without the slot of a tool. -/
def dropSlot (r : Registry) (id : ToolId) : Registry :=
  { r with slots := Keyed.erase id r.slots }

@[simp] theorem slot?_dropSlot_self (r : Registry) (id : ToolId) :
    (r.dropSlot id).slot? id = none := by
  simp [slot?, dropSlot]

theorem slot?_dropSlot_of_ne {id other : ToolId} (h : other ≠ id) (r : Registry) :
    (r.dropSlot id).slot? other = r.slot? other := by
  simp only [slot?, dropSlot, Keyed.lookup_erase_of_ne h]

/-- Gives the cell of a tool, a new empty one if it has none. -/
def fetch (r : Registry) (id : ToolId) : CellId × Registry :=
  match r.slot? id with
  | some cell => (cell, r)
  | none =>
    (r.cells.length,
      { r with slots := r.slots ++ [(id, r.cells.length)], cells := r.cells ++ [none] })

/-- The cell that is given is the tool's cell from then on. -/
theorem slot?_fetch (r : Registry) (id : ToolId) :
    (r.fetch id).2.slot? id = some (r.fetch id).1 := by
  unfold fetch
  split
  · assumption
  · rename_i h
    simp only [slot?] at h ⊢
    rw [List.lookup_append, h]
    simp

/-- Puts a tool into a cell. -/
def fill (r : Registry) (cell : CellId) (tool : ReadyTool) : Registry :=
  { r with cells := r.cells.set cell (some tool) }

theorem content?_fill_self {r : Registry} {cell : CellId} (h : cell < r.cells.length)
    (tool : ReadyTool) : (r.fill cell tool).content? cell = some tool := by
  simp [content?, fill, h]

theorem content?_fill_of_ne {cell other : CellId} (h : other ≠ cell) (r : Registry)
    (tool : ReadyTool) : (r.fill cell tool).content? other = r.content? other := by
  simp [content?, fill, List.getElem?_set_ne h.symm]

/-- Throws a cell away that could not be filled, unless the tool has got another one or somebody
else has filled it. -/
def discard (r : Registry) (id : ToolId) (cell : CellId) : Registry :=
  if r.slot? id = some cell ∧ r.content? cell = none then r.dropSlot id else r

/-- Whether a tool is in use. -/
def isInitialized (r : Registry) (id : ToolId) : Bool :=
  ((r.slot? id).bind r.content?).isSome

/-- The tools in use, by name. -/
def initialized (r : Registry) : List ToolId :=
  ((r.slots.filter fun s => (r.content? s.2).isSome).map Prod.fst).mergeSort
    fun a b => decide (a.name ≤ b.name)

/-- Gives up a tool, and says whether it was in use. -/
def unload (r : Registry) (id : ToolId) : Bool × Registry := (r.isInitialized id, r.dropSlot id)

end Registry
end ToolHost
