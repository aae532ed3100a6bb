import Mathlib.Logic.Function.Basic
import ToolHost.Proofs.Registry.Cells

/-! What a registry is to those who ask it one question after the other: a partial map from tools
to shared tools. Slots and cells are not seen, and neither are those that a failed search leaves. -/
namespace ToolHost

/-- The tools in use, and the cells that were given out for a tool at any time. -/
structure Ledger where
  kept? : ToolId → Option Registry.Shared
  given : List CellId

namespace Registry

/-- What a registry may be asked. -/
inductive Call where
  | context (id : ToolId)
  | isInitialized (id : ToolId)
  | initialized
  | unload (id : ToolId)
  | config

inductive Reply where
  | context (answer : Except Problem Shared)
  | truth (b : Bool)
  | names (ids : List ToolId)
  | config (config : HostConfig)

/-- Answers one call on a machine. -/
def reply (m : Machine) (r : Registry) : Call → Reply × Registry
  | .context id => (.context (r.context m id).1, (r.context m id).2)
  | .isInitialized id => (.truth (r.isInitialized id), r)
  | .initialized => (.names r.initialized, r)
  | .unload id => (.truth (r.unload id).1, (r.unload id).2)
  | .config => (.config r.config, r)

/-- Answers calls one after the other, each on the machine as it is by then. -/
def replies (r : Registry) : List (Machine × Call) → List Reply × Registry
  | [] => ([], r)
  | (m, call) :: rest =>
    let (first, r) := r.reply m call
    let (others, r) := r.replies rest
    (first :: others, r)

/-- The shared tool that a registry keeps for a tool. -/
def kept? (r : Registry) (id : ToolId) : Option Shared :=
  (r.slot? id).bind fun cell => (r.content? cell).map (Shared.mk cell)

end Registry

namespace Ledger
open Registry

def empty : Ledger := ⟨fun _ => none, []⟩

/-- The ledger with a tool found and kept in a cell. -/
def enter (l : Ledger) (id : ToolId) (shared : Shared) : Ledger :=
  ⟨Function.update l.kept? id (some shared), shared.cell :: l.given⟩

/-- The ledger without a tool. -/
def strike (l : Ledger) (id : ToolId) : Ledger :=
  ⟨Function.update l.kept? id none, l.given⟩

@[simp] theorem kept?_enter_self (l : Ledger) (id : ToolId) (shared : Shared) :
    (l.enter id shared).kept? id = some shared := by
  simp [enter]

theorem kept?_enter_of_ne {id other : ToolId} (h : other ≠ id) (l : Ledger) (shared : Shared) :
    (l.enter id shared).kept? other = l.kept? other := by
  simp [enter, Function.update_of_ne h]

@[simp] theorem kept?_strike_self (l : Ledger) (id : ToolId) :
    (l.strike id).kept? id = none := by
  simp [strike]

theorem kept?_strike_of_ne {id other : ToolId} (h : other ≠ id) (l : Ledger) :
    (l.strike id).kept? other = l.kept? other := by
  simp [strike, Function.update_of_ne h]

/-- What a call may answer under a configuration, and what it leaves. Only the number of a new cell
is left open: it is one that was never given out. -/
inductive Step (config : HostConfig) (m : Machine) : Ledger → Call → Reply → Ledger → Prop where
  /-- A tool in use is answered as it is, whatever became of its files. -/
  | known {l : Ledger} {id : ToolId} {shared : Shared} (h : l.kept? id = some shared) :
    Step config m l (.context id) (.context (.ok shared)) l
  | found {l : Ledger} {id : ToolId} {tool : ReadyTool} {cell : CellId} (h : l.kept? id = none)
    (hr : config.resolve m id = .ok tool) (hc : cell ∉ l.given) :
    Step config m l (.context id) (.context (.ok ⟨cell, tool⟩)) (l.enter id ⟨cell, tool⟩)
  /-- A tool that is not found leaves no trace. -/
  | missed {l : Ledger} {id : ToolId} {problem : Problem} (h : l.kept? id = none)
    (hr : config.resolve m id = .error problem) :
    Step config m l (.context id) (.context (.error problem)) l
  | isInitialized {l : Ledger} {id : ToolId} :
    Step config m l (.isInitialized id) (.truth (l.kept? id).isSome) l
  | initialized {l : Ledger} {ids : List ToolId} (hn : ids.Nodup)
    (hm : ∀ id, id ∈ ids ↔ (l.kept? id).isSome) (hs : ids.Pairwise (·.name ≤ ·.name)) :
    Step config m l .initialized (.names ids) l
  | unload {l : Ledger} {id : ToolId} :
    Step config m l (.unload id) (.truth (l.kept? id).isSome) (l.strike id)
  | config {l : Ledger} : Step config m l .config (.config config) l

/-- What a run of calls may answer, and the ledger it leaves. -/
inductive Run (config : HostConfig) : Ledger → List (Machine × Call) → List Reply → Ledger → Prop where
  | nil {l : Ledger} : Run config l [] [] l
  | cons {l next last : Ledger} {m : Machine} {call : Call} {rest : List (Machine × Call)}
    {reply : Reply} {others : List Reply} (h : Step config m l call reply next)
    (hrest : Run config next rest others last) :
    Run config l ((m, call) :: rest) (reply :: others) last

end Ledger

namespace Registry
variable {r : Registry} {l : Ledger} {m : Machine} {id : ToolId}

/-- A registry between calls, and the ledger it stands for. -/
structure Keeps (r : Registry) (l : Ledger) : Prop where
  /-- No tool has two slots. -/
  once : (r.slots.map Prod.fst).Nodup
  /-- No slot is empty. -/
  filled : ∀ s ∈ r.slots, (r.content? s.2).isSome
  entries : r.kept? = l.kept?
  /-- What was given out has been made. -/
  made : ∀ cell ∈ l.given, cell < r.cells.length

theorem keeps_new (number : Nat) (config : HostConfig) : (new number config).Keeps .empty where
  once := List.nodup_nil
  filled := fun _ h => absurd h List.not_mem_nil
  entries := rfl
  made := fun _ h => absurd h List.not_mem_nil

theorem isInitialized_eq (r : Registry) (id : ToolId) :
    r.isInitialized id = (r.kept? id).isSome := by
  unfold isInitialized kept?
  cases r.slot? id with
  | none => rfl
  | some cell => simp

theorem kept?_eq_some_iff {shared : Shared} : r.kept? id = some shared ↔
    r.slot? id = some shared.cell ∧ r.content? shared.cell = some shared.tool := by
  obtain ⟨cell, tool⟩ := shared
  simp only [kept?, Option.bind_eq_some_iff, Option.map_eq_some_iff, Shared.mk.injEq]
  constructor
  · rintro ⟨_, hs, _, hc, rfl, rfl⟩
    exact ⟨hs, hc⟩
  · rintro ⟨hs, hc⟩
    exact ⟨cell, hs, tool, hc, rfl, rfl⟩

/-- Only a tool without a slot is missing from a ledger that is kept. -/
theorem Keeps.slot?_none (h : r.Keeps l) (hnone : l.kept? id = none) : r.slot? id = none := by
  cases hs : r.slot? id with
  | none => rfl
  | some cell =>
    obtain ⟨tool, hc⟩ := Option.isSome_iff_exists.mp (h.filled _ (mem_slots_of_slot? hs))
    have hentry : r.kept? id = some ⟨cell, tool⟩ := kept?_eq_some_iff.mpr ⟨hs, hc⟩
    rw [h.entries, hnone] at hentry
    cases hentry

/-- Asking for a tool finds one in its cell, or puts the one that is looked for there, or else throws
the slot away. -/
theorem context_cases (r : Registry) (m : Machine) (id : ToolId) :
    (∃ tool, (r.fetch id).2.content? (r.fetch id).1 = some tool ∧
      r.context m id = (.ok ⟨(r.fetch id).1, tool⟩, (r.fetch id).2)) ∨
    (∃ tool, r.context m id =
      (.ok ⟨(r.fetch id).1, tool⟩, (r.fetch id).2.fill (r.fetch id).1 tool)) ∨
    ∃ problem, (r.fetch id).2.content? (r.fetch id).1 = none ∧
      r.context m id = (.error problem, (r.fetch id).2.discard id (r.fetch id).1) := by
  rw [context]
  cases hc : (r.fetch id).2.content? (r.fetch id).1 with
  | some tool => exact .inl ⟨tool, rfl, by simp only [hc]⟩
  | none =>
    cases hr : (r.fetch id).2.config.resolve m id with
    | ok tool => exact .inr (.inl ⟨tool, by simp only [hc, hr]⟩)
    | error problem => exact .inr (.inr ⟨problem, rfl, by simp only [hc, hr]⟩)

/-- A tool that is given is kept. -/
theorem kept?_of_context_ok {shared : Shared}
    (hmade : ∀ cell, r.slot? id = some cell → cell < r.cells.length)
    (h : (r.context m id).1 = .ok shared) : (r.context m id).2.kept? id = some shared := by
  have hslot := slot?_fetch r id
  rcases r.context_cases m id with ⟨tool, hc, heq⟩ | ⟨tool, heq⟩ | ⟨problem, -, heq⟩
  · rw [heq] at h ⊢
    cases h
    exact kept?_eq_some_iff.mpr ⟨hslot, hc⟩
  · rw [heq] at h ⊢
    cases h
    exact kept?_eq_some_iff.mpr ⟨hslot, content?_fill_self (fetch_lt_length hmade) tool⟩
  · rw [heq] at h
    cases h

/-- A tool in use is given without looking for it again. -/
theorem context_of_kept? {shared : Shared} (h : r.kept? id = some shared) (m : Machine) :
    r.context m id = (.ok shared, r) := by
  obtain ⟨hs, hc⟩ := kept?_eq_some_iff.mp h
  simp only [context, fetch_of_slot? hs, hc]

/-- A tool that is found gets the next cell and a slot for it. -/
theorem context_of_resolve_ok {tool : ReadyTool} (hs : r.slot? id = none)
    (hr : r.config.resolve m id = .ok tool) :
    r.context m id = (.ok ⟨r.cells.length, tool⟩,
      { r with slots := r.slots ++ [(id, r.cells.length)], cells := r.cells ++ [some tool] }) := by
  simp [context, fetch_of_slot?_none hs, hr, content?, fill]

/-- A tool that is not found leaves an empty cell, but no slot. -/
theorem context_of_resolve_error {problem : Problem} (hs : r.slot? id = none)
    (hr : r.config.resolve m id = .error problem) :
    r.context m id = (.error problem, { r with cells := r.cells ++ [none] }) := by
  have hfetch := fetch_of_slot?_none hs
  have hslot := slot?_fetch r id
  have hempty : (r.fetch id).2.content? (r.fetch id).1 = none := by
    rw [content?_fetch, hfetch]
    exact content?_of_length_le (Nat.le_refl _)
  simp only [context, hempty, config_fetch, hr]
  rw [discard_of_stale hslot hempty, hfetch, dropSlot_append hs]

theorem content?_append_of_lt {cell : CellId} (h : cell < r.cells.length)
    (content : Option ReadyTool) (slots : List (ToolId × CellId)) :
    content? { r with slots := slots, cells := r.cells ++ [content] } cell = r.content? cell := by
  simp [content?, List.getElem?_append_left h]

theorem content?_append_self (content : Option ReadyTool) (slots : List (ToolId × CellId)) :
    content? { r with slots := slots, cells := r.cells ++ [content] } r.cells.length = content := by
  simp [content?]

theorem Keeps.lt_length (h : r.Keeps l) {cell : CellId} (hs : (id, cell) ∈ r.slots) :
    cell < r.cells.length := by
  obtain ⟨tool, hc⟩ := Option.isSome_iff_exists.mp (h.filled _ hs)
  exact lt_length_of_content? hc

/-- Whatever a further cell holds, a tool that keeps its slot keeps what it shares. -/
theorem Keeps.kept?_grown (h : r.Keeps l) (content : Option ReadyTool)
    {slots : List (ToolId × CellId)} (hs : slots.lookup id = r.slot? id) :
    kept? { r with slots := slots, cells := r.cells ++ [content] } id = r.kept? id := by
  simp only [kept?, slot?, hs]
  cases hslot : r.slots.lookup id with
  | none => rfl
  | some cell =>
    have hlt := h.lt_length (mem_slots_of_slot? hslot)
    simp only [Option.bind_some, content?_append_of_lt hlt]

/-- A cell without a slot is not seen. -/
theorem Keeps.make (h : r.Keeps l) : Keeps { r with cells := r.cells ++ [none] } l where
  once := h.once
  filled := by
    intro s hs
    rw [content?_append_of_lt (h.lt_length hs)]
    exact h.filled s hs
  entries := by
    rw [← h.entries]
    funext id
    exact h.kept?_grown none rfl
  made := by
    intro cell hcell
    rw [List.length_append]
    exact Nat.lt_add_right _ (h.made cell hcell)

/-- A filled cell with a slot is an entry, and the entries of the other tools stay. -/
theorem Keeps.enter (h : r.Keeps l) (hs : r.slot? id = none) (tool : ReadyTool) :
    Keeps { r with slots := r.slots ++ [(id, r.cells.length)], cells := r.cells ++ [some tool] }
      (l.enter id ⟨r.cells.length, tool⟩) where
  once := nodup_slots_append h.once hs _
  filled := by
    intro s hmem
    rcases List.mem_append.mp hmem with hold | hnew
    · rw [content?_append_of_lt (h.lt_length hold)]
      exact h.filled s hold
    · rw [List.mem_singleton.mp hnew, content?_append_self]
      rfl
  entries := by
    funext other
    by_cases hother : other = id
    · subst hother
      have hslot : (r.slots ++ [(other, r.cells.length)]).lookup other = some r.cells.length := by
        rw [List.lookup_append, show r.slots.lookup other = none from hs]
        simp
      rw [Ledger.kept?_enter_self]
      exact kept?_eq_some_iff.mpr ⟨hslot, content?_append_self _ _⟩
    · have hb : (other == id) = false := by simpa using hother
      rw [Ledger.kept?_enter_of_ne hother, ← h.entries]
      apply h.kept?_grown
      rw [List.lookup_append, List.lookup_cons, hb, List.lookup_nil, Option.or_none]
      rfl
  made := by
    intro cell hmem
    rw [List.length_append, List.length_singleton]
    rcases List.mem_cons.mp hmem with rfl | hold
    · exact Nat.lt_succ_self _
    · exact Nat.lt_succ_of_lt (h.made cell hold)

theorem Keeps.strike (h : r.Keeps l) (id : ToolId) : (r.dropSlot id).Keeps (l.strike id) where
  once := nodup_slots_dropSlot h.once id
  filled := fun s hs => h.filled s (List.mem_of_mem_filter hs)
  entries := by
    funext other
    by_cases hother : other = id
    · subst hother
      simp [kept?]
    · rw [Ledger.kept?_strike_of_ne hother, ← h.entries]
      rw [kept?, kept?, slot?_dropSlot_of_ne hother]
      rfl
  made := h.made

theorem Keeps.mem_iff (h : r.Keeps l) :
    id ∈ r.slots.map Prod.fst ↔ (l.kept? id).isSome := by
  rw [← h.entries, ← isInitialized_eq, isInitialized]
  constructor
  · intro hmem
    obtain ⟨⟨_, cell⟩, hcell, rfl⟩ := List.mem_map.mp hmem
    rw [(slot?_eq_some_iff h.once).mpr hcell]
    exact h.filled _ hcell
  · intro hsome
    obtain ⟨tool, htool⟩ := Option.isSome_iff_exists.mp hsome
    obtain ⟨cell, hslot, -⟩ := Option.bind_eq_some_iff.mp htool
    exact List.mem_map.mpr ⟨(id, cell), mem_slots_of_slot? hslot, rfl⟩

/-- The list of the tools in use holds each of them once, by name. -/
theorem Keeps.initialized (h : r.Keeps l) : r.initialized.Nodup ∧
    (∀ id, id ∈ r.initialized ↔ (l.kept? id).isSome) ∧
    r.initialized.Pairwise (·.name ≤ ·.name) := by
  have hall : (r.slots.filter fun s => (r.content? s.2).isSome) = r.slots :=
    List.filter_eq_self.mpr h.filled
  rw [Registry.initialized, hall]
  refine ⟨?_, ?_, ?_⟩
  · exact (List.mergeSort_perm _ _).nodup_iff.mpr h.once
  · intro id
    rw [List.mem_mergeSort]
    exact h.mem_iff
  · refine (List.pairwise_mergeSort ?_ ?_ _).imp of_decide_eq_true
    · intro a b c hab hbc
      rw [decide_eq_true_eq] at hab hbc ⊢
      exact String.le_trans hab hbc
    · intro a b
      rw [Bool.or_eq_true, decide_eq_true_eq, decide_eq_true_eq]
      exact String.le_total a.name b.name

/-- A registry that keeps a ledger answers any call as the ledger allows, and keeps what follows. -/
theorem Keeps.reply (h : r.Keeps l) (m : Machine) (call : Call) :
    ∃ next, Ledger.Step r.config m l call (r.reply m call).1 next ∧
      (r.reply m call).2.Keeps next ∧ (r.reply m call).2.config = r.config := by
  cases call with
  | context id =>
    cases hkept : l.kept? id with
    | some shared =>
      rw [Registry.reply, context_of_kept? (h.entries ▸ hkept) m]
      exact ⟨l, .known hkept, h, rfl⟩
    | none =>
      have hs := h.slot?_none hkept
      cases hr : r.config.resolve m id with
      | error problem =>
        rw [Registry.reply, context_of_resolve_error hs hr]
        exact ⟨l, .missed hkept hr, h.make, rfl⟩
      | ok tool =>
        rw [Registry.reply, context_of_resolve_ok hs hr]
        have hfresh : r.cells.length ∉ l.given := fun hmem => Nat.lt_irrefl _ (h.made _ hmem)
        exact ⟨_, .found hkept hr hfresh, h.enter hs tool, rfl⟩
  | isInitialized id =>
    rw [Registry.reply, isInitialized_eq, h.entries]
    exact ⟨l, .isInitialized, h, rfl⟩
  | initialized =>
    obtain ⟨hnodup, hmem, hsorted⟩ := h.initialized
    exact ⟨l, .initialized hnodup hmem hsorted, h, rfl⟩
  | unload id =>
    rw [Registry.reply, unload, isInitialized_eq, h.entries]
    exact ⟨l.strike id, .unload, h.strike id, rfl⟩
  | config => exact ⟨l, .config, h, rfl⟩

theorem Keeps.replies (h : r.Keeps l) (calls : List (Machine × Call)) :
    ∃ last, Ledger.Run r.config l calls (r.replies calls).1 last ∧
      (r.replies calls).2.Keeps last := by
  induction calls generalizing r l with
  | nil => exact ⟨l, .nil, h⟩
  | cons first rest ih =>
    obtain ⟨m, call⟩ := first
    obtain ⟨next, hstep, hkeeps, hconfig⟩ := h.reply m call
    obtain ⟨last, hrun, hlast⟩ := ih hkeeps
    rw [hconfig] at hrun
    exact ⟨last, .cons hstep hrun, hlast⟩

/-- Whatever is asked of a new registry, call after call and each on any state of the machine, its
answers are those of a ledger that begins empty. Between calls it shares exactly what the ledger
holds, and none of its slots is empty. -/
theorem replies_follow_ledger (number : Nat) (config : HostConfig) (calls : List (Machine × Call)) :
    ∃ last, Ledger.Run config .empty calls ((new number config).replies calls).1 last ∧
      ((new number config).replies calls).2.kept? = last.kept? ∧
      ∀ s ∈ ((new number config).replies calls).2.slots,
        (((new number config).replies calls).2.content? s.2).isSome := by
  obtain ⟨last, hrun, hkeeps⟩ := (keeps_new number config).replies calls
  exact ⟨last, hrun, hkeeps.entries, hkeeps.filled⟩

end Registry
end ToolHost
