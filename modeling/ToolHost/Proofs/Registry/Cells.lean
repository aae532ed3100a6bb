import Mathlib.Data.List.Basic
import Mathlib.Data.List.Nodup
import ToolHost.Registry.Calls

/-! What the operations of a registry do to the slots of its tools and to the content of its cells,
one law for each. Cells that are no longer in use keep their content. -/
namespace ToolHost

/-- If no key comes twice, looking a key up finds whatever stands under it. -/
theorem Keyed.lookup_eq_some_iff_mem [BEq α] [LawfulBEq α] {l : List (α × β)}
    (h : (l.map Prod.fst).Nodup) {k : α} {v : β} : l.lookup k = some v ↔ (k, v) ∈ l := by
  induction l with
  | nil => simp
  | cons e l ih =>
    obtain ⟨k', v'⟩ := e
    rw [List.map_cons, List.nodup_cons] at h
    by_cases hk : k = k'
    · subst hk
      have hnot : (k, v) ∉ l := fun hmem => h.1 (List.mem_map.mpr ⟨(k, v), hmem, rfl⟩)
      simp [hnot, eq_comm]
    · have hb : (k == k') = false := by simpa using hk
      rw [List.lookup_cons, hb, ih h.2]
      simp [hk]

/-- Nothing is taken away from a list in which nothing stands under the key. -/
theorem Keyed.erase_of_lookup_eq_none [BEq α] [LawfulBEq α] {l : List (α × β)} {k : α}
    (h : l.lookup k = none) : Keyed.erase k l = l := by
  rw [Keyed.erase, List.filter_eq_self]
  intro e he
  have hne := List.lookup_eq_none_iff.mp h e he
  rw [bne_iff_ne] at hne ⊢
  exact hne.symm

namespace Registry
variable {r : Registry} {id other : ToolId} {cell c : CellId}

theorem mem_slots_of_slot? (h : r.slot? id = some cell) : (id, cell) ∈ r.slots := by
  obtain ⟨before, after, he, -⟩ := List.lookup_eq_some_iff.mp h
  rw [he]
  simp

theorem slot?_eq_some_iff (h : (r.slots.map Prod.fst).Nodup) :
    r.slot? id = some cell ↔ (id, cell) ∈ r.slots :=
  Keyed.lookup_eq_some_iff_mem h

/-- A cell that has not been made holds nothing. -/
theorem content?_of_length_le (h : r.cells.length ≤ cell) : r.content? cell = none := by
  simp [content?, List.getElem?_eq_none h]

theorem lt_length_of_content? {tool : ReadyTool} (h : r.content? cell = some tool) :
    cell < r.cells.length := by
  by_contra hlt
  rw [content?_of_length_le (Nat.le_of_not_lt hlt)] at h
  cases h

theorem fetch_of_slot? (h : r.slot? id = some cell) : r.fetch id = (cell, r) := by
  simp [fetch, h]

theorem fetch_of_slot?_none (h : r.slot? id = none) :
    r.fetch id = (r.cells.length,
      { r with slots := r.slots ++ [(id, r.cells.length)], cells := r.cells ++ [none] }) := by
  simp [fetch, h]

theorem slot?_fetch_of_ne (h : other ≠ id) : (r.fetch id).2.slot? other = r.slot? other := by
  cases hs : r.slot? id with
  | some cell => rw [fetch_of_slot? hs]
  | none =>
    have hb : (other == id) = false := by simpa using h
    rw [fetch_of_slot?_none hs]
    simp only [slot?, List.lookup_append, List.lookup_cons, hb, List.lookup_nil, Option.or_none]

/-- The cell that is given was the tool's own before, or it is the next one. -/
theorem fetch_cell (r : Registry) (id : ToolId) : r.slot? id = some (r.fetch id).1 ∨
    (r.fetch id).1 = r.cells.length ∧ r.cells.length < (r.fetch id).2.cells.length := by
  cases hs : r.slot? id with
  | some cell =>
    rw [fetch_of_slot? hs]
    exact .inl rfl
  | none =>
    rw [fetch_of_slot?_none hs, List.length_append]
    exact .inr ⟨rfl, Nat.lt_succ_self _⟩

theorem length_fetch_le (r : Registry) (id : ToolId) :
    r.cells.length ≤ (r.fetch id).2.cells.length := by
  cases hs : r.slot? id with
  | some _ => simp [fetch_of_slot? hs]
  | none => simp [fetch_of_slot?_none hs]

/-- If the cells in the slots have been made, so has the one that is given. -/
theorem fetch_lt_length (h : ∀ cell, r.slot? id = some cell → cell < r.cells.length) :
    (r.fetch id).1 < (r.fetch id).2.cells.length := by
  rcases r.fetch_cell id with hslot | ⟨hnew, hlt⟩
  · exact Nat.lt_of_lt_of_le (h _ hslot) (length_fetch_le r id)
  · rwa [hnew]

/-- A slot is not lost by fetching. -/
theorem slot?_fetch_of_slot? (h : r.slot? other = some cell) :
    (r.fetch id).2.slot? other = some cell := by
  by_cases hid : other = id
  · subst hid
    rw [fetch_of_slot? h]
    exact h
  · rw [slot?_fetch_of_ne hid, h]

/-- A new cell that is empty changes the content of none. -/
theorem content?_append_none (slots : List (ToolId × CellId)) :
    content? { r with slots := slots, cells := r.cells ++ [none] } cell = r.content? cell := by
  rcases Nat.lt_trichotomy cell r.cells.length with h | h | h
  · simp [content?, List.getElem?_append_left h]
  · simp [content?, h]
  · rw [content?_of_length_le (Nat.le_of_lt h), content?_of_length_le]
    rw [List.length_append, List.length_singleton]
    exact h

@[simp] theorem content?_fetch : (r.fetch id).2.content? cell = r.content? cell := by
  cases hs : r.slot? id with
  | some _ => rw [fetch_of_slot? hs]
  | none =>
    rw [fetch_of_slot?_none hs]
    exact content?_append_none _

@[simp] theorem config_fetch : (r.fetch id).2.config = r.config := by
  cases hs : r.slot? id with
  | some _ => rw [fetch_of_slot? hs]
  | none => rw [fetch_of_slot?_none hs]

/-- A slot that is thrown away was empty and still the tool's own; nothing else is touched. -/
theorem discard_of_stale (hs : r.slot? id = some cell) (hc : r.content? cell = none) :
    r.discard id cell = r.dropSlot id :=
  if_pos ⟨hs, hc⟩

theorem discard_of_live (h : ¬ (r.slot? id = some cell ∧ r.content? cell = none)) :
    r.discard id cell = r :=
  if_neg h

theorem discard_cases (r : Registry) (id : ToolId) (cell : CellId) :
    r.discard id cell = r ∨
      r.discard id cell = r.dropSlot id ∧ r.slot? id = some cell ∧ r.content? cell = none := by
  by_cases h : r.slot? id = some cell ∧ r.content? cell = none
  · exact .inr ⟨discard_of_stale h.1 h.2, h⟩
  · exact .inl (discard_of_live h)

@[simp] theorem cells_discard (r : Registry) (id : ToolId) (cell : CellId) :
    (r.discard id cell).cells = r.cells := by
  rcases r.discard_cases id cell with h | ⟨h, -⟩
  · rw [h]
  · rw [h]
    rfl

@[simp] theorem content?_discard : (r.discard id cell).content? c = r.content? c := by
  simp [content?]

theorem slot?_of_dropSlot (h : (r.dropSlot id).slot? other = some cell) :
    r.slot? other = some cell := by
  by_cases hid : other = id
  · subst hid
    rw [slot?_dropSlot_self] at h
    cases h
  · rwa [slot?_dropSlot_of_ne hid] at h

theorem slot?_of_discard (h : (r.discard id cell).slot? other = some c) :
    r.slot? other = some c := by
  rcases r.discard_cases id cell with hd | ⟨hd, -⟩
  · rwa [hd] at h
  · rw [hd] at h
    exact slot?_of_dropSlot h

/-- A slot whose cell holds something survives whatever is thrown away. -/
theorem slot?_discard_of_content? {tool : ReadyTool} (hs : r.slot? other = some c)
    (hc : r.content? c = some tool) : (r.discard id cell).slot? other = some c := by
  rcases r.discard_cases id cell with hd | ⟨hd, hslot, hempty⟩
  · rwa [hd]
  · rw [hd]
    by_cases hid : other = id
    · subst hid
      rw [hs, Option.some.injEq] at hslot
      rw [hslot, hempty] at hc
      cases hc
    · rwa [slot?_dropSlot_of_ne hid]

/-- A tool without a slot is given its first one. -/
theorem nodup_slots_append (h : (r.slots.map Prod.fst).Nodup) (hs : r.slot? id = none)
    (cell : CellId) : ((r.slots ++ [(id, cell)]).map Prod.fst).Nodup := by
  rw [List.map_append, List.map_singleton, List.nodup_append_comm]
  refine List.nodup_cons.mpr ⟨?_, h⟩
  intro hmem
  obtain ⟨⟨_, other⟩, hother, rfl⟩ := List.mem_map.mp hmem
  rw [(slot?_eq_some_iff h).mpr hother] at hs
  cases hs

theorem nodup_slots_fetch (h : (r.slots.map Prod.fst).Nodup) (id : ToolId) :
    ((r.fetch id).2.slots.map Prod.fst).Nodup := by
  cases hs : r.slot? id with
  | some _ => rwa [fetch_of_slot? hs]
  | none =>
    rw [fetch_of_slot?_none hs]
    exact nodup_slots_append h hs _

theorem nodup_slots_dropSlot (h : (r.slots.map Prod.fst).Nodup) (id : ToolId) :
    ((r.dropSlot id).slots.map Prod.fst).Nodup :=
  h.sublist (List.filter_sublist.map _)

theorem dropSlot_of_slot?_none (h : r.slot? id = none) : r.dropSlot id = r := by
  rw [dropSlot, Keyed.erase_of_lookup_eq_none h]

/-- Dropping the slot that was put last undoes putting it. -/
theorem dropSlot_append (h : r.slot? id = none) (cells : List (Option ReadyTool)) :
    dropSlot { r with slots := r.slots ++ [(id, cell)], cells := cells } id =
      { r with cells := cells } := by
  have hlast : Keyed.erase id [(id, cell)] = [] := by simp [Keyed.erase]
  have hsplit : Keyed.erase id (r.slots ++ [(id, cell)]) = r.slots := by
    rw [Keyed.erase, List.filter_append, ← Keyed.erase, ← Keyed.erase,
      Keyed.erase_of_lookup_eq_none h, hlast, List.append_nil]
  simp [dropSlot, hsplit]

end Registry
end ToolHost
