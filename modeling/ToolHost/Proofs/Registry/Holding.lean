import ToolHost.Proofs.Registry.Moves

/-! Who is to answer for an empty slot. A slot is empty only while some question has hold of its
cell, which it will fill or throw away; tools that are given up in between change nothing in this.
So no slot is empty any more as soon as nobody asks. -/
namespace ToolHost.Registry
variable {m : Machine} {r r' : Registry} {q q' : Question} {id : ToolId} {cell : CellId}

/-- The cell that a question has got hold of and is still to fill or to throw away. -/
def Question.held? (q : Question) : Option CellId :=
  match q.stage with
  | .holding cell | .failing cell _ => some cell
  | .asked | .answered _ => none

theorem Question.cell?_of_held? (h : q.held? = some cell) : q.cell? = some cell := by
  obtain ⟨id, stage⟩ := q
  cases stage with
  | asked | answered => cases h
  | holding | failing => exact h

/-- The tools in use are as many as the slots if and only if no slot is empty. -/
theorem length_initialized_eq_iff (r : Registry) : r.initialized.length = r.slots.length ↔
    ∀ slot ∈ r.slots, (r.content? slot.2).isSome := by
  rw [initialized, List.length_mergeSort, List.length_map, List.length_filter_eq_length_iff]

/-- No move gives a tool a second slot. -/
theorem Move.nodup_slots (h : Move m r q q' r') (hn : (r.slots.map Prod.fst).Nodup) :
    (r'.slots.map Prod.fst).Nodup := by
  cases h with
  | fetches => exact nodup_slots_fetch hn _
  | finds | fails | rests | fills => exact hn
  | @discards asked other _ =>
    rcases r.discard_cases asked other with hd | ⟨hd, -⟩
    · rwa [hd]
    · rw [hd]
      exact nodup_slots_dropSlot hn asked

/-- An empty slot that a move leaves is held by the question that moved, or it was there before and
is none that this question held. -/
theorem Move.empty_slot_cases (h : Move m r q q' r')
    (hmade : ∀ cell, q.held? = some cell → cell < r.cells.length)
    (hs : r'.slot? id = some cell) (hc : r'.content? cell = none) :
    (q'.id = id ∧ q'.held? = some cell) ∨
      r.slot? id = some cell ∧ r.content? cell = none ∧ ¬ (q.id = id ∧ q.held? = some cell) := by
  cases h with
  | @fetches asked =>
    by_cases hid : id = asked
    · subst hid
      rw [slot?_fetch] at hs
      exact .inl ⟨rfl, hs⟩
    · rw [slot?_fetch_of_ne hid] at hs
      rw [content?_fetch] at hc
      exact .inr ⟨hs, hc, fun hold => hid hold.1.symm⟩
  | @finds _ other tool hfilled =>
    refine .inr ⟨hs, hc, ?_⟩
    rintro ⟨-, hheld⟩
    cases hheld
    rw [hfilled] at hc
    cases hc
  | @fills _ other tool _ _ =>
    -- the cell has been made, so it is not empty once it is filled
    have hne : cell ≠ other := by
      rintro rfl
      rw [content?_fill_self (hmade cell rfl)] at hc
      cases hc
    rw [content?_fill_of_ne hne] at hc
    exact .inr ⟨hs, hc, fun hold => hne (Option.some.inj hold.2).symm⟩
  | @fails asked other problem _ _ =>
    by_cases hold : asked = id ∧ some other = some cell
    · exact .inl hold
    · exact .inr ⟨hs, hc, hold⟩
  | @discards asked other problem =>
    have hslot := slot?_of_discard hs
    rw [content?_discard] at hc
    refine .inr ⟨hslot, hc, ?_⟩
    rintro ⟨rfl, hheld⟩
    cases hheld
    rw [discard_of_stale hslot hc, slot?_dropSlot_self] at hs
    cases hs
  | rests => exact .inr ⟨hs, hc, fun hold => by cases hold.2⟩

namespace Scene
variable {s : Scene}

/-- No tool has two slots, and each empty slot is held by a question for its tool. -/
structure Held (s : Scene) : Prop where
  once : (s.registry.slots.map Prod.fst).Nodup
  held : ∀ {id : ToolId} {cell : CellId}, s.registry.slot? id = some cell →
    s.registry.content? cell = none → ∃ q ∈ s.questions, q.id = id ∧ q.held? = some cell

/-- Nobody has hold of a cell: all questions are answered or have not got so far. -/
def Quiet (s : Scene) : Prop := ∀ q ∈ s.questions, q.held? = none

theorem Held.advanced {index : Nat} (h : s.Held) (hsound : s.Sound)
    (hq : s.questions[index]? = some q) (hm : Move s.machine s.registry q q' r') :
    (s.advanced index q' r').Held where
  once := hm.nodup_slots h.once
  held := by
    intro id cell hs hc
    have hmade (c : CellId) (hheld : q.held? = some c) : c < s.registry.cells.length :=
      hsound.made (.inr ⟨q, List.mem_of_getElem? hq, rfl, Question.cell?_of_held? hheld⟩)
    rcases hm.empty_slot_cases hmade hs hc with hnew | ⟨hslot, hempty, hnot⟩
    · exact ⟨q', mem_advanced_self hq, hnew⟩
    · obtain ⟨other, hother, hheld⟩ := h.held hslot hempty
      have hne : other ≠ q := by
        rintro rfl
        exact hnot hheld
      exact ⟨other, mem_advanced_of_ne hq hother hne, hheld⟩

theorem Held.happen (h : s.Held) (hsound : s.Sound) (e : Event) : (s.happen e).Held := by
  cases e with
  | advance index => exact advance_keeps h (h.advanced hsound)
  | unload id =>
    exact ⟨nodup_slots_dropSlot h.once id, fun hs hc => h.held (slot?_of_dropSlot hs) hc⟩
  | change files => exact ⟨h.once, h.held⟩

theorem Held.run (h : s.Held) (hsound : s.Sound) (events : List Event) : (s.run events).Held :=
  have hboth : (s.run events).Held ∧ (s.run events).Sound :=
    run_keeps (p := fun s => s.Held ∧ s.Sound) (fun e h => ⟨h.1.happen h.2 e, h.2.happen e⟩)
      ⟨h, hsound⟩ events
  hboth.1

theorem held_opening (m : Machine) (number : Nat) (config : HostConfig) (ids : List ToolId) :
    (opening m number config ids).Held where
  once := List.nodup_nil
  held := fun hs => by cases hs

/-- Whatever questions are put to a new registry, in whatever order they take their steps while
tools are given up and files change, each empty slot is held by a question for its tool that has
still to fill or to throw away the slot's cell. So whenever there is no such question, all slots
are filled, and there are as many of them as tools in use. -/
theorem empty_slots_are_held (m : Machine) (number : Nat) (config : HostConfig)
    (ids : List ToolId) (events : List Event) :
    let s := (opening m number config ids).run events
    (∀ slot ∈ s.registry.slots, s.registry.content? slot.2 = none →
      ∃ q ∈ s.questions, q.id = slot.1 ∧ q.held? = some slot.2) ∧
    (s.Quiet → (∀ slot ∈ s.registry.slots, (s.registry.content? slot.2).isSome) ∧
      s.registry.slots.length = s.registry.initialized.length) := by
  intro s
  have hheld : s.Held :=
    (held_opening m number config ids).run (sound_opening m number config ids) events
  have hslots : ∀ slot ∈ s.registry.slots, s.registry.content? slot.2 = none →
      ∃ q ∈ s.questions, q.id = slot.1 ∧ q.held? = some slot.2 :=
    fun slot hmem hempty => hheld.held ((slot?_eq_some_iff hheld.once).mpr hmem) hempty
  refine ⟨hslots, fun hquiet => ?_⟩
  have hfilled : ∀ slot ∈ s.registry.slots, (s.registry.content? slot.2).isSome := by
    intro slot hmem
    by_contra hempty
    obtain ⟨q, hq, -, hcell⟩ := hslots slot hmem (Option.not_isSome_iff_eq_none.mp hempty)
    rw [hquiet q hq] at hcell
    cases hcell
  exact ⟨hfilled, ((length_initialized_eq_iff s.registry).mpr hfilled).symm⟩

end Scene
end ToolHost.Registry
