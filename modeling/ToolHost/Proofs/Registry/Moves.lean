import ToolHost.Proofs.Registry.Cells

/-! What a question can do in one step, and what holds whatever the order of the steps: no cell
belongs to two tools, and what was given for a tool is what its cell still holds. -/
namespace ToolHost.Registry
variable {m : Machine} {r r' : Registry} {q q' : Question} {id : ToolId} {cell : CellId}

/-- The cell that a question goes by, as soon as it has one. -/
def Question.cell? (q : Question) : Option CellId :=
  match q.stage with
  | .asked => none
  | .holding cell | .failing cell _ => some cell
  | .answered answer => answer.toOption.map Shared.cell

/-- One step of a question on a registry. -/
inductive Move (m : Machine) (r : Registry) : Question → Question → Registry → Prop where
  | fetches {id : ToolId} : Move m r ⟨id, .asked⟩ ⟨id, .holding (r.fetch id).1⟩ (r.fetch id).2
  /-- Somebody has filled the cell already. -/
  | finds {id : ToolId} {cell : CellId} {tool : ReadyTool} (hc : r.content? cell = some tool) :
    Move m r ⟨id, .holding cell⟩ ⟨id, .answered (.ok ⟨cell, tool⟩)⟩ r
  | fills {id : ToolId} {cell : CellId} {tool : ReadyTool} (hc : r.content? cell = none)
    (hr : r.config.resolve m id = .ok tool) :
    Move m r ⟨id, .holding cell⟩ ⟨id, .answered (.ok ⟨cell, tool⟩)⟩ (r.fill cell tool)
  | fails {id : ToolId} {cell : CellId} {problem : Problem} (hc : r.content? cell = none)
    (hr : r.config.resolve m id = .error problem) :
    Move m r ⟨id, .holding cell⟩ ⟨id, .failing cell problem⟩ r
  | discards {id : ToolId} {cell : CellId} {problem : Problem} :
    Move m r ⟨id, .failing cell problem⟩ ⟨id, .answered (.error problem)⟩ (r.discard id cell)
  | rests {id : ToolId} {answer : Except Problem Shared} :
    Move m r ⟨id, .answered answer⟩ ⟨id, .answered answer⟩ r

theorem move_step (m : Machine) (r : Registry) (q : Question) :
    Move m r q (r.step m q).1 (r.step m q).2 := by
  obtain ⟨id, stage⟩ := q
  cases stage with
  | asked => exact .fetches
  | holding cell =>
    cases hc : r.content? cell with
    | some tool =>
      simp only [step, hc]
      exact .finds hc
    | none =>
      cases hr : r.config.resolve m id with
      | ok tool =>
        simp only [step, hc, hr]
        exact .fills hc hr
      | error problem =>
        simp only [step, hc, hr]
        exact .fails hc hr
  | failing cell problem => exact .discards
  | answered answer => exact .rests

namespace Move

theorem id_eq (h : Move m r q q' r') : q'.id = q.id := by
  cases h <;> rfl

theorem length_le (h : Move m r q q' r') : r.cells.length ≤ r'.cells.length := by
  cases h with
  | fetches => exact length_fetch_le r _
  | finds | fails | rests => exact Nat.le_refl _
  | fills => simp [fill]
  | discards => simp

/-- A cell is filled once and for all. -/
theorem content?_of_content? {tool : ReadyTool} (h : Move m r q q' r')
    (hc : r.content? cell = some tool) : r'.content? cell = some tool := by
  cases h with
  | fetches => rwa [content?_fetch]
  | finds | fails | rests => exact hc
  | @fills _ other _ hempty _ =>
    by_cases hcell : cell = other
    · rw [hcell, hempty] at hc
      cases hc
    · rwa [content?_fill_of_ne hcell]
  | discards => rwa [content?_discard]

/-- Only who has filled a cell is responsible for what it holds, and is given that. -/
theorem content?_cases {tool : ReadyTool} (h : Move m r q q' r')
    (hc : r'.content? cell = some tool) :
    r.content? cell = some tool ∨ q' = ⟨q.id, .answered (.ok ⟨cell, tool⟩)⟩ := by
  cases h with
  | fetches =>
    rw [content?_fetch] at hc
    exact .inl hc
  | finds | fails | rests => exact .inl hc
  | @fills id other found _ _ =>
    by_cases hcell : cell = other
    · subst hcell
      have hlt := lt_length_of_content? hc
      rw [fill, List.length_set] at hlt
      rw [content?_fill_self hlt, Option.some.injEq] at hc
      rw [hc]
      exact .inr rfl
    · rw [content?_fill_of_ne hcell] at hc
      exact .inl hc
  | discards =>
    rw [content?_discard] at hc
    exact .inl hc

/-- A slot that was not there is the questioned tool's own, with the next cell. -/
theorem slot?_cases (h : Move m r q q' r') (hs : r'.slot? id = some cell) :
    r.slot? id = some cell ∨
      id = q.id ∧ cell = r.cells.length ∧ r.cells.length < r'.cells.length := by
  cases h with
  | @fetches asked =>
    by_cases hid : id = asked
    · subst hid
      rw [slot?_fetch, Option.some.injEq] at hs
      subst hs
      exact (r.fetch_cell id).imp_right fun hnew => ⟨rfl, hnew⟩
    · rw [slot?_fetch_of_ne hid] at hs
      exact .inl hs
  | finds | fails | rests | fills => exact .inl hs
  | discards => exact .inl (slot?_of_discard hs)

theorem cell?_cases (h : Move m r q q' r') (hq : q'.cell? = some cell) :
    q.cell? = some cell ∨ r.slot? q.id = some cell ∨
      cell = r.cells.length ∧ r.cells.length < r'.cells.length := by
  cases h with
  | @fetches id =>
    rw [Question.cell?, Option.some.injEq] at hq
    subst hq
    exact .inr (r.fetch_cell id)
  | finds | fills | rests | fails => exact .inl hq
  | discards => cases hq

/-- What a question is given is what the cell holds that it goes by. -/
theorem content?_of_given {shared : Shared} (h : Move m r q q' r')
    (hgiven : q' = ⟨id, .answered (.ok shared)⟩) :
    q = q' ∨ q.cell? = some shared.cell ∧
      (shared.cell < r.cells.length → r'.content? shared.cell = some shared.tool) := by
  cases h with
  | fetches | fails | discards => cases hgiven
  | finds hc =>
    cases hgiven
    exact .inr ⟨rfl, fun _ => hc⟩
  | fills =>
    cases hgiven
    exact .inr ⟨rfl, fun hlt => content?_fill_self hlt _⟩
  | rests => exact .inl rfl

/-- A filled slot stays. -/
theorem slot?_of_filled {tool : ReadyTool} (h : Move m r q q' r') (hs : r.slot? id = some cell)
    (hc : r.content? cell = some tool) : r'.slot? id = some cell := by
  cases h with
  | fetches => exact slot?_fetch_of_slot? hs
  | finds | fails | rests | fills => exact hs
  | discards => exact slot?_discard_of_content? hs hc

end Move

namespace Scene
variable {s : Scene}

/-- What a question has been given for a tool. -/
def Given (s : Scene) (id : ToolId) (shared : Shared) : Prop :=
  ⟨id, .answered (.ok shared)⟩ ∈ s.questions

/-- A cell belongs to a tool if it is in the tool's slot, or if a question for the tool goes by
it. -/
def Belongs (s : Scene) (cell : CellId) (id : ToolId) : Prop :=
  s.registry.slot? id = some cell ∨ ∃ q ∈ s.questions, q.id = id ∧ q.cell? = some cell

theorem Given.belongs {shared : Shared} (h : s.Given id shared) : s.Belongs shared.cell id :=
  .inr ⟨_, h, rfl, rfl⟩

/-- The scene after a question has taken a step. -/
def advanced (s : Scene) (index : Nat) (q' : Question) (r' : Registry) : Scene :=
  { s with registry := r', questions := s.questions.set index q' }

/-- What is kept whichever move a question makes is kept when a question takes its turn. -/
theorem advance_keeps {p : Scene → Prop} {index : Nat} (h : p s)
    (hmove : ∀ {q q' : Question} {r' : Registry}, s.questions[index]? = some q →
      Move s.machine s.registry q q' r' → p (s.advanced index q' r')) :
    p (s.happen (.advance index)) := by
  cases hq : s.questions[index]? with
  | none =>
    have hsame : s.happen (.advance index) = s := by simp only [happen, hq]
    rwa [hsame]
  | some q =>
    have hnext : s.happen (.advance index) = s.advanced index (s.registry.step s.machine q).1
        (s.registry.step s.machine q).2 := by
      simp only [happen, hq]
      rfl
    rw [hnext]
    exact hmove hq (move_step s.machine s.registry q)

/-- What every event keeps is kept by a whole run. -/
theorem run_keeps {p : Scene → Prop} (hevent : ∀ {s : Scene} (e : Event), p s → p (s.happen e))
    (h : p s) (events : List Event) : p (s.run events) := by
  induction events generalizing s with
  | nil => exact h
  | cons e rest ih => exact ih (hevent e h)

theorem mem_advanced {index : Nat} {other : Question}
    (h : other ∈ (s.advanced index q' r').questions) : other ∈ s.questions ∨ other = q' :=
  List.mem_or_eq_of_mem_set h

theorem mem_advanced_self {index : Nat} (hq : s.questions[index]? = some q) :
    q' ∈ (s.advanced index q' r').questions := by
  obtain ⟨hlt, -⟩ := List.getElem?_eq_some_iff.mp hq
  exact List.mem_set hlt q'

/-- The other questions stay as they are. -/
theorem mem_advanced_of_ne {index : Nat} {other : Question} (hq : s.questions[index]? = some q)
    (h : other ∈ s.questions) (hne : other ≠ q) : other ∈ (s.advanced index q' r').questions := by
  obtain ⟨place, hplace⟩ := List.mem_iff_getElem?.mp h
  have hindex : index ≠ place := by
    rintro rfl
    exact hne (Option.some.inj (hplace.symm.trans hq))
  have hkept : (s.questions.set index q')[place]? = some other := by
    rw [List.getElem?_set_ne hindex, hplace]
  exact List.mem_of_getElem? hkept

/-- What holds whatever happens, in whatever order. -/
structure Sound (s : Scene) : Prop where
  made : ∀ {cell : CellId} {id : ToolId}, s.Belongs cell id → cell < s.registry.cells.length
  /-- A cell belongs to one tool only. -/
  own : ∀ {cell : CellId} {id other : ToolId}, s.Belongs cell id → s.Belongs cell other → id = other
  given : ∀ {id : ToolId} {shared : Shared}, s.Given id shared →
    s.registry.content? shared.cell = some shared.tool

/-- A step gives a tool a cell that was its own before, or the next one. -/
theorem belongs_advanced {index : Nat} {owner : ToolId} (hq : s.questions[index]? = some q)
    (hm : Move s.machine s.registry q q' r') (h : (s.advanced index q' r').Belongs cell owner) :
    s.Belongs cell owner ∨ owner = q.id ∧ cell = s.registry.cells.length ∧
      s.registry.cells.length < r'.cells.length := by
  rcases h with hslot | ⟨other, hmem, rfl, hcell⟩
  · exact (hm.slot?_cases hslot).imp_left .inl
  · rcases mem_advanced hmem with hold | rfl
    · exact .inl (.inr ⟨other, hold, rfl, hcell⟩)
    · rw [hm.id_eq]
      rcases hm.cell?_cases hcell with hkept | hslot | hnew
      · exact .inl (.inr ⟨q, List.mem_of_getElem? hq, rfl, hkept⟩)
      · exact .inl (.inl hslot)
      · exact .inr ⟨rfl, hnew⟩

theorem Sound.advanced {index : Nat} (h : s.Sound) (hq : s.questions[index]? = some q)
    (hm : Move s.machine s.registry q q' r') : (s.advanced index q' r').Sound where
  made := by
    intro cell id hb
    rcases belongs_advanced hq hm hb with hold | ⟨-, rfl, hlt⟩
    · exact Nat.lt_of_lt_of_le (h.made hold) hm.length_le
    · exact hlt
  own := by
    intro cell id other hid hother
    rcases belongs_advanced hq hm hid with hold | ⟨rfl, rfl, -⟩
    · rcases belongs_advanced hq hm hother with hold' | ⟨-, rfl, -⟩
      · exact h.own hold hold'
      · exact absurd (h.made hold) (Nat.lt_irrefl _)
    · rcases belongs_advanced hq hm hother with hold' | ⟨rfl, -, -⟩
      · exact absurd (h.made hold') (Nat.lt_irrefl _)
      · rfl
  given := by
    intro id shared hg
    rcases mem_advanced hg with hold | hnew
    · exact hm.content?_of_content? (h.given hold)
    · have hmem : q ∈ s.questions := List.mem_of_getElem? hq
      rcases hm.content?_of_given hnew.symm with rfl | ⟨hcell, hfilled⟩
      · exact hm.content?_of_content? (h.given (hnew ▸ hmem))
      · exact hfilled (h.made (.inr ⟨q, hmem, rfl, hcell⟩))

theorem Sound.happen (h : s.Sound) (e : Event) : (s.happen e).Sound := by
  cases e with
  | advance index => exact advance_keeps h h.advanced
  | unload id =>
    have hb {cell : CellId} {other : ToolId} (hbelongs : (s.happen (.unload id)).Belongs cell other) :
        s.Belongs cell other := hbelongs.imp_left slot?_of_dropSlot
    exact ⟨fun hc => h.made (hb hc), fun hc hc' => h.own (hb hc) (hb hc'), h.given⟩
  | change files => exact ⟨h.made, h.own, h.given⟩

theorem Sound.run (h : s.Sound) (events : List Event) : (s.run events).Sound :=
  run_keeps (fun e h => h.happen e) h events

/-- Questions for tools, put to a new registry at any times. -/
def opening (m : Machine) (number : Nat) (config : HostConfig) (ids : List ToolId) : Scene :=
  ⟨m, .new number config, ids.map (⟨·, .asked⟩)⟩

theorem eq_asked_of_mem_opening {number : Nat} {config : HostConfig} {ids : List ToolId}
    (h : q ∈ (opening m number config ids).questions) : q = ⟨q.id, .asked⟩ := by
  obtain ⟨id, -, rfl⟩ := List.mem_map.mp h
  rfl

theorem not_belongs_opening {number : Nat} {config : HostConfig} {ids : List ToolId} :
    ¬ (opening m number config ids).Belongs cell id := by
  rintro (hslot | ⟨q, hq, -, hcell⟩)
  · cases hslot
  · rw [eq_asked_of_mem_opening hq] at hcell
    cases hcell

theorem sound_opening (m : Machine) (number : Nat) (config : HostConfig) (ids : List ToolId) :
    (opening m number config ids).Sound where
  made := fun h => absurd h not_belongs_opening
  own := fun h => absurd h not_belongs_opening
  given := fun h => absurd h.belongs not_belongs_opening

end Scene
end ToolHost.Registry
