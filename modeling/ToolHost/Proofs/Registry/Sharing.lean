import Mathlib.Data.List.Induction
import ToolHost.Proofs.Registry.Moves

/-! Whether all who ask for a tool at the same time share what they are given. A question that fails
throws its cell away, though others may hold it and fill it later. What they are given then is not
what the registry knows; and this is the only way to be given something of one's own. -/
namespace ToolHost.Registry.Scene
variable {s : Scene} {q q' : Question} {r' : Registry} {index : Nat}

/-- All who were given a tool were given the same, and the registry knows it. -/
structure Shares (s : Scene) : Prop where
  one : ∀ {id : ToolId} {a b : Shared}, s.Given id a → s.Given id b → a = b
  known : ∀ {id : ToolId} {a : Shared}, s.Given id a → s.registry.isInitialized id = true

/-- The question at an index is about to fill a cell that its tool does not have any more. -/
def FillsLost (s : Scene) (index : Nat) : Prop :=
  ∃ (id : ToolId) (cell : CellId) (tool : ReadyTool),
    s.questions[index]? = some ⟨id, .holding cell⟩ ∧ s.registry.content? cell = none ∧
      s.registry.config.resolve s.machine id = .ok tool ∧ s.registry.slot? id ≠ some cell

/-- Whatever was given is in the slot of its tool. -/
def Placed (s : Scene) : Prop :=
  ∀ id shared, s.Given id shared → s.registry.slot? id = some shared.cell

/-- Whatever a cell holds was given to somebody. -/
def Accounted (s : Scene) : Prop :=
  ∀ cell tool, s.registry.content? cell = some tool → ∃ id, s.Given id ⟨cell, tool⟩

/-- An answer stays as it is. -/
theorem Given.advanced {id : ToolId} {shared : Shared} (h : s.Given id shared)
    (hq : s.questions[index]? = some q) (hm : Move s.machine s.registry q q' r') :
    (s.advanced index q' r').Given id shared := by
  by_cases hsame : ⟨id, .answered (.ok shared)⟩ = q
  · subst hsame
    cases hm
    exact mem_advanced_self hq
  · exact mem_advanced_of_ne hq h hsame

theorem Accounted.advanced (h : s.Accounted) (hq : s.questions[index]? = some q)
    (hm : Move s.machine s.registry q q' r') : (s.advanced index q' r').Accounted := by
  intro cell tool hc
  rcases hm.content?_cases hc with hold | rfl
  · obtain ⟨id, hgiven⟩ := h cell tool hold
    exact ⟨id, hgiven.advanced hq hm⟩
  · exact ⟨q.id, mem_advanced_self hq⟩

theorem Accounted.happen (h : s.Accounted) (e : Event) : (s.happen e).Accounted := by
  cases e with
  | advance index => exact advance_keeps h h.advanced
  | unload | change => exact h

theorem Accounted.run (h : s.Accounted) (events : List Event) : (s.run events).Accounted :=
  run_keeps (fun e h => h.happen e) h events

theorem accounted_opening (m : Machine) (number : Nat) (config : HostConfig) (ids : List ToolId) :
    (opening m number config ids).Accounted := by
  intro cell tool hc
  cases hc

/-- Nothing leaves its slot, and something new is put elsewhere only by filling a lost cell. -/
theorem Placed.advanced (h : s.Placed) (hsound : s.Sound) (hall : s.Accounted)
    (hq : s.questions[index]? = some q) (hm : Move s.machine s.registry q q' r')
    (hlost : ¬ s.FillsLost index) : (s.advanced index q' r').Placed := by
  intro id shared hgiven
  rcases mem_advanced hgiven with hold | hnew
  · exact hm.slot?_of_filled (h id shared hold) (hsound.given hold)
  · cases hm with
    | fetches | fails | discards => cases hnew
    | finds hc =>
      cases hnew
      obtain ⟨other, hother⟩ := hall _ _ hc
      have hid : other = id :=
        hsound.own hother.belongs (.inr ⟨_, List.mem_of_getElem? hq, rfl, rfl⟩)
      subst hid
      exact h _ _ hother
    | fills hc hr =>
      cases hnew
      by_contra hslot
      exact hlost ⟨_, _, _, hq, hc, hr, hslot⟩
    | rests =>
      cases hnew
      exact h _ _ (List.mem_of_getElem? hq)

/-- Who fills a lost cell is given what is in no slot. -/
theorem not_placed_of_fillsLost (h : s.FillsLost index) :
    ¬ (s.happen (.advance index)).Placed := by
  obtain ⟨id, cell, tool, hq, hc, hr, hslot⟩ := h
  have hnext : s.happen (.advance index) =
      s.advanced index ⟨id, .answered (.ok ⟨cell, tool⟩)⟩ (s.registry.fill cell tool) := by
    simp only [happen, hq, step, hc, hr]
    rfl
  rw [hnext]
  intro hplaced
  exact hslot (hplaced id ⟨cell, tool⟩ (mem_advanced_self hq))

/-- To share is to have everything in its slot. -/
theorem shares_iff_placed (hsound : s.Sound) (hall : s.Accounted) : s.Shares ↔ s.Placed := by
  constructor
  · intro h id shared hgiven
    have hlive := h.known hgiven
    rw [isInitialized, Option.isSome_iff_exists] at hlive
    obtain ⟨tool, hlive⟩ := hlive
    obtain ⟨cell, hslot, hc⟩ := Option.bind_eq_some_iff.mp hlive
    obtain ⟨other, hother⟩ := hall cell tool hc
    have hid : other = id := hsound.own hother.belongs (.inl hslot)
    subst hid
    rw [h.one hgiven hother]
    exact hslot
  · intro h
    constructor
    · intro id a b ha hb
      have hcell : a.cell = b.cell := by
        rw [← Option.some.injEq, ← h id a ha, h id b hb]
      have htool : a.tool = b.tool := by
        rw [← Option.some.injEq, ← hsound.given ha, hcell, hsound.given hb]
      obtain ⟨cell, tool⟩ := a
      exact congrArg₂ Shared.mk hcell htool
    · intro id a ha
      rw [isInitialized, h id a ha, Option.bind_some, hsound.given ha]
      rfl

theorem Placed.happen {e : Event} (h : s.Placed) (hsound : s.Sound) (hall : s.Accounted)
    (hunload : ∀ id, e ≠ .unload id) (hlost : ∀ index, e = .advance index → ¬ s.FillsLost index) :
    (s.happen e).Placed := by
  cases e with
  | advance index =>
    exact advance_keeps h fun hq hm => h.advanced hsound hall hq hm (hlost index rfl)
  | unload id => exact absurd rfl (hunload id)
  | change files => exact h

theorem run_concat (s : Scene) (before : List Event) (e : Event) :
    s.run (before ++ [e]) = (s.run before).happen e := by
  simp [run]

/-- A machine on which there is nothing but the given files, and every program ends at once. -/
def machineWith (files : FileTree) : Machine :=
  { files := files, cwd := [], env := [], programDir := "", input := [], output := [], errors := []
    started := [], background := .quiet, behaviour := fun _ p => .ends p.world (.exited 0)
    refusals := ⟨none, none⟩ }

/-- A tool whose file lies in the root. -/
def late : ToolId := .other "late"

def lateConfig : HostConfig := ⟨some "/", none, false, ToolTable.empty.insert "late" ⟨"", "late"⟩⟩

/-- Two questions get hold of a cell, and one of them finds no file and throws the cell away. Then
there is a file. The other one fills the cell, and a third one gets a new cell. -/
def lateEvents : List Event :=
  [.advance 0, .advance 1, .advance 0, .advance 0,
    .change (FileTree.empty.put ["late"] (.file [] ⟨0o755, 0⟩)), .advance 1, .advance 2, .advance 2]

theorem not_unload_mem_lateEvents (id : ToolId) : .unload id ∉ lateEvents := by
  simp [lateEvents]

/-- Questions to a new registry, put at any times and answered step by step in any order while the
files change, share what they are given at every moment if and only if none of them ever fills a
cell that its tool has lost. -/
theorem shares_iff_no_lost_fill (m : Machine) (number : Nat) (config : HostConfig)
    (ids : List ToolId) (events : List Event) (hunload : ∀ id, .unload id ∉ events) :
    (∀ before, before <+: events → ((opening m number config ids).run before).Shares) ↔
      ∀ before index, before ++ [.advance index] <+: events →
        ¬ ((opening m number config ids).run before).FillsLost index := by
  have hsound (before : List Event) := (sound_opening m number config ids).run before
  have hall (before : List Event) := (accounted_opening m number config ids).run before
  constructor
  · intro h before index hpre hlost
    have hplaced := (shares_iff_placed (hsound _) (hall _)).mp (h _ hpre)
    rw [run_concat] at hplaced
    exact not_placed_of_fillsLost hlost hplaced
  · intro h before hpre
    refine (shares_iff_placed (hsound _) (hall _)).mpr ?_
    induction before using List.reverseRecOn with
    | nil => exact fun id shared hgiven => absurd hgiven.belongs not_belongs_opening
    | append_singleton before e ih =>
      have hplaced := ih ((List.prefix_append before [e]).trans hpre)
      rw [run_concat]
      refine hplaced.happen (hsound _) (hall _) ?_ ?_
      · rintro id rfl
        exact hunload id (hpre.subset (List.mem_append_right _ List.mem_cons_self))
      · rintro index rfl
        exact h before index hpre

/-- Nothing is unloaded in these events, so it depends on lost cells alone whether all share. -/
theorem late_shares_iff_no_lost_fill : (∀ id, .unload id ∉ lateEvents) ∧
    ((∀ before, before <+: lateEvents →
        ((opening (machineWith .empty) 0 lateConfig [late, late, late]).run before).Shares) ↔
      ∀ before index, before ++ [.advance index] <+: lateEvents →
        ¬ ((opening (machineWith .empty) 0 lateConfig [late, late, late]).run before).FillsLost
          index) :=
  ⟨not_unload_mem_lateEvents, shares_iff_no_lost_fill _ _ _ _ _ not_unload_mem_lateEvents⟩

/-- Questions do not always share what they are given, even if nothing is unloaded: the second one
has its answer in a cell that the registry does not know, and the third one has another. -/
theorem not_always_shares :
    ¬ ∀ (m : Machine) (number : Nat) (config : HostConfig) (ids : List ToolId)
      (events : List Event), (∀ id, .unload id ∉ events) →
        ∀ before, before <+: events → ((opening m number config ids).run before).Shares := by
  intro h
  have hshares := h (machineWith .empty) 0 lateConfig [late, late, late] lateEvents
    not_unload_mem_lateEvents lateEvents List.prefix_rfl
  have hsecond : ((opening (machineWith .empty) 0 lateConfig [late, late, late]).run
      lateEvents).Given late ⟨0, ⟨late, "/", "/late"⟩⟩ :=
    List.mem_of_getElem? (i := 1) (by rfl)
  have hthird : ((opening (machineWith .empty) 0 lateConfig [late, late, late]).run
      lateEvents).Given late ⟨1, ⟨late, "/", "/late"⟩⟩ :=
    List.mem_of_getElem? (i := 2) (by rfl)
  exact absurd (hshares.one hsecond hthird) (by decide)

end ToolHost.Registry.Scene
