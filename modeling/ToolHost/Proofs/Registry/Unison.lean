import ToolHost.Proofs.Registry.Holding
import ToolHost.Proofs.Registry.Ledger
import ToolHost.Proofs.Registry.Sharing

/-! Asking for one tool many times at once while nothing else moves. What a question would be given
if it were the only one stays the same whatever steps the others take, and so does what it would
leave behind. So all are given the same, and the registry ends as one question would leave it. -/
namespace ToolHost.Registry
variable {m : Machine} {first last r r' : Registry} {q q' other : Question} {id : ToolId}
  {cell : CellId} {tool : ReadyTool} {shared : Shared} {problem : Problem}

theorem kept?_of_content? (hs : r.slot? id = some cell) (hc : r.content? cell = some tool) :
    r.kept? id = some ⟨cell, tool⟩ :=
  kept?_eq_some_iff.mpr ⟨hs, hc⟩

/-- Getting hold of a cell makes no difference to whoever asks next. -/
theorem context_fetch (r : Registry) (m : Machine) (id : ToolId) :
    (r.fetch id).2.context m id = r.context m id := by
  have hagain : (r.fetch id).2.fetch id = r.fetch id := fetch_of_slot? (slot?_fetch r id)
  simp only [context, hagain]

theorem context_of_empty_slot (hs : r.slot? id = some cell) (hc : r.content? cell = none)
    (hr : r.config.resolve m id = .ok tool) :
    r.context m id = (.ok ⟨cell, tool⟩, r.fill cell tool) := by
  simp only [context, fetch_of_slot? hs, hc, hr]

/-- What is given is in the cell that is got hold of. -/
theorem cell_of_context (h : r.context m id = (.ok shared, last)) :
    (r.fetch id).1 = shared.cell := by
  rcases r.context_cases m id with ⟨_, -, heq⟩ | ⟨_, heq⟩ | ⟨_, -, heq⟩
  · cases heq.symm.trans h
    rfl
  · cases heq.symm.trans h
    rfl
  · cases heq.symm.trans h

/-- Who asks once more is given the same. -/
theorem context_of_context (hmade : ∀ cell, r.slot? id = some cell → cell < r.cells.length)
    (h : r.context m id = (.ok shared, last)) : last.context m id = (.ok shared, last) := by
  have hkept := kept?_of_context_ok hmade (congrArg Prod.fst h)
  rw [h] at hkept
  exact context_of_kept? hkept m

/-- What a question for a tool comes to if it is the only one. -/
inductive Outcome (m : Machine) (r : Registry) (id : ToolId) : Except Problem Shared → Prop where
  | kept {shared : Shared} (h : r.kept? id = some shared) : Outcome m r id (.ok shared)
  /-- The tool is put into a cell that was not made before. -/
  | found {tool : ReadyTool} (h : r.kept? id = none) (hr : r.config.resolve m id = .ok tool) :
    Outcome m r id (.ok ⟨r.cells.length, tool⟩)
  | missed {problem : Problem} (h : r.kept? id = none)
    (hr : r.config.resolve m id = .error problem) : Outcome m r id (.error problem)

/-- A question on its way to be given `shared` by a registry that becomes `last`. -/
inductive Granted (last : Registry) (id : ToolId) (shared : Shared) (r : Registry) :
    Question → Prop where
  | asked : Granted last id shared r ⟨id, .asked⟩
  | holding (hs : r.slot? id = some shared.cell) :
    Granted last id shared r ⟨id, .holding shared.cell⟩
  | answered (hs : r.slot? id = some shared.cell) (hlast : r = last) :
    Granted last id shared r ⟨id, .answered (.ok shared)⟩

/-- Such a question gets hold of the cell, or it is given what is in it then. -/
theorem Move.of_granted (h : Move m r q q' r') (hq : Granted last id shared r q)
    (hcontext : r.context m id = (.ok shared, last)) :
    (q' = ⟨id, .holding shared.cell⟩ ∧ r' = (r.fetch id).2) ∨
      q' = ⟨id, .answered (.ok shared)⟩ ∧ r' = last ∧ r'.slot? id = some shared.cell := by
  cases hq with
  | asked =>
    cases h with
    | fetches =>
      rw [cell_of_context hcontext]
      exact .inl ⟨rfl, rfl⟩
  | holding hs =>
    obtain ⟨cell, tool⟩ := shared
    cases h with
    | finds hc =>
      rw [context_of_kept? (kept?_of_content? hs hc)] at hcontext
      cases hcontext
      exact .inr ⟨rfl, rfl, hs⟩
    | fills hc hr =>
      rw [context_of_empty_slot hs hc hr] at hcontext
      cases hcontext
      exact .inr ⟨rfl, rfl, hs⟩
    | fails hc hr =>
      simp only [context, fetch_of_slot? hs, hc, hr] at hcontext
      cases hcontext
  | answered hs hlast =>
    cases h with
    | rests => exact .inr ⟨rfl, hlast, hs⟩

/-- The others are not held up by a question that gets hold of a cell. -/
theorem Granted.fetch (h : Granted last id shared r other) :
    Granted last id shared (r.fetch id).2 other := by
  cases h with
  | asked => exact .asked
  | holding hs => exact .holding (slot?_fetch_of_slot? hs)
  | answered hs hlast =>
    rw [fetch_of_slot? hs]
    exact .answered hs hlast

/-- Nor by one that is given something. -/
theorem Granted.finish (h : Granted last id shared r other)
    (hs : last.slot? id = some shared.cell) : Granted last id shared last other := by
  cases h with
  | asked => exact .asked
  | holding => exact .holding hs
  | answered => exact .answered hs rfl

/-- A question on its way to be told the problem. A cell that it holds was empty from the first. -/
inductive Refused (first : Registry) (id : ToolId) (problem : Problem) : Question → Prop where
  | asked : Refused first id problem ⟨id, .asked⟩
  | holding {cell : CellId} (hc : first.content? cell = none) :
    Refused first id problem ⟨id, .holding cell⟩
  | failing {cell : CellId} : Refused first id problem ⟨id, .failing cell problem⟩
  | answered : Refused first id problem ⟨id, .answered (.error problem)⟩

/-- A registry that differs from the first one in no more than an empty slot of a tool. -/
structure Barren (first : Registry) (id : ToolId) (r : Registry) : Prop where
  config : r.config = first.config
  slots : (r.dropSlot id).slots = first.slots
  content : ∀ cell, r.content? cell = first.content? cell
  empty : ∀ cell, r.slot? id = some cell → first.content? cell = none

theorem barren_self (h : r.slot? id = none) : Barren r id r where
  config := rfl
  slots := by rw [dropSlot_of_slot?_none h]
  content := fun _ => rfl
  empty := by
    intro cell hs
    rw [h] at hs
    cases hs

theorem Barren.fetch (h : Barren first id r) : Barren first id (r.fetch id).2 where
  config := config_fetch.trans h.config
  slots := by
    cases hs : r.slot? id with
    | some cell =>
      rw [fetch_of_slot? hs]
      exact h.slots
    | none =>
      rw [fetch_of_slot?_none hs, dropSlot_append hs, ← h.slots, dropSlot_of_slot?_none hs]
  content := fun cell => content?_fetch.trans (h.content cell)
  empty := by
    intro cell hs
    rw [slot?_fetch, Option.some.injEq] at hs
    rcases r.fetch_cell id with hold | ⟨hnew, -⟩
    · exact h.empty cell (hs ▸ hold)
    · rw [← h.content, ← hs, hnew]
      exact content?_of_length_le (Nat.le_refl _)

theorem Barren.discard (h : Barren first id r) (cell : CellId) :
    Barren first id (r.discard id cell) := by
  rcases r.discard_cases id cell with hd | ⟨hd, -⟩
  · rwa [hd]
  · rw [hd]
    refine ⟨h.config, ?_, h.content, ?_⟩
    · rw [dropSlot_of_slot?_none (slot?_dropSlot_self r id), h.slots]
    · intro cell hs
      rw [slot?_dropSlot_self] at hs
      cases hs

/-- Such a question goes on until it is told the problem, and the registry stays barren. -/
theorem Move.of_refused (h : Move m r q q' r') (hq : Refused first id problem q)
    (hbarren : Barren first id r) (hr : first.config.resolve m id = .error problem) :
    Refused first id problem q' ∧ Barren first id r' := by
  cases hq with
  | asked =>
    cases h with
    | fetches => exact ⟨.holding (hbarren.fetch.empty _ (slot?_fetch r id)), hbarren.fetch⟩
  | holding hc =>
    rw [← hbarren.config] at hr
    rw [← hbarren.content] at hc
    cases h with
    | finds hfound =>
      rw [hc] at hfound
      cases hfound
    | fills _ hfound =>
      rw [hr] at hfound
      cases hfound
    | fails _ hproblem =>
      rw [hr] at hproblem
      cases hproblem
      exact ⟨.failing, hbarren⟩
  | failing =>
    cases h with
    | discards => exact ⟨.answered, hbarren.discard _⟩
  | answered =>
    cases h with
    | rests => exact ⟨.answered, hbarren⟩

/-- How many steps a question is from its answer at most. -/
def Question.left (q : Question) : Nat :=
  match q.stage with
  | .asked => 3
  | .holding _ => 2
  | .failing _ _ => 1
  | .answered _ => 0

theorem Move.left_le (h : Move m r q q' r') : q'.left ≤ q.left - 1 := by
  cases h with
  | fetches | fails | discards | rests | finds | fills => simp [Question.left]

namespace Scene
variable {s : Scene}

/-- Many questions for one tool, none of which has got anywhere yet. -/
def asking (m : Machine) (r : Registry) (id : ToolId) (n : Nat) : Scene :=
  ⟨m, r, List.replicate n ⟨id, .asked⟩⟩

theorem eq_asked_of_mem_asking {n : Nat} (h : q ∈ (asking m r id n).questions) :
    q = ⟨id, .asked⟩ :=
  (List.mem_replicate.mp h).2

/-- What is kept whichever move a question makes is kept while the questions take their turns. -/
theorem turns_keep {p : Scene → Prop}
    (hmove : ∀ {s : Scene} {index : Nat} {q q' : Question} {r' : Registry}, p s →
      s.questions[index]? = some q → Move s.machine s.registry q q' r' →
        p (s.advanced index q' r'))
    (h : p s) (turns : List Nat) : p (s.run (turns.map .advance)) := by
  induction turns generalizing s with
  | nil => exact h
  | cons index rest ih => exact ih (advance_keeps h (hmove h))

/-- Whoever takes up questions between calls goes on from a sound scene. -/
theorem Sound.asking (h : s.Sound) (m : Machine) (id : ToolId) (n : Nat) :
    (asking m s.registry id n).Sound := by
  have hb {cell : CellId} {owner : ToolId}
      (hbelongs : (Scene.asking m s.registry id n).Belongs cell owner) : s.Belongs cell owner := by
    rcases hbelongs with hslot | ⟨q, hq, -, hcell⟩
    · exact .inl hslot
    · rw [eq_asked_of_mem_asking hq] at hcell
      cases hcell
  refine ⟨fun hc => h.made (hb hc), fun hc hc' => h.own (hb hc) (hb hc'), fun hgiven => ?_⟩
  cases eq_asked_of_mem_asking hgiven

theorem Held.asking (h : s.Held) (hquiet : s.Quiet) (m : Machine) (id : ToolId) (n : Nat) :
    (asking m s.registry id n).Held where
  once := h.once
  held := by
    intro owner cell hs hc
    obtain ⟨q, hq, -, hheld⟩ := h.held hs hc
    rw [hquiet q hq] at hheld
    cases hheld

/-- Between calls a tool has a filled slot or none. -/
theorem Held.slot?_none (h : s.Held) (hquiet : s.Quiet) (hnone : s.registry.kept? id = none) :
    s.registry.slot? id = none := by
  cases hs : s.registry.slot? id with
  | none => rfl
  | some cell =>
    cases hc : s.registry.content? cell with
    | some tool =>
      rw [kept?_of_content? hs hc] at hnone
      cases hnone
    | none =>
      obtain ⟨q, hq, -, hheld⟩ := h.held hs hc
      rw [hquiet q hq] at hheld
      cases hheld

/-- All questions are for a tool that is going to be given to them. -/
structure Granting (m : Machine) (last : Registry) (id : ToolId) (shared : Shared) (s : Scene) :
    Prop where
  machine : s.machine = m
  context : s.registry.context m id = (.ok shared, last)
  granted : ∀ q ∈ s.questions, Granted last id shared s.registry q

theorem Granting.advanced {index : Nat} (h : s.Granting m last id shared)
    (hlast : last.context m id = (.ok shared, last)) (hq : s.questions[index]? = some q)
    (hm : Move s.machine s.registry q q' r') :
    (s.advanced index q' r').Granting m last id shared := by
  have hgranted := h.granted q (List.mem_of_getElem? hq)
  rw [h.machine] at hm
  rcases hm.of_granted hgranted h.context with ⟨rfl, rfl⟩ | ⟨rfl, rfl, hs⟩
  · refine ⟨h.machine, (context_fetch s.registry m id).trans h.context, fun other hmem => ?_⟩
    rcases mem_advanced hmem with hold | rfl
    · exact (h.granted other hold).fetch
    · refine .holding ?_
      rw [← cell_of_context h.context]
      exact slot?_fetch s.registry id
  · refine ⟨h.machine, hlast, fun other hmem => ?_⟩
    rcases mem_advanced hmem with hold | rfl
    · exact (h.granted other hold).finish hs
    · exact .answered hs rfl

/-- All questions are for a tool that is not going to be found. -/
structure Refusing (m : Machine) (first : Registry) (id : ToolId) (problem : Problem) (s : Scene) :
    Prop where
  machine : s.machine = m
  barren : Barren first id s.registry
  refused : ∀ q ∈ s.questions, Refused first id problem q

theorem Refusing.advanced {index : Nat} (h : s.Refusing m first id problem)
    (hr : first.config.resolve m id = .error problem) (hq : s.questions[index]? = some q)
    (hm : Move s.machine s.registry q q' r') :
    (s.advanced index q' r').Refusing m first id problem := by
  have hrefused := h.refused q (List.mem_of_getElem? hq)
  rw [h.machine] at hm
  obtain ⟨hnext, hbarren⟩ := hm.of_refused hrefused h.barren hr
  refine ⟨h.machine, hbarren, fun other hmem => ?_⟩
  rcases mem_advanced hmem with hold | rfl
  · exact h.refused other hold
  · exact hnext

theorem answer?_eq_some_iff {index : Nat} {answer : Except Problem Shared} :
    s.answer? index = some answer ↔
      ∃ id, s.questions[index]? = some ⟨id, .answered answer⟩ := by
  unfold answer?
  split
  · rename_i id given heq
    simp [heq]
  · rename_i hnot
    constructor
    · intro h
      cases h
    · rintro ⟨id, hq⟩
      exact absurd hq (hnot id answer)

theorem questions_happen_self {index : Nat} (hq : s.questions[index]? = some q) :
    (s.happen (.advance index)).questions[index]? = some (s.registry.step s.machine q).1 := by
  obtain ⟨hlt, -⟩ := List.getElem?_eq_some_iff.mp hq
  simp only [happen, hq]
  exact List.getElem?_set_self hlt

theorem questions_happen_of_ne {turn index : Nat} (h : turn ≠ index) :
    (s.happen (.advance turn)).questions[index]? = s.questions[index]? :=
  advance_keeps (p := fun next => next.questions[index]? = s.questions[index]?) rfl
    fun _ _ => List.getElem?_set_ne h

/-- With each of its turns a question comes nearer to its answer. -/
theorem left_turns {index : Nat} (hq : s.questions[index]? = some q) (turns : List Nat) :
    ∃ q', (s.run (turns.map .advance)).questions[index]? = some q' ∧
      q'.left ≤ q.left - turns.count index := by
  induction turns generalizing s q with
  | nil => exact ⟨q, hq, Nat.le_refl _⟩
  | cons turn rest ih =>
    by_cases hturn : turn = index
    · subst hturn
      have hle := (move_step s.machine s.registry q).left_le
      obtain ⟨q', hq', hle'⟩ := ih (questions_happen_self hq)
      refine ⟨q', hq', ?_⟩
      rw [List.count_cons_self]
      omega
    · rw [List.count_cons_of_ne hturn]
      exact ih ((questions_happen_of_ne hturn).trans hq)

/-- Three turns are enough for an answer. -/
theorem exists_answer_of_turns {index : Nat} {turns : List Nat} (hq : s.questions[index]? = some q)
    (hq3 : q.left ≤ turns.count index) :
    ∃ answer, (s.run (turns.map .advance)).answer? index = some answer := by
  obtain ⟨⟨id, stage⟩, hq', hle⟩ := left_turns hq turns
  have hnone : Question.left ⟨id, stage⟩ = 0 := by omega
  cases stage with
  | answered answer => exact ⟨answer, answer?_eq_some_iff.mpr ⟨id, hq'⟩⟩
  | asked | holding | failing => cases hnone

/-- Nobody waits for an answer. -/
def Answered (s : Scene) : Prop := ∀ q ∈ s.questions, ∃ answer, q.stage = .answered answer

/-- The questions are given what `r` gives to one of them alone, and leave what that one leaves. -/
structure ActsAsOne (m : Machine) (r : Registry) (id : ToolId) (s : Scene) : Prop where
  answer : ∀ index answer, s.answer? index = some answer → answer = (r.context m id).1
  slots : s.Answered → s.registry.slots = (r.context m id).2.slots
  /-- No other cell has been filled, not even one that was thrown away. -/
  content : s.Answered → ∀ cell, s.registry.content? cell = (r.context m id).2.content? cell

theorem Granting.actsAsOne (h : s.Granting m last id shared)
    (hcontext : r.context m id = (.ok shared, last)) (hsome : s.questions ≠ []) :
    s.ActsAsOne m r id := by
  have hregistry (hall : s.Answered) : s.registry = last := by
    obtain ⟨q, hq⟩ := List.exists_mem_of_ne_nil _ hsome
    obtain ⟨answer, hanswer⟩ := hall q hq
    cases h.granted q hq with
    | asked | holding => cases hanswer
    | answered _ hlast => exact hlast
  refine ⟨fun index answer hanswer => ?_, fun hall => ?_, fun hall cell => ?_⟩
  · obtain ⟨asked, hq⟩ := answer?_eq_some_iff.mp hanswer
    rw [hcontext]
    cases h.granted _ (List.mem_of_getElem? hq) with
    | answered => rfl
  · rw [hregistry hall, hcontext]
  · rw [hregistry hall, hcontext]

theorem Refusing.actsAsOne (h : s.Refusing m r id problem) (hheld : s.Held)
    (hs : r.slot? id = none) (hr : r.config.resolve m id = .error problem) :
    s.ActsAsOne m r id := by
  have hcontext := context_of_resolve_error hs hr
  refine ⟨fun index answer hanswer => ?_, fun hall => ?_, fun _ cell => ?_⟩
  · obtain ⟨asked, hq⟩ := answer?_eq_some_iff.mp hanswer
    rw [hcontext]
    cases h.refused _ (List.mem_of_getElem? hq) with
    | answered => rfl
  · -- an empty slot would be held by a question, but all are answered
    have hslot : s.registry.slot? id = none := by
      cases hs : s.registry.slot? id with
      | none => rfl
      | some cell =>
        have hempty := (h.barren.content cell).trans (h.barren.empty cell hs)
        obtain ⟨⟨asked, stage⟩, hq, -, hcell⟩ := hheld.held hs hempty
        obtain ⟨answer, rfl⟩ := hall _ hq
        cases hcell
    rw [hcontext, ← h.barren.slots, dropSlot_of_slot?_none hslot]
  · rw [h.barren.content, hcontext, content?_append_none]

/-- Between calls a question has one of three outcomes. -/
theorem Held.outcome (h : s.Held) (hquiet : s.Quiet) (m : Machine) (id : ToolId) :
    Outcome m s.registry id (s.registry.context m id).1 := by
  cases hkept : s.registry.kept? id with
  | some shared =>
    rw [context_of_kept? hkept]
    exact .kept hkept
  | none =>
    have hs := h.slot?_none hquiet hkept
    cases hr : s.registry.config.resolve m id with
    | ok tool =>
      rw [context_of_resolve_ok hs hr]
      exact .found hkept hr
    | error problem =>
      rw [context_of_resolve_error hs hr]
      exact .missed hkept hr

theorem questions_ne_nil_of_turns {n : Nat} (turns : List Nat) :
    ((asking m r id (n + 1)).run (turns.map .advance)).questions ≠ [] := by
  have hfirst : (asking m r id (n + 1)).questions[0]? = some ⟨id, .asked⟩ := rfl
  obtain ⟨q, hq, -⟩ := left_turns hfirst turns
  exact List.ne_nil_of_mem (List.mem_of_getElem? hq)

/-- Questions that are put to a registry between calls act as one, whatever turns they take. -/
theorem actsAsOne_of_quiet (hsound : s.Sound) (hheld : s.Held) (hquiet : s.Quiet) (m : Machine)
    (id : ToolId) (n : Nat) (turns : List Nat) :
    ((asking m s.registry id (n + 1)).run (turns.map .advance)).ActsAsOne m s.registry id := by
  have houtcome := hheld.outcome hquiet m id
  cases hcontext : s.registry.context m id with
  | mk answer last =>
    rw [hcontext] at houtcome
    cases answer with
    | ok shared =>
      have hstart : (asking m s.registry id (n + 1)).Granting m last id shared := by
        refine ⟨rfl, hcontext, fun q hq => ?_⟩
        rw [eq_asked_of_mem_asking hq]
        exact .asked
      have hlast := context_of_context (fun _ hslot => hsound.made (.inl hslot)) hcontext
      have hend := turns_keep (fun h hq hm => h.advanced hlast hq hm) hstart turns
      exact hend.actsAsOne hcontext (questions_ne_nil_of_turns turns)
    | error problem =>
      obtain ⟨hkept, hr⟩ : s.registry.kept? id = none ∧
          s.registry.config.resolve m id = .error problem := by
        cases houtcome with
        | missed hkept hr => exact ⟨hkept, hr⟩
      have hs := hheld.slot?_none hquiet hkept
      have hstart : (asking m s.registry id (n + 1)).Refusing m s.registry id problem := by
        refine ⟨rfl, barren_self hs, fun q hq => ?_⟩
        rw [eq_asked_of_mem_asking hq]
        exact .asked
      have hend := turns_keep (fun h hq hm => h.advanced hr hq hm) hstart turns
      have hheld' := (hheld.asking hquiet m id (n + 1)).run
        (hsound.asking m id (n + 1)) (turns.map .advance)
      exact hend.actsAsOne hheld' hs hr

/-- Whatever has been asked of a new registry, as soon as no question holds a cell any more, one or
more questions for one tool act as one while nothing else moves. In whatever order they take their
steps, each is answered after three of them at most, and all are given the same: what is kept for
the tool, else what is found for it, in one new cell, else the problem of finding it. And when all
are answered, the slots and what the cells hold are what a single question would have left. -/
theorem questions_at_once_act_as_one (m₀ : Machine) (number : Nat) (config : HostConfig)
    (ids : List ToolId) (history : List Event)
    (hquiet : ((opening m₀ number config ids).run history).Quiet) (m : Machine) (id : ToolId)
    (n : Nat) (turns : List Nat) :
    let r := ((opening m₀ number config ids).run history).registry
    let s := (asking m r id (n + 1)).run (turns.map .advance)
    Outcome m r id (r.context m id).1 ∧ s.ActsAsOne m r id ∧
      ∀ index ≤ n, 3 ≤ turns.count index → s.answer? index = some (r.context m id).1 := by
  intro r s
  have hsound := (sound_opening m₀ number config ids).run history
  have hheld := (held_opening m₀ number config ids).run (sound_opening m₀ number config ids) history
  have hone : s.ActsAsOne m r id := actsAsOne_of_quiet hsound hheld hquiet m id n turns
  refine ⟨hheld.outcome hquiet m id, hone, fun index hindex hturns => ?_⟩
  have hasked : (asking m r id (n + 1)).questions[index]? = some ⟨id, .asked⟩ :=
    List.getElem?_replicate_of_lt (Nat.lt_succ_of_le hindex)
  obtain ⟨answer, hanswer⟩ := exists_answer_of_turns hasked hturns
  rw [← hone.answer index answer hanswer]
  exact hanswer

/-- Turns of three questions for a tool that was not found before and is there now. The first two
get hold of the new cell before one of them fills it, and the third one comes later. -/
def lateTurns : List Nat := [0, 1, 1, 0, 2, 2, 0, 1, 2]

theorem late_questions_act_as_one :
    let before := (opening (machineWith .empty) 0 lateConfig [late]).run
      [.advance 0, .advance 0, .advance 0]
    let there := machineWith (FileTree.empty.put ["late"] (.file [] ⟨0o755, 0⟩))
    before.Quiet ∧ ∀ index ≤ 2,
      ((asking there before.registry late 3).run (lateTurns.map .advance)).answer? index =
        some (.ok ⟨1, ⟨late, "/", "/late"⟩⟩) := by
  intro before there
  have hquiet : before.Quiet := by
    intro q hq
    have hlast : before.questions = [⟨late, .answered (.error
        (.executableNotFound late "/late" .notFound))⟩] := by rfl
    rw [hlast, List.mem_singleton] at hq
    rw [hq]
    rfl
  have hgiven : (before.registry.context there late).1 = .ok ⟨1, ⟨late, "/", "/late"⟩⟩ := by
    decide +kernel
  refine ⟨hquiet, fun index hindex => ?_⟩
  have hturns : ∀ index ≤ 2, 3 ≤ lateTurns.count index := by decide
  obtain ⟨-, -, hanswer⟩ := questions_at_once_act_as_one (machineWith .empty) 0 lateConfig [late]
    [.advance 0, .advance 0, .advance 0] hquiet there late 2 lateTurns
  rw [← hgiven]
  exact hanswer index hindex (hturns index hindex)

end Scene
end ToolHost.Registry
