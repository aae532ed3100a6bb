import ToolHost.Registry.Global

/-! How the registry of a process is chosen. Whoever asks for it looks first whether there is one,
then reads a configuration, and only then offers a registry; in between others may do the same, or
install one. What is chosen once stays, and all are given it. -/
namespace ToolHost.Registry.Global
variable {m : Machine} {g g' : Global} {q q' : Search} {r : Registry} {number : Nat}
  {config : HostConfig}

/-- One step of a request. -/
inductive Move (m : Machine) (g : Global) : Search → Search → Global → Prop where
  | sees {r : Registry} (hr : g.chosen? = some r) : Move m g .begun (.ended (.ok r.number)) g
  | misses (hnone : g.chosen? = none) : Move m g .begun .absent g
  | loads {config : HostConfig} (hl : HostConfig.loadDefault m = .ok config) :
    Move m g .absent (.loaded config) g
  | fails {problem : Problem} (hl : HostConfig.loadDefault m = .error problem) :
    Move m g .absent (.ended (.error problem)) g
  /-- Another registry has been chosen in the meantime. -/
  | yields {config : HostConfig} {r : Registry} (hr : g.chosen? = some r) :
    Move m g (.loaded config) (.ended (.ok r.number)) { g with made := g.made + 1 }
  | chooses {config : HostConfig} (hnone : g.chosen? = none) :
    Move m g (.loaded config) (.ended (.ok g.made)) ⟨some (.new g.made config), g.made + 1⟩
  | rests {answer : Except Problem Nat} : Move m g (.ended answer) (.ended answer) g

theorem offer_of_chosen (hr : g.chosen? = some r) (config : HostConfig) :
    g.offer config = ((r, false), { g with made := g.made + 1 }) := by
  simp only [offer, hr]

theorem offer_of_none (hnone : g.chosen? = none) (config : HostConfig) :
    g.offer config =
      ((.new g.made config, true), ⟨some (.new g.made config), g.made + 1⟩) := by
  simp only [offer, hnone]

theorem move_step (m : Machine) (g : Global) (q : Search) :
    Move m g q (g.step m q).1 (g.step m q).2 := by
  cases q with
  | begun =>
    cases hc : g.chosen? with
    | some r =>
      simp only [step, hc]
      exact .sees hc
    | none =>
      simp only [step, hc]
      exact .misses hc
  | absent =>
    cases hl : HostConfig.loadDefault m with
    | ok config =>
      simp only [step, hl]
      exact .loads hl
    | error problem =>
      simp only [step, hl]
      exact .fails hl
  | loaded config =>
    cases hc : g.chosen? with
    | some r =>
      simp only [step, offer_of_chosen hc]
      exact .yields hc
    | none =>
      simp only [step, offer_of_none hc]
      exact .chooses hc
  | ended answer => exact .rests

namespace Move

/-- What is chosen stays chosen. -/
theorem chosen?_of_chosen? (h : Move m g q q' g') (hr : g.chosen? = some r) :
    g'.chosen? = some r := by
  cases h with
  | sees | misses | loads | fails | yields | rests => exact hr
  | chooses hnone =>
    rw [hnone] at hr
    cases hr

/-- Only a request that has read a configuration makes a choice, and it is given what it chose. -/
theorem chosen?_cases (h : Move m g q q' g') (hr : g'.chosen? = some r) :
    g.chosen? = some r ∨ q' = .ended (.ok r.number) := by
  cases h with
  | sees | misses | loads | fails | yields | rests => exact .inl hr
  | chooses =>
    cases hr
    exact .inr rfl

/-- Whoever is given a registry is given the one that is chosen. -/
theorem chosen?_of_given (h : Move m g q q' g') (hgiven : q' = .ended (.ok number)) :
    q = q' ∨ ∃ r, g'.chosen? = some r ∧ r.number = number := by
  cases h with
  | misses | loads | fails => cases hgiven
  | sees hr | yields hr =>
    cases hgiven
    exact .inr ⟨_, hr, rfl⟩
  | chooses =>
    cases hgiven
    exact .inr ⟨_, rfl, rfl⟩
  | rests => exact .inl rfl

theorem eq_of_ended {answer : Except Problem Nat} (h : Move m g (.ended answer) q' g') :
    q' = .ended answer := by
  cases h
  rfl

end Move

/-- An installation is told that it is the first one exactly if nothing has been chosen. -/
theorem install_iff (g : Global) (config : HostConfig) :
    (g.install config).1 = true ↔ g.chosen? = none := by
  cases hc : g.chosen? with
  | some r => simp [install, offer_of_chosen hc]
  | none => simp [install, offer_of_none hc]

theorem install_of_none (hnone : g.chosen? = none) (config : HostConfig) :
    (g.install config).2 = ⟨some (.new g.made config), g.made + 1⟩ := by
  simp only [install, offer_of_none hnone]

theorem exists_chosen?_install (g : Global) (config : HostConfig) :
    ∃ r, (g.install config).2.chosen? = some r := by
  cases hc : g.chosen? with
  | some r => exact ⟨r, by simp [install, offer_of_chosen hc, hc]⟩
  | none => exact ⟨_, by rw [install_of_none hc]⟩

theorem chosen?_install (hr : g.chosen? = some r) (config : HostConfig) :
    (g.install config).2.chosen? = some r := by
  simp [install, offer_of_chosen hr, hr]

namespace Scene
variable {s : Scene} {index : Nat}

/-- Requests for the registry of a process in which nothing has happened yet. -/
def opening (m : Machine) (n : Nat) : Scene := ⟨m, .start, List.replicate n .begun⟩

/-- The scene after a request has taken a step. -/
def advanced (s : Scene) (index : Nat) (q' : Search) (g' : Global) : Scene :=
  { s with global := g', requests := s.requests.set index q' }

theorem happen_advance (hq : s.requests[index]? = some q) :
    s.happen (.advance index) =
      s.advanced index (s.global.step s.machine q).1 (s.global.step s.machine q).2 := by
  simp only [happen, hq]
  rfl

theorem requests_advanced_self (hq : s.requests[index]? = some q) :
    (s.advanced index q' g').requests[index]? = some q' := by
  obtain ⟨hlt, -⟩ := List.getElem?_eq_some_iff.mp hq
  exact List.getElem?_set_self hlt

/-- What is kept whichever move a request makes is kept when a request takes its turn. -/
theorem advance_keeps {p : Scene → Prop} (h : p s)
    (hmove : ∀ {q q' : Search} {g' : Global}, s.requests[index]? = some q →
      Move s.machine s.global q q' g' → p (s.advanced index q' g')) :
    p (s.happen (.advance index)) := by
  cases hq : s.requests[index]? with
  | none =>
    have hsame : s.happen (.advance index) = s := by simp only [happen, hq]
    rwa [hsame]
  | some q =>
    rw [happen_advance hq]
    exact hmove hq (move_step s.machine s.global q)

/-- What every event keeps is kept by a whole run. -/
theorem run_keeps {p : Scene → Prop} (hevent : ∀ {s : Scene} (e : Event), p s → p (s.happen e))
    (h : p s) (events : List Event) : p (s.run events) := by
  induction events generalizing s with
  | nil => exact h
  | cons e rest ih => exact ih (hevent e h)

theorem run_append (s : Scene) (before after : List Event) :
    s.run (before ++ after) = (s.run before).run after :=
  List.foldl_append

theorem run_concat (s : Scene) (before : List Event) (e : Event) :
    s.run (before ++ [e]) = (s.run before).happen e :=
  run_append s before [e]

theorem chosen?_happen (hr : s.global.chosen? = some r) (e : Event) :
    (s.happen e).global.chosen? = some r := by
  cases e with
  | advance index =>
    exact advance_keeps (p := fun next => next.global.chosen? = some r) hr
      fun _ hm => hm.chosen?_of_chosen? hr
  | install config => exact chosen?_install hr config
  | change => exact hr

theorem chosen?_run (hr : s.global.chosen? = some r) (events : List Event) :
    (s.run events).global.chosen? = some r :=
  run_keeps (p := fun next => next.global.chosen? = some r) (fun e h => chosen?_happen h e) hr
    events

/-- An answer stays as it is. -/
theorem ended_happen {answer : Except Problem Nat}
    (hq : s.requests[index]? = some (.ended answer)) (e : Event) :
    (s.happen e).requests[index]? = some (.ended answer) := by
  cases e with
  | install | change => exact hq
  | advance turn =>
    refine advance_keeps (p := fun next => next.requests[index]? = some (.ended answer)) hq ?_
    intro q q' g' hturn hm
    by_cases hsame : turn = index
    · subst hsame
      rw [hq] at hturn
      cases hturn
      rw [requests_advanced_self hq, hm.eq_of_ended]
    · exact (List.getElem?_set_ne hsame).trans hq

theorem ended_run {answer : Except Problem Nat} (hq : s.requests[index]? = some (.ended answer))
    (events : List Event) : (s.run events).requests[index]? = some (.ended answer) :=
  run_keeps (p := fun next => next.requests[index]? = some (.ended answer))
    (fun e h => ended_happen h e) hq events

/-- All that requests are given is the registry that is chosen. -/
def Agreed (s : Scene) : Prop :=
  ∀ index number : Nat, s.requests[index]? = some (.ended (.ok number)) →
    ∃ r, s.global.chosen? = some r ∧ r.number = number

theorem agreed_opening (m : Machine) (n : Nat) : (opening m n).Agreed := by
  intro index number hq
  cases (List.mem_replicate.mp (List.mem_of_getElem? hq)).2

theorem Agreed.happen (h : s.Agreed) (e : Event) : (s.happen e).Agreed := by
  intro index number hq
  cases e with
  | change => exact h index number hq
  | install config =>
    obtain ⟨r, hr, hnumber⟩ := h index number hq
    exact ⟨r, chosen?_install hr config, hnumber⟩
  | advance turn =>
    revert hq
    refine advance_keeps (p := fun next => next.requests[index]? = some (.ended (.ok number)) →
      ∃ r, next.global.chosen? = some r ∧ r.number = number) (h index number) ?_
    intro q q' g' hturn hm hq
    by_cases hsame : turn = index
    · subst hsame
      rw [requests_advanced_self hturn, Option.some.injEq] at hq
      rcases hm.chosen?_of_given hq with rfl | hgiven
      · obtain ⟨r, hr, hnumber⟩ := h turn number (hq ▸ hturn)
        exact ⟨r, hm.chosen?_of_chosen? hr, hnumber⟩
      · exact hgiven
    · obtain ⟨r, hr, hnumber⟩ := h index number ((List.getElem?_set_ne hsame).symm.trans hq)
      exact ⟨r, hm.chosen?_of_chosen? hr, hnumber⟩

theorem Agreed.run (h : s.Agreed) (events : List Event) : (s.run events).Agreed :=
  run_keeps (fun e h => h.happen e) h events

/-- What is chosen has been installed, or a request has been given it. -/
theorem chosen?_run_cases {events : List Event} (hr : (s.run events).global.chosen? = some r) :
    s.global.chosen? = some r ∨ (∃ config, .install config ∈ events) ∨
      ∃ index : Nat, (s.run events).requests[index]? = some (.ended (.ok r.number)) := by
  induction events generalizing s with
  | nil => exact .inl hr
  | cons e rest ih =>
    rcases ih hr with hnext | ⟨config, hmem⟩ | hgiven
    · cases e with
      | change => exact .inl hnext
      | install config => exact .inr (.inl ⟨config, List.mem_cons_self⟩)
      | advance index =>
        have hcases : s.global.chosen? = some r ∨
            (s.happen (.advance index)).requests[index]? = some (.ended (.ok r.number)) := by
          revert hnext
          refine advance_keeps (p := fun next => next.global.chosen? = some r →
            s.global.chosen? = some r ∨
              next.requests[index]? = some (.ended (.ok r.number))) .inl ?_
          intro q q' g' hq hm hnext
          refine (hm.chosen?_cases hnext).imp_right fun hgiven => ?_
          rw [requests_advanced_self hq, hgiven]
        exact hcases.imp_right fun hgiven => .inr ⟨index, ended_run hgiven rest⟩
    · exact .inr (.inl ⟨config, List.mem_cons_of_mem _ hmem⟩)
    · exact .inr (.inr hgiven)

/-- The event chooses the registry. -/
def Chooses (s : Scene) (e : Event) : Prop :=
  s.global.chosen? = none ∧ (s.happen e).global.chosen? ≠ none

theorem install_iff_chooses (s : Scene) (config : HostConfig) :
    (s.global.install config).1 = true ↔ s.Chooses (.install config) := by
  rw [install_iff]
  refine ⟨fun hnone => ⟨hnone, ?_⟩, fun h => h.1⟩
  obtain ⟨r, hr⟩ := exists_chosen?_install s.global config
  exact Option.ne_none_iff_exists'.mpr ⟨r, hr⟩

/-- A choice is not made again. -/
theorem not_chooses_of_chooses {before later events : List Event} {e e' : Event}
    (hpre : before ++ [e] <+: events) (hlater : later <+: events)
    (hlt : before.length < later.length) (h : (s.run before).Chooses e) :
    ¬ (s.run later).Chooses e' := by
  have hinside : before ++ [e] <+: later := by
    refine List.prefix_of_prefix_length_le hpre hlater ?_
    rw [List.length_append, List.length_singleton]
    exact hlt
  obtain ⟨rest, rfl⟩ := hinside
  obtain ⟨r, hr⟩ := Option.ne_none_iff_exists'.mp h.2
  rintro ⟨hnone, -⟩
  rw [run_append, run_concat, chosen?_run hr rest] at hnone
  cases hnone

theorem eq_of_chooses {before later events : List Event} {e e' : Event}
    (hpre : before ++ [e] <+: events) (hpre' : later ++ [e'] <+: events)
    (h : (s.run before).Chooses e) (h' : (s.run later).Chooses e') : before = later := by
  have hbefore : before <+: events := (List.prefix_append before [e]).trans hpre
  have hlater : later <+: events := (List.prefix_append later [e']).trans hpre'
  rcases Nat.lt_trichotomy before.length later.length with hlt | heq | hgt
  · exact absurd h' (not_chooses_of_chooses hpre hlater hlt h)
  · exact (List.prefix_of_prefix_length_le hbefore hlater (Nat.le_of_eq heq)).eq_of_length heq
  · exact absurd h (not_chooses_of_chooses hpre' hbefore hgt h')

/-- A request that fails to read a configuration changes nothing but itself. -/
theorem happen_of_loadDefault_error {problem : Problem} (hq : s.requests[index]? = some .absent)
    (hl : HostConfig.loadDefault s.machine = .error problem) :
    (s.happen (.advance index)).global = s.global ∧
      (s.happen (.advance index)).requests[index]? = some (.ended (.error problem)) := by
  rw [happen_advance hq]
  simp only [step, hl]
  exact ⟨rfl, requests_advanced_self hq⟩

/-- As long as nothing is chosen, a request that can read a configuration chooses for all. -/
theorem run_of_loadDefault_ok (hnone : s.global.chosen? = none)
    (hq : s.requests[index]? = some .begun) (hl : HostConfig.loadDefault m = .ok config) :
    let later := s.run [.change m, .advance index, .advance index, .advance index]
    later.global.chosen? = some (.new s.global.made config) ∧
      later.requests[index]? = some (.ended (.ok s.global.made)) := by
  intro later
  let s₁ : Scene := { s with machine := m }
  have hq₁ : s₁.requests[index]? = some .begun := hq
  let s₂ := s₁.advanced index .absent s.global
  have h₁ : s₁.happen (.advance index) = s₂ := by
    rw [happen_advance hq₁]
    simp only [step, s₁, hnone, s₂]
  have hq₂ : s₂.requests[index]? = some .absent := requests_advanced_self hq₁
  let s₃ := s₂.advanced index (.loaded config) s.global
  have h₂ : s₂.happen (.advance index) = s₃ := by
    rw [happen_advance hq₂]
    simp only [step, s₂, s₁, advanced, hl, s₃]
  have hq₃ : s₃.requests[index]? = some (.loaded config) := requests_advanced_self hq₂
  have h₃ : later = s₃.advanced index (.ended (.ok s.global.made))
      ⟨some (.new s.global.made config), s.global.made + 1⟩ := by
    have hlast : later = s₃.happen (.advance index) := by
      rw [← h₂, ← h₁]
      rfl
    rw [hlast, happen_advance hq₃]
    simp only [step, s₃, s₂, s₁, advanced, offer_of_none hnone]
    rfl
  rw [h₃]
  exact ⟨rfl, requests_advanced_self hq₃⟩

/-- What it means for the events of a process that its registry is chosen once. -/
structure ChosenOnce (s : Scene) (events : List Event) : Prop where
  /-- At most one event chooses. -/
  one : ∀ before later e e', before ++ [e] <+: events → later ++ [e'] <+: events →
    (s.run before).Chooses e → (s.run later).Chooses e' → before = later
  /-- What is chosen at some time is chosen at the end, and its configuration is still the same. -/
  stays : ∀ before r, before <+: events → (s.run before).global.chosen? = some r →
    (s.run events).global.chosen? = some r
  /-- Every request that has got a registry has got this one. -/
  agreed : (s.run events).Agreed
  /-- An installation succeeds exactly if it is the event that chooses. What is chosen has its
  configuration then. -/
  installs : ∀ before config, before ++ [.install config] <+: events →
    (((s.run before).global.install config).1 = true ↔
      (s.run before).Chooses (.install config)) ∧
    (((s.run before).global.install config).1 = true →
      ∃ r, (s.run events).global.chosen? = some r ∧ r.config = config)
  /-- No installation succeeds any more as soon as a request has got a registry. -/
  late : ∀ before config (index number : Nat), before ++ [.install config] <+: events →
    (s.run before).requests[index]? = some (.ended (.ok number)) →
    ((s.run before).global.install config).1 = false
  /-- A request that cannot read its configuration ends with that problem and sets nothing. -/
  fails : ∀ before (index : Nat) problem, before ++ [.advance index] <+: events →
    (s.run before).requests[index]? = some .absent →
    HostConfig.loadDefault (s.run before).machine = .error problem →
    (s.run (before ++ [.advance index])).global = (s.run before).global ∧
      (s.run (before ++ [.advance index])).requests[index]? = some (.ended (.error problem))
  /-- Nothing is chosen exactly as long as nothing was installed and no request has got anything. -/
  unset : (s.run events).global.chosen? = none ↔ (∀ config, .install config ∉ events) ∧
    ∀ index number : Nat, (s.run events).requests[index]? ≠ some (.ended (.ok number))
  /-- Then an installation succeeds, and so does a request that can read a configuration. -/
  free : (s.run events).global.chosen? = none →
    (∀ config, ((s.run events).global.install config).1 = true) ∧
    ∀ (index : Nat) m config, (s.run events).requests[index]? = some .begun →
      HostConfig.loadDefault m = .ok config →
      let later := (s.run events).run [.change m, .advance index, .advance index, .advance index]
      ∃ r, later.global.chosen? = some r ∧ r.config = config ∧
        later.requests[index]? = some (.ended (.ok r.number))

/-- In a new process, whatever requests for its registry and installations come together, in whatever
order they take their steps, and however the machine changes in between, the registry is chosen at
most once, and all agree on it. -/
theorem registry_is_chosen_once (m : Machine) (n : Nat) (events : List Event) :
    (opening m n).ChosenOnce events where
  one := fun _ _ _ _ hpre hpre' h h' => eq_of_chooses hpre hpre' h h'
  stays := by
    rintro before r ⟨rest, rfl⟩ hr
    rw [run_append]
    exact chosen?_run hr rest
  agreed := (agreed_opening m n).run events
  installs := by
    rintro before config ⟨rest, rfl⟩
    refine ⟨install_iff_chooses _ config, fun hfirst => ?_⟩
    have hnone := (install_iff _ config).mp hfirst
    have hchosen : ((opening m n).run (before ++ [.install config])).global.chosen? =
        some (.new ((opening m n).run before).global.made config) := by
      rw [run_concat]
      exact congrArg Global.chosen? (install_of_none hnone config)
    rw [run_append]
    exact ⟨_, chosen?_run hchosen rest, rfl⟩
  late := by
    intro before config index number _ hgiven
    obtain ⟨r, hr, -⟩ := (agreed_opening m n).run before index number hgiven
    rw [Bool.eq_false_iff, Ne, install_iff, hr]
    exact Option.some_ne_none r
  fails := by
    intro before index problem _ hq hl
    rw [run_concat]
    exact happen_of_loadDefault_error hq hl
  unset := by
    constructor
    · intro hnone
      refine ⟨fun config hmem => ?_, fun index number hgiven => ?_⟩
      · obtain ⟨before, rest, rfl⟩ := List.append_of_mem hmem
        obtain ⟨r, hr⟩ := exists_chosen?_install ((opening m n).run before).global config
        rw [run_append] at hnone
        have hend := chosen?_run (s := ((opening m n).run before).happen (.install config)) hr rest
        exact Option.some_ne_none r (hend.symm.trans hnone)
      · obtain ⟨r, hr, -⟩ := (agreed_opening m n).run events index number hgiven
        rw [hr] at hnone
        cases hnone
    · rintro ⟨hinstall, hgiven⟩
      cases hr : ((opening m n).run events).global.chosen? with
      | none => rfl
      | some r =>
        rcases chosen?_run_cases hr with hstart | ⟨config, hmem⟩ | ⟨index, hq⟩
        · cases hstart
        · exact absurd hmem (hinstall config)
        · exact absurd hq (hgiven index r.number)
  free := by
    intro hnone
    refine ⟨fun config => (install_iff _ config).mpr hnone, fun index m' config hq hl => ?_⟩
    obtain ⟨hchosen, hgiven⟩ := run_of_loadDefault_ok hnone hq hl
    exact ⟨_, hchosen, rfl, hgiven⟩

end Scene
end ToolHost.Registry.Global
