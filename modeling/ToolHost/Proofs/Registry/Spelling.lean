import ToolHost.Config.Reader
import ToolHost.Proofs.Registry.Ledger
import ToolHost.Proofs.Registry.Sharing
import ToolHost.Proofs.Tool.Naming

/-! Two spellings of one tool's name. The configuration ignores the case of names, but a registry
keeps its tools by the names as they were given, and only the built-in ones lose their spelling. So
any other tool is shared once for each spelling under which it is asked for. -/
namespace ToolHost
open Text

namespace ToolId
variable {s t : String} {a b : ToolId}

/-- Texts that differ only in case name one tool if that is built in or if they do not differ. -/
theorem eq_iff_of_sameIgnoringCase (hs : ofText? s = some a) (ht : ofText? t = some b)
    (h : sameIgnoringCase (trim s) (trim t) = true) :
    a = b ↔ (Layout.builtin? a).isSome ∨ trim s = trim t := by
  have hsame (name : String) :
      sameIgnoringCase (trim t) name = sameIgnoringCase (trim s) name := by
    rw [Bool.eq_iff_iff, sameIgnoringCase_iff, sameIgnoringCase_iff, sameIgnoringCase_iff.mp h]
  have hb := ofText?_cases ht
  rw [hsame, hsame] at hb
  rcases ofText?_cases hs with ⟨rfl, hsqlite⟩ | ⟨rfl, hsqlite, hgrid⟩ | ⟨rfl, hsqlite, hgrid⟩
  · have hknown : b = .sqliteCompare := by simpa [hsqlite] using hb
    simp [hknown, Layout.builtin?]
  · have hknown : b = .reoGridCompare := by simpa [hsqlite, hgrid] using hb
    simp [hknown, Layout.builtin?]
  · have hother : b = .other (trim t) := by simpa [hsqlite, hgrid] using hb
    simp [hother, Layout.builtin?]

end ToolId

namespace Ledger
open Registry
variable {config : HostConfig} {m : Machine} {l next last : Ledger} {call : Call} {reply : Reply}
  {calls : List (Machine × Call)} {replies : List Reply} {id : ToolId} {shared : Shared}

/-- Every entry is of the tool under which it stands. -/
def Labelled (l : Ledger) : Prop := ∀ id shared, l.kept? id = some shared → shared.tool.id = id

theorem labelled_empty : empty.Labelled := fun _ _ h => by cases h

theorem Step.labelled (h : Step config m l call reply next) (hl : l.Labelled) :
    next.Labelled := by
  cases h with
  | known | missed | isInitialized | initialized | config => exact hl
  | @found asked tool cell _ hr _ =>
    intro other shared hkept
    by_cases hother : other = asked
    · subst hother
      rw [kept?_enter_self] at hkept
      cases hkept
      obtain ⟨layout, base, -, rfl⟩ := HostConfig.exists_layout_of_resolve hr
      rfl
    · rw [kept?_enter_of_ne hother] at hkept
      exact hl other shared hkept
  | @unload given =>
    intro other shared hkept
    by_cases hother : other = given
    · rw [hother, kept?_strike_self] at hkept
      cases hkept
    · rw [kept?_strike_of_ne hother] at hkept
      exact hl other shared hkept

theorem Run.labelled (h : Run config l calls replies last) (hl : l.Labelled) :
    last.Labelled := by
  induction h with
  | nil => exact hl
  | cons hstep _ ih => exact ih (hstep.labelled hl)

/-- An entry stays until its tool is given up. -/
theorem Step.kept? (h : Step config m l call reply next) (hkept : l.kept? id = some shared)
    (hcall : call ≠ .unload id) : next.kept? id = some shared := by
  cases h with
  | known | missed | isInitialized | initialized | config => exact hkept
  | @found asked _ _ hnone _ _ =>
    have hne : id ≠ asked := by
      rintro rfl
      rw [hnone] at hkept
      cases hkept
    rwa [kept?_enter_of_ne hne]
  | @unload given =>
    have hne : id ≠ given := by
      rintro rfl
      exact hcall rfl
    rwa [kept?_strike_of_ne hne]

theorem Run.kept? (h : Run config l calls replies last) (hkept : l.kept? id = some shared)
    (hcalls : ∀ m, (m, .unload id) ∉ calls) : last.kept? id = some shared := by
  induction h with
  | nil => exact hkept
  | @cons _ _ _ m call _ _ _ hstep _ ih =>
    refine ih (hstep.kept? hkept ?_) fun m hmem => hcalls m (List.mem_cons_of_mem _ hmem)
    rintro rfl
    exact hcalls m List.mem_cons_self

/-- A tool that was given is kept. -/
theorem Step.kept?_of_context (h : Step config m l (.context id) (.context (.ok shared)) next) :
    next.kept? id = some shared := by
  cases h with
  | known hkept => exact hkept
  | found => exact kept?_enter_self _ _ _

end Ledger

namespace Registry
variable {r : Registry} {m : Machine} {number : Nat} {config : HostConfig} {s t : String}
  {a b : ToolId} {shared : Shared} {calls later : List (Machine × Call)}

/-- For a registry that shares a tool as `a`, asking for `b` is the same. -/
structure Interchangeable (r : Registry) (shared : Shared) (a b : ToolId) : Prop where
  initialized : r.isInitialized b = true
  context : ∀ m, r.context m b = (.ok shared, r)
  unload : (r.unload b).1 = true ∧ (r.unload b).2.isInitialized a = false

theorem interchangeable_self (h : r.kept? a = some shared) : r.Interchangeable shared a a where
  initialized := by
    rw [isInitialized_eq, h]
    rfl
  context := context_of_kept? h
  unload := by
    rw [Registry.unload, isInitialized_eq, h, isInitialized_eq, kept?, slot?_dropSlot_self]
    exact ⟨rfl, rfl⟩

/-- Giving up a tool leaves the others in use. -/
theorem isInitialized_unload_of_ne (h : a ≠ b) (r : Registry) :
    (r.unload b).2.isInitialized a = r.isInitialized a := by
  rw [isInitialized, isInitialized, Registry.unload, slot?_dropSlot_of_ne h]
  rfl

/-- What a registry shares after it has given a tool and then answered any calls but those that give
that tool up. The ledger holds every tool under its own name. -/
theorem exists_ledger_after_context
    (h : (((new number config).replies calls).2.context m a).1 = .ok shared)
    (hlater : ∀ m, (m, .unload a) ∉ later) :
    ∃ l : Ledger, ((((new number config).replies calls).2.context m a).2.replies later).2.Keeps l ∧
      l.kept? a = some shared ∧ l.Labelled := by
  obtain ⟨before, hrun, hbefore⟩ := (keeps_new number config).replies calls
  obtain ⟨after, hstep, hafter, -⟩ := hbefore.reply m (.context a)
  obtain ⟨last, hmore, hlast⟩ := hafter.replies later
  rw [reply, h] at hstep
  refine ⟨last, hlast, hmore.kept? hstep.kept?_of_context hlater, hmore.labelled ?_⟩
  exact hstep.labelled (hrun.labelled Ledger.labelled_empty)

/-- A tool that is kept under its own name is not given for another one. -/
theorem Keeps.context_ne {l : Ledger} (h : r.Keeps l) (hl : l.Labelled)
    (hkept : l.kept? a = some shared) (hne : a ≠ b) (m : Machine) :
    (r.context m b).1 ≠ .ok shared := by
  intro hgiven
  obtain ⟨next, hstep, -, -⟩ := h.reply m (.context b)
  have hlabelled := hstep.labelled hl
  rw [Registry.reply, hgiven] at hstep
  exact hne ((hl a shared hkept).symm.trans (hlabelled b shared hstep.kept?_of_context))

/-- Two texts that differ only in case name tools `a` and `b`, and a registry, after any calls, has
given `a`. Unless it has been told since to give `a` up, asking it for `b` is asking it for `a` if
the tool is built in or the texts do not differ apart from blanks. In all other cases it gives
something else for `b`, and giving up `b` leaves `a` in use. -/
theorem spellings_of_one_tool (calls later : List (Machine × Call)) (m : Machine)
    (hs : ToolId.ofText? s = some a) (ht : ToolId.ofText? t = some b)
    (hcase : sameIgnoringCase (trim s) (trim t) = true)
    (hgiven : (((new number config).replies calls).2.context m a).1 = .ok shared)
    (hlater : ∀ m, (m, .unload a) ∉ later) :
    let r := ((((new number config).replies calls).2.context m a).2.replies later).2
    ((Layout.builtin? a).isSome ∨ trim s = trim t → r.Interchangeable shared a b) ∧
    (¬ ((Layout.builtin? a).isSome ∨ trim s = trim t) →
      (∀ m, (r.context m b).1 ≠ .ok shared) ∧ (r.unload b).2.isInitialized a = true) := by
  intro r
  obtain ⟨l, hkeeps, hkept, hlabelled⟩ := exists_ledger_after_context hgiven hlater
  have hshared : r.kept? a = some shared := by rw [hkeeps.entries, hkept]
  rw [← ToolId.eq_iff_of_sameIgnoringCase hs ht hcase]
  constructor
  · rintro rfl
    exact interchangeable_self hshared
  · intro hne
    refine ⟨hkeeps.context_ne hlabelled hkept hne, ?_⟩
    rw [isInitialized_unload_of_ne hne, isInitialized_eq, hshared]
    rfl

/-- A configuration with one tool of its own. -/
def fooText : String :=
  "\x7b\"tools\":\x7b\"foo\":\x7b\"dir\":\"/\",\"executable\":\"foo\"\x7d\x7d\x7d"

def fooConfig : HostConfig := ⟨none, none, false, ToolTable.empty.insert "foo" ⟨"/", "foo"⟩⟩

/-- A machine with a file for that tool. -/
def fooMachine : Machine :=
  Scene.machineWith (FileTree.empty.put ["foo"] (.file [] ⟨0o755, 0⟩))

/-- The tool under a name in another case, which is shared on its own. -/
def sharedFoo : Shared := ⟨0, ⟨.other "Foo", "/", "/foo"⟩⟩

theorem context_foo : ((new 0 fooConfig).context fooMachine (.other "Foo")).1 = .ok sharedFoo := by
  decide +kernel

/-- The two spellings differ, so asking for the second one gives something else. -/
theorem spellings_of_foo : ToolId.ofText? "Foo" = some (.other "Foo") ∧
    ToolId.ofText? "foo" = some (.other "foo") ∧
    sameIgnoringCase (trim "Foo") (trim "foo") = true ∧
    ((new 0 fooConfig).context fooMachine (.other "Foo")).1 = .ok sharedFoo ∧
    ∀ m, (((new 0 fooConfig).context fooMachine (.other "Foo")).2.context m (.other "foo")).1 ≠
      .ok sharedFoo := by
  have hs : ToolId.ofText? "Foo" = some (.other "Foo") := by decide +kernel
  have ht : ToolId.ofText? "foo" = some (.other "foo") := by decide +kernel
  have hcase : sameIgnoringCase (trim "Foo") (trim "foo") = true := by decide +kernel
  have hdifferent : ¬ ((Layout.builtin? (.other "Foo")).isSome ∨ trim "Foo" = trim "foo") := by
    decide +kernel
  refine ⟨hs, ht, hcase, context_foo, ?_⟩
  exact ((spellings_of_one_tool [] [] fooMachine hs ht hcase context_foo
    fun _ => List.not_mem_nil).2 hdifferent).1

/-- Names that differ only in case do not always stand for one tool: under this configuration
`foo` is not in use when it has been given as `Foo`. -/
theorem spellings_not_always_interchangeable :
    ¬ ∀ (text : String) (number : Nat) (config : HostConfig) (calls later : List (Machine × Call))
      (m : Machine) (s t : String) (a b : ToolId) (shared : Shared),
      HostConfig.ofJson text = .ok config → ToolId.ofText? s = some a → ToolId.ofText? t = some b →
      sameIgnoringCase (trim s) (trim t) = true →
      (((new number config).replies calls).2.context m a).1 = .ok shared →
      (∀ m id, (m, .unload id) ∉ later) →
      ((((new number config).replies calls).2.context m a).2.replies later).2.Interchangeable
        shared a b := by
  intro h
  have hsame := h fooText 0 fooConfig [] [] fooMachine "Foo" "foo" (.other "Foo") (.other "foo")
    sharedFoo (by decide +kernel) (by decide +kernel) (by decide +kernel) (by decide +kernel)
    context_foo (fun _ _ => List.not_mem_nil)
  have hnot : ((new 0 fooConfig).context fooMachine (.other "Foo")).2.isInitialized (.other "foo") =
      false := by
    decide +kernel
  exact absurd hsame.initialized (by rw [replies, replies, hnot]; decide)

end Registry
end ToolHost
