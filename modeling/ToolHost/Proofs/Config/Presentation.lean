import Mathlib.Data.List.Perm.Basic
import ToolHost.Proofs.Config.Truncation
import ToolHost.Proofs.Json.Presentation
import ToolHost.Proofs.Tool.Tables

/-! Texts that present one configuration in different ways. What a text means is told by its members
and their strings; a text in which these are the same describes the same configuration, however it is
laid out, spelled and ordered. -/
namespace ToolHost

namespace Config
open Json

section Layouts

/-- Two texts of one layout. -/
def SameLayout (v v' : List Char) : Prop :=
  (∃ ms ms', Object ms v ∧ Object ms' v' ∧ SameMembers ["dir", "executable"] (fun _ => SameScalar) ms ms') ∨
    ∃ p q p' q', Pair p q v ∧ Pair p' q' v' ∧ SameScalar p p' ∧ SameScalar q q'

/-- A text that means a layout: an object of its fields, or a list of them. -/
def LayoutMeaning (layout : Layout) (v : List Char) : Prop :=
  (∃ ms, Object ms v ∧ Given "dir" (Accepted Found.text?) ms (some layout.dir) ∧
    Given "executable" (Accepted Found.text?) ms (some layout.executable)) ∨
  ∃ p q, Pair p q v ∧ Accepted Found.text? layout.dir p ∧ Accepted Found.text? layout.executable q

/-- What a member does to the fields of a layout. -/
def LayoutStep (key : String) (v : List Char) (f f' : LayoutFields) : Prop :=
  Fills "dir" (Accepted Found.text?) key v f.dir? f'.dir? ∧
    Fills "executable" (Accepted Found.text?) key v f.executable? f'.executable?

theorem layoutMember_means (f : LayoutFields) (key : String) :
    (f.member key).Means f key fun f' v => LayoutStep key v f f' := by
  unfold LayoutFields.member
  split
  · refine (Member.once_means (expect_means _ _) _ _ f key).congr fun f' v => ?_
    grind [LayoutStep, Fills, LayoutFields]
  · split
    · refine (Member.once_means (expect_means _ _) _ _ f key).congr fun f' v => ?_
      grind [LayoutStep, Fills, LayoutFields]
    · refine (Member.unknown_means f key).congr fun f' v => ?_
      grind [LayoutStep, Fills, LayoutFields]

theorem run_layoutStep_iff {ms : List (String × List Char)} {f : LayoutFields} :
    Run LayoutStep {} ms f ↔ Given "dir" (Accepted Found.text?) ms f.dir? ∧
      Given "executable" (Accepted Found.text?) ms f.executable? := by
  rw [← run_fills_iff, ← run_fills_iff]
  constructor
  · intro h
    exact ⟨h.map LayoutFields.dir? fun hstep => hstep.1,
      h.map LayoutFields.executable? fun hstep => hstep.2⟩
  · rintro ⟨hdir, hexecutable⟩
    have hfields : Run LayoutStep ⟨none, none⟩ ms ⟨f.dir?, f.executable?⟩ :=
      (hdir.prod hexecutable).map (fun x => (⟨x.1, x.2⟩ : LayoutFields)) fun hstep => hstep
    exact hfields

theorem toLayout_eq_ok_iff {f : LayoutFields} {rest : List Char} {layout : Layout} :
    f.toLayout rest = .ok layout ↔ f = ⟨some layout.dir, some layout.executable⟩ := by
  obtain ⟨_ | dir, _ | executable⟩ := f
  all_goals
    obtain ⟨dir', executable'⟩ := layout
    simp [LayoutFields.toLayout]

theorem exact_layoutMembers : Exact readLayoutMembers.read Anything fun layout t =>
    ∃ ms, Object ms ('\x7b' :: t) ∧ Given "dir" (Accepted Found.text?) ms (some layout.dir) ∧
      Given "executable" (Accepted Found.text?) ms (some layout.executable) := by
  have hjudge (f : LayoutFields) (rest : List Char) (layout : Layout) :
      f.toLayout rest = .ok layout ↔ f = ⟨some layout.dir, some layout.executable⟩ :=
    toLayout_eq_ok_iff
  refine (exact_check (exact_members layoutMember_means) hjudge).congr fun layout t => ?_
  constructor
  · rintro ⟨f, ⟨ms, body, hbody, hrun, rfl⟩, rfl⟩
    exact ⟨ms, ⟨body, hbody, rfl⟩, run_layoutStep_iff.1 hrun⟩
  · rintro ⟨ms, ⟨body, hbody, ht⟩, hgiven⟩
    exact ⟨_, ⟨ms, body, hbody, run_layoutStep_iff.2 hgiven, (List.cons.inj ht).2⟩, rfl⟩

theorem exact_layoutElements : Exact readLayoutElements.read Anything fun layout t =>
    ∃ p q, Pair p q ('[' :: t) ∧ Accepted Found.text? layout.dir p ∧
      Accepted Found.text? layout.executable q where
  found {text rest layout} h := by
    rw [readLayoutElements_eq] at h
    obtain ⟨⟨_ | dir, left⟩, hdir, hbehind⟩ := exists_of_bind_eq_ok h
    · cases hbehind
    obtain ⟨⟨_ | executable, left'⟩, hexecutable, hend⟩ := exists_of_bind_eq_ok hbehind
    · cases hend
    obtain ⟨last, hclose, hsame⟩ := exists_of_map_eq_ok hend
    cases hsame
    obtain ⟨lead, p, hlead, hp, rfl⟩ := (expect_means _ _).exists_of_readElement hdir
    obtain ⟨lead', q, hlead', hq, rfl⟩ := (expect_means _ _).exists_of_readElement hexecutable
    obtain ⟨_, ⟨b, hb, rfl⟩, rfl⟩ := exact_closeList.found (congrArg rests hclose)
    exact ⟨lead ++ (p ++ (lead' ++ (q ++ (b ++ [']'])))),
      ⟨p, q, ⟨lead, lead', b, hlead, hlead', hb, rfl⟩, hp, hq⟩, by simp⟩
  reads := by
    rintro t rest layout ⟨p, q, ⟨lead, lead', b, hlead, hlead', hb, ht⟩, hp, hq⟩ -
    obtain rfl := (List.cons.inj ht).2
    have hclose : closeList (b ++ [']'] ++ rest) = .ok rest :=
      ok_of_rests (exact_closeList.reads (a := ()) ⟨b, hb, rfl⟩ trivial)
    have hexecutable := (expect_means "a string" Found.text?).readElement hlead' hq
      (endsNumber_bracket hb rest)
    have hdir := (expect_means "path string" Found.text?).readElement hlead hp
      (hlead'.endsNumber (q ++ (b ++ ']' :: rest)))
    have htext : lead ++ (p ++ (lead' ++ (q ++ (b ++ [']'])))) ++ rest =
        lead ++ (p ++ (lead' ++ (q ++ (b ++ ']' :: rest)))) := by simp
    rw [htext, readLayoutElements_eq, readText, hdir]
    dsimp only [Except.bind]
    rw [readText, hexecutable]
    dsimp only
    rw [show b ++ ']' :: rest = b ++ [']'] ++ rest by simp, hclose]
    rfl

theorem readLayout_means : readLayout.Means LayoutMeaning where
  value := by
    rintro layout v (⟨ms, hobject, -⟩ | ⟨p, q, hpair, ⟨_, hp, -⟩, ⟨_, hq, -⟩⟩)
    · exact hobject.value
    · exact hpair.value (.scalar hp.scalar) (.scalar hq.scalar)
  exact := by
    refine ((exact_record exact_layoutMembers exact_layoutElements "struct ToolSpec").ends
      fun _ _ => trivial).congr fun layout t => ?_
    constructor
    · rintro ⟨b, v, hb, ⟨t, hobject, rfl⟩ | ⟨t, hpair, rfl⟩, rfl⟩
      · exact ⟨b, _, hb, .inl hobject, rfl⟩
      · exact ⟨b, _, hb, .inr hpair, rfl⟩
    · rintro ⟨b, v, hb, ⟨ms, ⟨body, hbody, rfl⟩, hgiven⟩ | ⟨p, q, hpair, hboth⟩, rfl⟩
      · exact ⟨b, _, hb, .inl ⟨_, ⟨ms, ⟨body, hbody, rfl⟩, hgiven⟩, rfl⟩, rfl⟩
      · obtain ⟨lead, lead', e, hlead, hlead', he, rfl⟩ := hpair
        exact ⟨b, _, hb, .inr ⟨_, ⟨p, q, ⟨lead, lead', e, hlead, hlead', he, rfl⟩, hboth⟩, rfl⟩, rfl⟩

theorem presents_layout : Presents SameLayout LayoutMeaning where
  keeps := by
    rintro layout v v' (⟨ms, hobject, hdir, hexecutable⟩ | ⟨p, q, hpair, hp, hq⟩)
      (⟨ms₁, ms', hobject₁, hobject', hsame⟩ | ⟨p₁, q₁, p', q', hpair₁, hpair', hsamep, hsameq⟩)
    · obtain rfl := hobject.unique hobject₁
      have htext := presents_accepted Found.text?
      exact .inl ⟨ms', hobject', hsame.given (by simp) htext hdir,
        hsame.given (by simp) htext hexecutable⟩
    · obtain ⟨_, -, rfl⟩ := hobject
      obtain ⟨_, _, _, _, _, _, hother⟩ := hpair₁
      cases (List.cons.inj hother).1
    · obtain ⟨_, -, rfl⟩ := hobject₁
      obtain ⟨_, _, _, _, _, _, hother⟩ := hpair
      cases (List.cons.inj hother).1
    · have hvalue {a : String} {v : List Char} : Accepted Found.text? a v → Value v :=
        (expect_means "a string" Found.text?).value
      obtain ⟨rfl, rfl⟩ := hpair.unique hpair₁ (hvalue hp) (hvalue hq) hsamep.value hsameq.value
      exact .inr ⟨p', q', hpair', (presents_accepted _).keeps hp hsamep,
        (presents_accepted _).keeps hq hsameq⟩
  self := by
    rintro layout v (⟨ms, hobject, hdir, hexecutable⟩ | ⟨p, q, hpair, hp, hq⟩)
    · refine .inl ⟨ms, ms, hobject, hobject, .refl fun m hm hknown => ?_⟩
      obtain ⟨key, w⟩ := m
      obtain rfl | rfl : key = "dir" ∨ key = "executable" := by simpa using hknown
      · exact hdir.same_self (presents_accepted _) hm
      · exact hexecutable.same_self (presents_accepted _) hm
    · exact .inr ⟨p, q, p, q, hpair, hpair, (presents_accepted _).self hp, (presents_accepted _).self hq⟩

end Layouts

section Tools

/-- Two texts of one table of tools. The entries may come in another order if no name is given
again; else the last of a name counts, and they have to stay in theirs. -/
def SameTools (v v' : List Char) : Prop :=
  ∃ ms ms' order, Object ms v ∧ Object ms' v' ∧
    List.Forall₂ (fun m m' => m.1 = m'.1 ∧ SameLayout m.2 m'.2) ms order ∧
    (order = ms' ∨ order.Perm ms' ∧ (ms.map Prod.fst).Nodup)

/-- Members of which each means an entry of a table. -/
def EntriesMeaning (entries : List (String × Layout)) (ms : List (String × List Char)) : Prop :=
  List.Forall₂ (fun m e => m.1 = e.1 ∧ LayoutMeaning e.2 m.2) ms entries

def TableMeaning (table : ToolTable) (v : List Char) : Prop :=
  ∃ ms entries, Object ms v ∧ EntriesMeaning entries ms ∧ ToolTable.empty.insertAll entries = table

/-- What a member does to a table of tools. -/
def EntryStep (key : String) (v : List Char) (table table' : ToolTable) : Prop :=
  ∃ layout, LayoutMeaning layout v ∧ table.insert key layout = table'

variable {table table' : ToolTable} {ms ms' : List (String × List Char)}
  {entries : List (String × Layout)}

theorem run_entryStep_iff : Run EntryStep table ms table' ↔
    ∃ entries, EntriesMeaning entries ms ∧ table.insertAll entries = table' := by
  constructor
  · intro h
    induction h with
    | nil => exact ⟨[], .nil, rfl⟩
    | @cons _ _ _ key v ms hstep _ ih =>
      obtain ⟨layout, hlayout, rfl⟩ := hstep
      obtain ⟨entries, hentries, rfl⟩ := ih
      exact ⟨(key, layout) :: entries, .cons ⟨rfl, hlayout⟩ hentries, rfl⟩
  · rintro ⟨entries, hentries, rfl⟩
    induction hentries generalizing table with
    | nil => exact .nil
    | @cons m e ms entries hm _ ih =>
      obtain ⟨key, v⟩ := m
      obtain ⟨_, layout⟩ := e
      obtain ⟨rfl, hlayout⟩ := hm
      exact .cons ⟨layout, hlayout, rfl⟩ ih

theorem readTable_means : readTable.Means TableMeaning where
  value := by
    rintro table v ⟨ms, entries, hobject, -⟩
    exact hobject.value
  exact := by
    have hmembers := exact_members (s := ToolTable.empty) fun table key =>
      Member.known_means (readLayout_means.map (table.insert key)) table key
    refine ⟨fun {text rest table} h => ?_, ?_⟩
    · obtain ⟨b, hb, htext⟩ := exists_blank text
      simp only [readTable] at h
      generalize skipBlank text = seen at h htext
      subst htext
      split at h
      · obtain ⟨t, ⟨ms, body, hbody, hrun, rfl⟩, rfl⟩ := hmembers.found h
        obtain ⟨entries, hentries, rfl⟩ := run_entryStep_iff.1 hrun
        exact ⟨b ++ '\x7b' :: (body ++ ['\x7d']),
          ⟨b, _, hb, ⟨ms, entries, ⟨body, hbody, rfl⟩, hentries, rfl⟩, rfl⟩, by simp⟩
      · obtain ⟨fault, hfault⟩ := exists_expect_none_error (α := ToolTable) "a map" seen
        cases h.symm.trans hfault
    · rintro _ rest table ⟨b, _, hb, ⟨ms, entries, ⟨body, hbody, rfl⟩, hentries, rfl⟩, rfl⟩ -
      have hrun : Run EntryStep .empty ms _ := run_entryStep_iff.2 ⟨entries, hentries, rfl⟩
      have hseen := hb.skipBlank_cons (c := '\x7b') rfl (body ++ ['\x7d'] ++ rest)
      rw [List.append_assoc, List.cons_append]
      simp only [readTable, hseen]
      exact hmembers.reads ⟨ms, body, hbody, hrun, rfl⟩ trivial

theorem EntriesMeaning.names (h : EntriesMeaning entries ms) :
    entries.map Prod.fst = ms.map Prod.fst := by
  induction h with
  | nil => rfl
  | cons hm _ ih => rw [List.map_cons, List.map_cons, hm.1, ih]

theorem EntriesMeaning.same {order : List (String × List Char)} (h : EntriesMeaning entries ms)
    (hsame : List.Forall₂ (fun m m' => m.1 = m'.1 ∧ SameLayout m.2 m'.2) ms order) :
    EntriesMeaning entries order := by
  induction hsame generalizing entries with
  | nil => exact h
  | cons hm _ ih =>
    obtain _ | ⟨he, hlater⟩ := h
    exact .cons ⟨hm.1.symm.trans he.1, presents_layout.keeps he.2 hm.2⟩ (ih hlater)

theorem EntriesMeaning.same_self (h : EntriesMeaning entries ms) :
    List.Forall₂ (fun m m' => m.1 = m'.1 ∧ SameLayout m.2 m'.2) ms ms := by
  induction h with
  | nil => exact .nil
  | cons hm _ ih => exact .cons ⟨rfl, presents_layout.self hm.2⟩ ih

theorem presents_table : Presents SameTools TableMeaning where
  keeps := by
    rintro table v v' ⟨ms, entries, hobject, hentries, rfl⟩
      ⟨ms₁, ms', order, hobject₁, hobject', hsame, horder⟩
    obtain rfl := hobject.unique hobject₁
    have hmeans := hentries.same hsame
    obtain rfl | ⟨hperm, hnames⟩ := horder
    · exact ⟨order, entries, hobject', hmeans, rfl⟩
    · obtain ⟨entries', hmeans', hperm'⟩ := List.perm_comp_forall₂ hperm.symm hmeans
      rw [← hentries.names] at hnames
      exact ⟨ms', entries', hobject', hmeans', ToolTable.insertAll_eq_of_perm hperm'.symm hnames⟩
  self := by
    rintro table v ⟨ms, entries, hobject, hentries, -⟩
    exact ⟨ms, ms, ms, hobject, hobject, hentries.same_self, .inl rfl⟩

end Tools

section Settings

/-- The members that a configuration knows. -/
def settingNames : List String := ["base_dir", "timeout_secs", "chdir_to_tool", "tools"]

/-- Two texts of one setting. -/
def SameSetting (name : String) : List Char → List Char → Prop :=
  if name = "tools" then SameTools else SameScalar

/-- Two texts of one configuration, both of them objects. -/
def SameConfig (v v' : List Char) : Prop :=
  ∃ ms ms', Object ms v ∧ Object ms' v' ∧ SameMembers settingNames SameSetting ms ms'

/-- The count of seconds that is meant by a number, which must not be negative. -/
def Counts : Option Int → Option UInt64 → Prop
  | none, count? => count? = none
  | some n, count? => 0 ≤ n ∧ count? = some (UInt64.ofNat n.toNat)

def TimeoutMeaning (count? : Option UInt64) (v : List Char) : Prop :=
  ∃ seconds?, Accepted (orNull Found.integer?) seconds? v ∧ Counts seconds? count?

/-- A table of tools of which no two have names that agree up to case. -/
def ToolsMeaning (tools : ToolTable) (v : List Char) : Prop :=
  ∃ table, TableMeaning table v ∧ table.ambiguous? = none ∧ table = tools

/-- What the members of an object say about the fields of a configuration. -/
structure FieldsMeaning (f : Fields) (ms : List (String × List Char)) : Prop where
  baseDir : Given "base_dir" (Accepted (orNull Found.text?)) ms f.baseDir?
  timeoutSecs : Given "timeout_secs" TimeoutMeaning ms f.timeoutSecs?
  chdirToTool : Given "chdir_to_tool" (Accepted Found.boolean?) ms f.chdirToTool?
  tools : Given "tools" ToolsMeaning ms f.tools?

/-- What a member does to the fields of a configuration. -/
def ConfigStep (key : String) (v : List Char) (f f' : Fields) : Prop :=
  Fills "base_dir" (Accepted (orNull Found.text?)) key v f.baseDir? f'.baseDir? ∧
    Fills "timeout_secs" TimeoutMeaning key v f.timeoutSecs? f'.timeoutSecs? ∧
    Fills "chdir_to_tool" (Accepted Found.boolean?) key v f.chdirToTool? f'.chdirToTool? ∧
    Fills "tools" ToolsMeaning key v f.tools? f'.tools?

theorem readTimeout_means : readTimeout.Means TimeoutMeaning := by
  refine (expect_means "u64" (orNull Found.integer?)).check fun seconds? rest count? => ?_
  cases seconds? with
  | none => simp [Counts, eq_comm]
  | some n =>
    dsimp only [Counts]
    split
    · simp
      omega
    · simp [eq_comm]
      omega

theorem readTools_means (place : List Char → List Char) : (readTools place).Means ToolsMeaning := by
  refine readTable_means.check fun table rest tools => ?_
  cases hrepeat : table.ambiguous? with
  | none => simp
  | some name => simp

theorem configMember_means (f : Fields) (key : String) :
    (f.member key).Means f key fun f' v => ConfigStep key v f f' := by
  unfold Fields.member
  split
  · refine (Member.once_means (expect_means _ _) _ _ f key).congr fun f' v => ?_
    grind [ConfigStep, Fills, Fields]
  split
  · refine (Member.once_means readTimeout_means _ _ f key).congr fun f' v => ?_
    grind [ConfigStep, Fills, Fields]
  split
  · refine (Member.once_means (expect_means _ _) _ _ f key).congr fun f' v => ?_
    grind [ConfigStep, Fills, Fields]
  split
  · refine (Member.once_means (readTools_means _) _ _ f key).congr fun f' v => ?_
    grind [ConfigStep, Fills, Fields]
  · refine (Member.unknown_means f key).congr fun f' v => ?_
    grind [ConfigStep, Fills, Fields]

variable {f : Fields} {ms ms' : List (String × List Char)}

theorem run_configStep_iff : Run ConfigStep {} ms f ↔ FieldsMeaning f ms := by
  constructor
  · intro h
    exact ⟨run_fills_iff.1 (h.map Fields.baseDir? fun hstep => hstep.1),
      run_fills_iff.1 (h.map Fields.timeoutSecs? fun hstep => hstep.2.1),
      run_fills_iff.1 (h.map Fields.chdirToTool? fun hstep => hstep.2.2.1),
      run_fills_iff.1 (h.map Fields.tools? fun hstep => hstep.2.2.2)⟩
  · rintro ⟨hbase, htimeout, hchdir, htools⟩
    have hlast := (run_fills_iff.2 hchdir).prod (run_fills_iff.2 htools)
    have hall := (run_fills_iff.2 hbase).prod ((run_fills_iff.2 htimeout).prod hlast)
    have hfields : Run ConfigStep ⟨none, none, none, none⟩ ms
        ⟨f.baseDir?, f.timeoutSecs?, f.chdirToTool?, f.tools?⟩ :=
      hall.map (fun x => (⟨x.1, x.2.1, x.2.2.1, x.2.2.2⟩ : Fields)) fun hstep => hstep
    exact hfields

theorem exact_configMembers : Exact readConfigMembers.read Anything fun config t =>
    ∃ ms f, Object ms ('\x7b' :: t) ∧ FieldsMeaning f ms ∧ f.toConfig = config := by
  have hjudge (f : Fields) (rest : List Char) (config : HostConfig) :
      (Except.ok f.toConfig : Except Fault HostConfig) = .ok config ↔ f.toConfig = config := by
    simp
  refine (exact_check (exact_members configMember_means) hjudge).congr fun config t => ?_
  constructor
  · rintro ⟨f, ⟨ms, body, hbody, hrun, rfl⟩, hf⟩
    exact ⟨ms, f, ⟨body, hbody, rfl⟩, run_configStep_iff.1 hrun, hf⟩
  · rintro ⟨ms, f, ⟨body, hbody, ht⟩, hmeans, hf⟩
    exact ⟨f, ⟨ms, body, hbody, run_configStep_iff.2 hmeans, (List.cons.inj ht).2⟩, hf⟩

theorem presents_tools : Presents (SameSetting "tools") ToolsMeaning := by
  rw [SameSetting, if_pos rfl]
  exact presents_table.judged _

theorem presents_setting {α : Type} {name : String} {Meaning : α → List Char → Prop}
    (hname : name ≠ "tools") (h : Presents SameScalar Meaning) : Presents (SameSetting name) Meaning := by
  rwa [SameSetting, if_neg hname]

theorem presents_baseDir : Presents (SameSetting "base_dir") (Accepted (orNull Found.text?)) :=
  presents_setting (by decide) (presents_accepted _)

theorem presents_timeout : Presents (SameSetting "timeout_secs") TimeoutMeaning :=
  presents_setting (by decide) ((presents_accepted _).judged _)

theorem presents_flag : Presents (SameSetting "chdir_to_tool") (Accepted Found.boolean?) :=
  presents_setting (by decide) (presents_accepted _)

theorem FieldsMeaning.same (h : FieldsMeaning f ms)
    (hsame : SameMembers settingNames SameSetting ms ms') : FieldsMeaning f ms' where
  baseDir := hsame.given (by decide) presents_baseDir h.baseDir
  timeoutSecs := hsame.given (by decide) presents_timeout h.timeoutSecs
  chdirToTool := hsame.given (by decide) presents_flag h.chdirToTool
  tools := hsame.given (by decide) presents_tools h.tools

theorem FieldsMeaning.same_self (h : FieldsMeaning f ms) :
    SameMembers settingNames SameSetting ms ms := by
  refine .refl fun m hm hknown => ?_
  obtain ⟨key, v⟩ := m
  obtain rfl | rfl | rfl | rfl : key = "base_dir" ∨ key = "timeout_secs" ∨ key = "chdir_to_tool" ∨
      key = "tools" := by simpa [settingNames] using hknown
  · exact h.baseDir.same_self presents_baseDir hm
  · exact h.timeoutSecs.same_self presents_timeout hm
  · exact h.chdirToTool.same_self presents_flag hm
  · exact h.tools.same_self presents_tools hm

/-- A text holds a value, and blanks around it. -/
def Holds (text : String) (v : List Char) : Prop :=
  ∃ b b', Blank b ∧ Blank b' ∧ text.toList = b ++ (v ++ b')

theorem Holds.unique {text : String} {v w : List Char} (h : Holds text v) (h' : Holds text w)
    (hv : Value v) (hw : Value w) : v = w := by
  obtain ⟨b, e, hb, he, htext⟩ := h
  obtain ⟨b', e', hb', he', htext'⟩ := h'
  have hends {e : List Char} (he : Blank e) : EndsNumber e := by
    have hnil : EndsNumber (e ++ []) := he.endsNumber nofun
    rwa [List.append_nil] at hnil
  exact (unique_value hb hb' hv hw (hends he) (hends he') (htext.symm.trans htext')).1

/-- A text that states a configuration, and one that states the same. -/
def Restates (text text' : String) : Prop :=
  ∃ v v', Holds text v ∧ Holds text' v' ∧ SameConfig v v'

end Settings

end Config

namespace HostConfig
open Json Config
variable {text : String} {config : HostConfig}

/-- An object that states a configuration is taken for it. -/
theorem ofJson_of_fields {v : List Char} {ms : List (String × List Char)} {f : Fields}
    (htext : Holds text v) (hobject : Object ms v) (hmeans : FieldsMeaning f ms) :
    ofJson text = .ok f.toConfig := by
  obtain ⟨b, b', hb, hb', htext⟩ := htext
  obtain ⟨body, hbody, rfl⟩ := hobject
  have hread : readConfigMembers.read (body ++ ['\x7d'] ++ b') = .ok (f.toConfig, b') :=
    exact_configMembers.reads ⟨ms, f, ⟨body, hbody, rfl⟩, hmeans, rfl⟩ trivial
  have hrest : skipBlank b' = [] := by
    have hempty := hb'.skipBlank []
    rwa [List.append_nil] at hempty
  refine ofJson_eq_ok_iff.2 (readDocument_eq_ok_iff.2 ⟨b', ?_, hrest⟩)
  rw [htext, readConfig, List.cons_append, record_of_brace (hb.skipBlank_cons rfl _)]
  exact hread

theorem exists_fields_of_ofJson (h : ofJson text = .ok config)
    (hobject : (skipBlank text.toList).head? = some '\x7b') :
    ∃ v ms f, Holds text v ∧ Object ms v ∧ FieldsMeaning f ms ∧ f.toConfig = config := by
  obtain ⟨rest, hread, hrest⟩ := readDocument_eq_ok_iff.1 (ofJson_eq_ok_iff.1 h)
  obtain ⟨left, hbrace⟩ := List.head?_eq_some_iff.1 hobject
  rw [readConfig, record_of_brace hbrace] at hread
  obtain ⟨t, ⟨ms, f, hmembers, hmeans, hf⟩, rfl⟩ := exact_configMembers.found hread
  obtain ⟨b, hb, htext⟩ := exists_blank text.toList
  obtain ⟨b', hb', hblank⟩ := exists_blank rest
  rw [hrest, List.append_nil] at hblank
  rw [hbrace] at htext
  exact ⟨'\x7b' :: t, ms, f, ⟨b, rest, hb, hblank ▸ hb', htext⟩, hmembers, hmeans, hf⟩

/-- An object that describes a configuration describes it still, and no other, when its members and
those of its tools come in another order, when members that nobody asks for come or go, when strings
and keys are spelled in another way and when the blanks between them change. Any text of a
configuration can be restated so. -/
theorem restated_text_gives_same_config (h : ofJson text = .ok config)
    (hobject : (skipBlank text.toList).head? = some '\x7b') :
    Restates text text ∧ ∀ other, Restates text other → ofJson other = .ok config := by
  obtain ⟨v, ms, f, htext, hmembers, hmeans, rfl⟩ := exists_fields_of_ofJson h hobject
  refine ⟨⟨v, v, htext, htext, ms, ms, hmembers, hmembers, hmeans.same_self⟩, ?_⟩
  rintro other ⟨w, v', htext₁, hother, ms₁, ms', hmembers₁, hmembers', hsame⟩
  obtain rfl := htext.unique htext₁ hmembers.value hmembers₁.value
  obtain rfl := hmembers.unique hmembers₁
  exact ofJson_of_fields hother hmembers' (hmeans.same hsame)

/-- A configuration with one tool. -/
def statedText : String := "\x7b\"chdir_to_tool\":true,\"tools\":\x7b\"a\":[\"d\",\"x\"]\x7d\x7d"

/-- The same with its members exchanged, another one before them, blanks, and escapes in two strings. -/
def restatedText : String :=
  " \x7b\"more\":[], \"tools\":\x7b\"\\u0061\":[\"d\",\"\\u0078\"]\x7d,\"chdir_to_tool\":true\x7d\n"

theorem restates_stated : Restates statedText restatedText := by
  have hspace : Blank [' '] := by simp [Blank, isBlank]
  have hnewline : Blank ['\n'] := by simp [Blank, isBlank]
  have hcomma : Lead false [','] := .next .nil .nil
  have hcommaSpace : Lead false [',', ' '] := .next .nil hspace
  have hplain (s : String) (hs : ∀ c ∈ s.toList, c ≠ '"' ∧ c ≠ '\\' ∧ isControl c = false) :
      Literal s ('"' :: (s.toList ++ ['"'])) := literal_self hs
  have hcode (c d e : Char) (h : hexValue? '0' '0' d e = some c.toNat) :
      Literal (String.ofList [c]) ['"', '\\', 'u', '0', '0', d, e, '"'] :=
    ⟨_, by rw [String.toList_ofList]; exact .escape (.code ⟨h⟩) .nil, rfl⟩
  have hlabel {s : String} {t : List Char} (hs : Literal s t) : Labelled s (t ++ [':']) :=
    ⟨t, [], [], hs, .nil, .nil, rfl⟩
  have hflag : SameScalar ['t', 'r', 'u', 'e'] ['t', 'r', 'u', 'e'] := .inl ⟨.word .true, rfl⟩
  have hd : SameScalar _ _ := .inr ⟨"d", hplain "d" (by simp [isControl]), hplain "d" (by simp [isControl])⟩
  have hx : SameScalar _ _ :=
    .inr ⟨"x", hplain "x" (by simp [isControl]), hcode 'x' '7' '8' (by decide)⟩
  have hx' : Value ['"', '\\', 'u', '0', '0', '7', '8', '"'] :=
    .scalar (.string (hcode 'x' '7' '8' (by decide)).quoted)
  have hpair (p q : List Char) : Pair p q ('[' :: (p ++ (',' :: (q ++ [']'])))) :=
    ⟨[], [','], [], .first .nil, hcomma, .nil, rfl⟩
  -- the tool in the one text and in the other
  have hlayout : SameLayout _ _ := .inr ⟨_, _, _, _, hpair _ _, hpair _ _, hd, hx⟩
  have htool : Object [("a", _)] _ :=
    ⟨_, .member (.first .nil) (hlabel (hplain "a" (by simp [isControl])))
      ((hpair _ _).value hd.value hx.value) (.ended .nil), rfl⟩
  have htool' : Object [("a", _)] _ :=
    ⟨_, .member (.first .nil) (hlabel (hcode 'a' '6' '1' (by decide)))
      ((hpair _ _).value hd.value hx') (.ended .nil), rfl⟩
  have hentry {p p' : List Char} (h : SameLayout p p') :
      List.Forall₂ (fun m m' => m.1 = m'.1 ∧ SameLayout m.2 m'.2) [("a", p)] [("a", p')] :=
    .cons ⟨rfl, h⟩ .nil
  have htools : SameTools _ _ := ⟨_, _, _, htool, htool', hentry hlayout, .inl rfl⟩
  -- the members around it
  have hmembers : Object [("chdir_to_tool", _), ("tools", _)] _ :=
    ⟨_, .member (.first .nil) (hlabel (hplain "chdir_to_tool" (by simp [isControl]))) hflag.value
      (.member hcomma (hlabel (hplain "tools" (by simp [isControl]))) htool.value (.ended .nil)), rfl⟩
  have hmore : Value ['[', ']'] := @Derives.bracketed .list _ (.ended .nil)
  have hmembers' : Object [("more", _), ("tools", _), ("chdir_to_tool", _)] _ :=
    ⟨_, .member (.first .nil) (hlabel (hplain "more" (by simp [isControl]))) hmore
      (.member hcommaSpace (hlabel (hplain "tools" (by simp [isControl]))) htool'.value
        (.member hcomma (hlabel (hplain "chdir_to_tool" (by simp [isControl]))) hflag.value
          (.ended .nil))), rfl⟩
  have hsame {p q v v' : List Char} (hv : SameScalar p p) (htools : SameTools v v') :
      SameMembers settingNames SameSetting [("chdir_to_tool", p), ("tools", v)]
        [("more", q), ("tools", v'), ("chdir_to_tool", p)] :=
    ⟨[("chdir_to_tool", p), ("tools", v')], .swap _ _ _,
      .cons ⟨rfl, hv⟩ (.cons ⟨rfl, htools⟩ .nil)⟩
  refine ⟨_, _, ⟨[], [], .nil, .nil, ?_⟩, ⟨[' '], ['\n'], hspace, hnewline, ?_⟩,
    _, _, hmembers, hmembers', hsame hflag htools⟩
  · decide +kernel
  · decide +kernel

/-- What both of them describe. -/
def statedConfig : HostConfig :=
  ⟨none, none, true, ToolTable.empty.insertAll [("a", ⟨"d", "x"⟩)]⟩

theorem stated_config_restated :
    ofJson statedText = .ok statedConfig ∧ ofJson restatedText = .ok statedConfig := by
  have hstated : ofJson statedText = .ok statedConfig := by decide +kernel
  have hobject : (skipBlank statedText.toList).head? = some '\x7b' := by decide +kernel
  exact ⟨hstated, (restated_text_gives_same_config hstated hobject).2 _ restates_stated⟩

end HostConfig
end ToolHost
