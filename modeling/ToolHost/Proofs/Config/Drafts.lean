import ToolHost.Config.Reader
import ToolHost.Proofs.Json.Agreement
import ToolHost.Proofs.Tool.Names

/-! Configurations as they are written, before the names of their tools have been compared. A text
that is one is refused for the names of its tools alone: if two of them agree up to case, the least
name that agrees with a smaller one is said to be given twice. -/
namespace ToolHost

open Json

/-- A configuration as it is written. -/
structure Draft where
  /-- What it says beside its tools. -/
  settings : HostConfig
  /-- The tools as they follow one another, those included that are given again. -/
  entries : List (String × Layout)
  deriving DecidableEq, Repr

namespace Draft

/-- The configuration that is meant. Of several tools of one name the last counts. -/
def config (d : Draft) : HostConfig :=
  { d.settings with tools := ToolTable.empty.insertAll d.entries }

def names (d : Draft) : List String := d.entries.map Prod.fst

/-- Two different names agree up to case. -/
def Clashes (d : Draft) : Prop :=
  ∃ a ∈ d.names, ∃ b ∈ d.names, a ≠ b ∧ Text.sameIgnoringCase a b

end Draft

namespace Config

/-- How an object that holds tools takes its members. -/
def entryMember (entries : List (String × Layout)) (key : String) :
    Member (List (String × Layout)) :=
  .known (readLayout.map fun layout => entries ++ [(key, layout)])

/-- Reads tools one after the other. -/
def readEntries : Reader (List (String × Layout)) where
  read text :=
    match skipBlank text with
    | '\x7b' :: rest => (members entryMember []).read rest
    | text => (expect "a map" fun _ => none).read text
  shortens {text rest entries} h := by
    refine Nat.lt_of_lt_of_le ?_ (skipBlank_length text)
    split at h
    · rename_i heq
      rw [heq]
      exact Nat.lt_succ_of_lt (Reader.shortens _ h)
    · exact Reader.shortens _ h

/-- The fields of a draft met so far. -/
structure DraftFields where
  /-- All but the tools. -/
  fields : Fields := {}
  entries? : Option (List (String × Layout)) := none

namespace DraftFields

/-- How an object that is a draft takes its members: tools as they come, all others as always. -/
def member (d : DraftFields) (key : String) : Member DraftFields :=
  if key = "tools" then .once d.entries? readEntries fun v => { d with entries? := some v }
  else (d.fields.member key).map fun fields => { d with fields := fields }

def toDraft (d : DraftFields) : Draft := ⟨d.fields.toConfig, d.entries?.getD []⟩

end DraftFields

def readDraftMembers : Reader Draft := (members DraftFields.member {}).map DraftFields.toDraft

def readDraftElements : Reader Draft where
  read text :=
    (readElement true readBaseDir text).bind fun (baseDir?, rest) =>
      (readElement false readTimeout rest).bind fun (timeoutSecs?, rest) =>
        (readElement false readFlag rest).bind fun (chdirToTool?, rest) =>
          (readElement false readEntries rest).bind fun (entries?, rest) =>
            (closeList rest).map fun rest =>
              (DraftFields.toDraft ⟨⟨baseDir?, timeoutSecs?, chdirToTool?, none⟩, entries?⟩, rest)
  shortens {text rest draft} h := by
    obtain ⟨_, hb, h⟩ := exists_of_bind_eq_ok h
    obtain ⟨_, ht, h⟩ := exists_of_bind_eq_ok h
    obtain ⟨_, hf, h⟩ := exists_of_bind_eq_ok h
    obtain ⟨⟨entries?, left⟩, he, h⟩ := exists_of_bind_eq_ok h
    have hleft : left.length ≤ text.length := Nat.le_trans (readElement_length he)
      (Nat.le_trans (readElement_length hf)
        (Nat.le_trans (readElement_length ht) (readElement_length hb)))
    dsimp only at h
    cases hc : closeList left with
    | error fault =>
      rw [hc] at h
      cases h
    | ok last =>
      rw [hc] at h
      cases h
      exact Nat.lt_of_lt_of_le (closeList_length hc) hleft

def readDraft : Reader Draft := record "struct HostConfig" readDraftMembers readDraftElements

end Config

/-- The draft in a JSON text. A text that is none is wrong for some other reason than the names of
its tools. -/
def Draft.ofJson (text : String) : Except Fault Draft := readDocument Config.readDraft text.toList

namespace Config

/-- What becomes of tools when their names are compared. -/
def judgeEntries (entries : List (String × Layout)) : Except Cause ToolTable :=
  match (ToolTable.empty.insertAll entries).ambiguous? with
  | none => .ok (ToolTable.empty.insertAll entries)
  | some name => .error (.duplicateTool name)

def DraftFields.judge (d : DraftFields) : Except Cause Fields :=
  (judgeOption judgeEntries d.entries?).map fun tools? => { d.fields with tools? := tools? }

def judgeDraft (d : Draft) : Except Cause HostConfig :=
  (judgeEntries d.entries).map fun tools => { d.settings with tools := tools }

/-- A table is what becomes of its entries. -/
theorem readTable_agrees (text : List Char) :
    Agrees (fun entries => .ok (ToolTable.empty.insertAll entries)) (readEntries.read text)
      (readTable.read text) := by
  by_cases hbrace : ∃ rest, skipBlank text = '\x7b' :: rest
  · obtain ⟨rest, hrest⟩ := hbrace
    simp only [readEntries, readTable, hrest]
    show Agrees _ (readMembers entryMember true [] rest) (readMembers _ true ToolTable.empty rest)
    refine readMembers_agrees ?_ ?_ ?_ true rest
    · intro entries cause h
      cases h
    · intro entries table h key
      cases h
      refine .known fun text => (Agrees.refl _).read_map fun layout => ?_
      simp [ToolTable.insertAll, Except.map]
    · rfl
  · rw [not_exists] at hbrace
    obtain ⟨fault, hfault⟩ :=
      exists_expect_none_error (α := List (String × Layout)) "a map" (skipBlank text)
    obtain ⟨fault', hfault'⟩ := exists_expect_none_error (α := ToolTable) "a map" (skipBlank text)
    simp only [readEntries, readTable]
    rw [hfault, hfault']
    exact .failed fault fault'

theorem readTools_agrees (place : List Char → List Char) (text : List Char) :
    Agrees judgeEntries (readEntries.read text) ((readTools place).read text) := by
  have htable := readTable_agrees text
  rw [readTools, Reader.read_check]
  generalize readEntries.read text = x, readTable.read text = y at htable
  cases htable with
  | failed fault fault' => exact .failed fault fault'
  | refused h => cases h
  | @passed entries table htable rest =>
    cases htable
    dsimp only [Except.bind]
    cases hrepeat : (ToolTable.empty.insertAll entries).ambiguous? with
    | none => exact .passed (by rw [judgeEntries, hrepeat]) rest
    | some name => exact .refused (by rw [judgeEntries, hrepeat]; rfl) rest

namespace DraftFields

variable {d : DraftFields} {f : Fields} {cause : Cause}

theorem judge_eq_ok_iff : d.judge = .ok f ↔ ∃ tools?, judgeOption judgeEntries d.entries? = .ok tools? ∧
    f = { d.fields with tools? := tools? } := by
  unfold judge
  cases judgeOption judgeEntries d.entries? with
  | error cause => simp [Except.map]
  | ok tools? => simp [Except.map, eq_comm]

/-- Tools that are refused were given. -/
theorem exists_of_judge_eq_error (h : d.judge = .error cause) :
    ∃ entries, d.entries? = some entries ∧ judgeEntries entries = .error cause := by
  unfold judge at h
  cases hentries : d.entries? with
  | none =>
    rw [hentries] at h
    cases h
  | some entries =>
    rw [hentries, judgeOption] at h
    cases hjudge : judgeEntries entries with
    | ok tools =>
      rw [hjudge] at h
      cases h
    | error other =>
      rw [hjudge] at h
      cases h
      exact ⟨entries, rfl, hjudge⟩

theorem judge_of_entries {entries : List (String × Layout)} (hentries : d.entries? = some entries)
    (h : judgeEntries entries = .error cause) : d.judge = .error cause := by
  rw [judge, hentries, judgeOption, h]
  rfl

theorem member_refuses (h : d.judge = .error cause) (key : String) :
    (d.member key).Refuses judge cause := by
  obtain ⟨entries, hentries, hcause⟩ := exists_of_judge_eq_error h
  unfold member
  split
  · intro reader hreader
    rw [hentries] at hreader
    cases hreader
  · refine Member.map_refuses (fun fields => ?_) _
    exact judge_of_entries (d := { d with fields := fields }) hentries hcause

theorem member_agrees (h : d.judge = .ok f) (key : String) :
    (d.member key).Agrees judge (f.member key) := by
  obtain ⟨tools?, htools, rfl⟩ := judge_eq_ok_iff.1 h
  have hset (fields : Fields) :
      judge { d with fields := fields } = .ok { fields with tools? := tools? } :=
    judge_eq_ok_iff.2 ⟨tools?, htools, rfl⟩
  by_cases hkey : key = "tools"
  · subst hkey
    show ((Member.once d.entries? readEntries _).Agrees judge (Member.once tools? _ _))
    cases hentries : d.entries? with
    | some entries =>
      rw [hentries, judgeOption] at htools
      cases hjudge : judgeEntries entries with
      | error cause =>
        rw [hjudge] at htools
        cases htools
      | ok tools =>
        rw [hjudge] at htools
        cases htools
        exact .repeated
    | none =>
      rw [hentries] at htools
      cases htools
      refine .known fun text => (readTools_agrees pastBrace text).read_map fun entries => ?_
      rw [judge, judgeOption]
      cases judgeEntries entries with
      | error cause => rfl
      | ok tools => rfl
  · rw [member, if_neg hkey]
    unfold Fields.member
    split
    · exact Member.once_agrees _ _ fun v => hset _
    · split
      · exact Member.once_agrees _ _ fun v => hset _
      · split
        · exact Member.once_agrees _ _ fun v => hset _
        · exact .unknown

/-- What is judged of the fields is judged of the draft. -/
theorem judgeDraft_toDraft (d : DraftFields) :
    judgeDraft d.toDraft = d.judge.map Fields.toConfig := by
  unfold judgeDraft judge toDraft
  cases d.entries? with
  | none => rfl
  | some entries =>
    rw [judgeOption, Option.getD_some]
    cases judgeEntries entries with
    | error cause => rfl
    | ok tools => rfl

end DraftFields

theorem readConfigMembers_agrees (text : List Char) :
    Agrees judgeDraft (readDraftMembers.read text) (readConfigMembers.read text) := by
  refine Agrees.read_map ?_ DraftFields.judgeDraft_toDraft
  refine readMembers_agrees ?_ ?_ ?_ true text
  · intro d cause h key
    exact DraftFields.member_refuses h key
  · intro d f h key
    exact DraftFields.member_agrees h key
  · rfl

/-- A list is over behind its last field. -/
theorem readConfigElements_eq (text : List Char) : readConfigElements.read text =
    (readElement true readBaseDir text).bind fun (baseDir?, rest) =>
      (readElement false readTimeout rest).bind fun (timeoutSecs?, rest) =>
        (readElement false readFlag rest).bind fun (chdirToTool?, rest) =>
          (readElement false (readTools pastBracket) rest).bind fun (tools?, rest) =>
            (closeList rest).map fun rest =>
              (Fields.toConfig ⟨baseDir?, timeoutSecs?, chdirToTool?, tools?⟩, rest) := by
  simp only [readConfigElements]
  cases readElement true readBaseDir text with
  | error fault => rfl
  | ok found =>
    dsimp only [Except.bind]
    cases readElement false readTimeout found.2 with
    | error fault => rfl
    | ok found =>
      dsimp only
      cases readElement false readFlag found.2 with
      | error fault => rfl
      | ok found =>
        dsimp only
        cases readElement false (readTools pastBracket) found.2 with
        | error fault => rfl
        | ok found => rfl

theorem readConfigElements_agrees (text : List Char) :
    Agrees judgeDraft (readDraftElements.read text) (readConfigElements.read text) := by
  rw [readConfigElements_eq]
  refine .after _ ?_
  rintro ⟨baseDir?, rest⟩ -
  refine .after _ ?_
  rintro ⟨timeoutSecs?, rest⟩ -
  refine .after _ ?_
  rintro ⟨chdirToTool?, rest⟩ -
  refine (readElement_agrees (readTools_agrees pastBracket) false rest).bind ?_ ?_
  · intro entries? tools? rest _ htools
    dsimp only
    cases closeList rest with
    | error fault => exact .failed fault fault
    | ok last =>
      refine .passed ?_ last
      rw [DraftFields.judgeDraft_toDraft, DraftFields.judge, htools]
      rfl
  · intro entries? cause hcause rest draft last hclose
    dsimp only at hclose
    cases hlast : closeList rest with
    | error fault =>
      rw [hlast] at hclose
      cases hclose
    | ok last =>
      rw [hlast] at hclose
      cases hclose
      rw [DraftFields.judgeDraft_toDraft, DraftFields.judge, hcause]
      rfl

theorem readConfig_agrees (text : List Char) :
    Agrees judgeDraft (readDraft.read text) (readConfig.read text) :=
  record_agrees readConfigMembers_agrees readConfigElements_agrees _ text

variable {d : Draft} {config : HostConfig} {cause : Cause} {text : String}

theorem judgeDraft_eq_ok_iff :
    judgeDraft d = .ok config ↔ d.config.tools.ambiguous? = none ∧ config = d.config := by
  rw [judgeDraft, judgeEntries, Draft.config]
  cases (ToolTable.empty.insertAll d.entries).ambiguous? with
  | none => simp [Except.map, eq_comm]
  | some name => simp [Except.map]

theorem judgeDraft_eq_error_iff : judgeDraft d = .error cause ↔
    ∃ name, d.config.tools.ambiguous? = some name ∧ cause = .duplicateTool name := by
  rw [judgeDraft, judgeEntries, Draft.config]
  cases (ToolTable.empty.insertAll d.entries).ambiguous? with
  | none => simp [Except.map]
  | some name => simp [Except.map, eq_comm]

/-- A draft of which no two names agree is taken for what it means. -/
theorem ofJson_of_draft (h : Draft.ofJson text = .ok d) (hnone : d.config.tools.ambiguous? = none) :
    HostConfig.ofJson text = .ok d.config := by
  have hjudge : judgeDraft d = .ok d.config := judgeDraft_eq_ok_iff.2 ⟨hnone, rfl⟩
  rw [HostConfig.ofJson, (readConfig_agrees text.toList).document_passed h hjudge]

theorem ofJson_of_draft_error {name : String} (h : Draft.ofJson text = .ok d)
    (hsome : d.config.tools.ambiguous? = some name) :
    ∃ position, HostConfig.ofJson text = .error ⟨.duplicateTool name, position⟩ := by
  have hjudge : judgeDraft d = .error (.duplicateTool name) :=
    judgeDraft_eq_error_iff.2 ⟨name, hsome, rfl⟩
  obtain ⟨fault, hfault, hcause⟩ := (readConfig_agrees text.toList).document_refused h hjudge
  refine ⟨fault.position text.toList, ?_⟩
  rw [HostConfig.ofJson, hfault, ← hcause]

/-- Whatever is taken for a configuration is the draft of one. -/
theorem exists_draft_of_ofJson (h : HostConfig.ofJson text = .ok config) :
    ∃ d, Draft.ofJson text = .ok d ∧ d.config.tools.ambiguous? = none ∧ config = d.config := by
  have hread : readDocument readConfig text.toList = .ok config := by
    rw [HostConfig.ofJson] at h
    cases hread : readDocument readConfig text.toList with
    | error fault =>
      rw [hread] at h
      cases h
    | ok other =>
      rw [hread] at h
      cases h
      rfl
  obtain ⟨d, hd, hjudge⟩ := (readConfig_agrees text.toList).exists_of_document hread
  exact ⟨d, hd, judgeDraft_eq_ok_iff.1 hjudge⟩

/-- No two tools of a configuration that was read have names that agree up to case. -/
theorem unambiguous_of_ofJson (h : HostConfig.ofJson text = .ok config) :
    config.tools.Unambiguous := by
  obtain ⟨d, -, hnone, rfl⟩ := exists_draft_of_ofJson h
  exact ToolTable.ambiguous?_eq_none_iff.1 hnone

end Config

namespace Draft
variable {d : Draft} {name : String}

theorem mem_names_config : name ∈ d.config.tools.names ↔ name ∈ d.names :=
  ToolTable.mem_names_insertAll_empty

theorem repeats_names_config :
    ToolTable.Repeats d.config.tools.names name ↔ ToolTable.Repeats d.names name := by
  simp only [ToolTable.Repeats, mem_names_config]

theorem clashes_iff : d.Clashes ↔ ¬ d.config.tools.Unambiguous := by
  simp only [Clashes, ToolTable.Unambiguous, mem_names_config]
  constructor
  · rintro ⟨a, ha, b, hb, hne, hsame⟩ h
    exact hne (h a ha b hb hsame)
  · intro h
    push Not at h
    obtain ⟨a, ha, b, hb, hsame, hne⟩ := h
    exact ⟨a, ha, b, hb, hne, hsame⟩

/-- The name that is given when a draft is refused: the least one that agrees with a smaller one up
to case, in whatever order the names come to be sorted. -/
structure RefusedFor (d : Draft) (name : String) : Prop where
  repeats : ToolTable.Repeats d.names name
  least : ∀ other, ToolTable.Repeats d.names other → name ≤ other
  sorted : ∀ order : List String, order.Perm d.config.tools.names →
    ToolTable.firstRepeat? [] (order.mergeSort fun a b => decide (a ≤ b)) = some name

theorem refusedFor_of_ambiguous? (h : d.config.tools.ambiguous? = some name) :
    d.RefusedFor name where
  repeats := repeats_names_config.1 (ToolTable.ambiguous?_eq_some_iff.1 h).1
  least := fun other hother =>
    (ToolTable.ambiguous?_eq_some_iff.1 h).2 other (repeats_names_config.2 hother)
  sorted := fun order horder => by rw [ToolTable.ambiguous?_of_perm horder, h]

end Draft

/-- A spelling of a tool's name leads to one entry at most, in whatever order they are gone
through. -/
structure HostConfig.FindsOne (config : HostConfig) (name : String) : Prop where
  one : ∀ e ∈ config.tools.entries, ∀ e' ∈ config.tools.entries,
    Text.sameIgnoringCase e.1 name → Text.sameIgnoringCase e'.1 name → e = e'
  anyOrder : ∀ entries : List (String × Layout), entries.Perm config.tools.entries →
    (entries.find? fun e => Text.sameIgnoringCase e.1 name).map Prod.snd = config.override? name
  found : ∀ layout, config.override? name = some layout ↔
    ∃ key, (key, layout) ∈ config.tools.entries ∧ Text.sameIgnoringCase key name

theorem HostConfig.findsOne_of_unambiguous {config : HostConfig} (h : config.tools.Unambiguous)
    (name : String) : config.FindsOne name where
  one := fun _ he _ he' hsame hsame' => h.eq_of_same he he' hsame hsame'
  anyOrder := fun _ hp => h.find?_of_perm hp name
  found := fun _ => h.find?_eq_some_iff

/-- A text that describes a configuration apart from the names of its tools is refused for these if
and only if two different ones agree up to case, and then for the least that agrees with a smaller
one. A name that is given again as it was is no reason: its last layout counts. In a configuration
that is read no name of a tool can be mistaken. -/
theorem repeated_tools_are_refused (text : String) :
    (∀ d, Draft.ofJson text = .ok d →
      ((∃ name position, HostConfig.ofJson text = .error ⟨.duplicateTool name, position⟩) ↔
        d.Clashes) ∧
      (∀ name position, HostConfig.ofJson text = .error ⟨.duplicateTool name, position⟩ →
        d.RefusedFor name) ∧
      (¬ d.Clashes → HostConfig.ofJson text = .ok d.config ∧
        ∀ name layout, (name, layout) ∈ d.config.tools.entries ↔
          d.entries.reverse.lookup name = some layout)) ∧
    ∀ config, HostConfig.ofJson text = .ok config →
      (∃ d, Draft.ofJson text = .ok d ∧ config = d.config) ∧
      ∀ name, config.FindsOne name := by
  refine ⟨fun d hd => ?_, fun config hconfig => ?_⟩
  · cases hrepeat : d.config.tools.ambiguous? with
    | none =>
      have hread := Config.ofJson_of_draft hd hrepeat
      have hclash : ¬ d.Clashes := by
        rw [Draft.clashes_iff, not_not]
        exact ToolTable.ambiguous?_eq_none_iff.1 hrepeat
      rw [hread]
      refine ⟨⟨?_, fun h => absurd h hclash⟩, ?_, fun _ => ⟨rfl, fun name layout => ?_⟩⟩
      · rintro ⟨name, position, h⟩
        cases h
      · intro name position h
        cases h
      · exact ToolTable.mem_insertAll_empty
    | some least =>
      obtain ⟨place, hread⟩ := Config.ofJson_of_draft_error hd hrepeat
      have hclash : d.Clashes := by
        rw [Draft.clashes_iff, ← ToolTable.ambiguous?_eq_none_iff, hrepeat]
        simp
      rw [hread]
      refine ⟨⟨fun _ => hclash, fun _ => ⟨least, place, rfl⟩⟩, ?_, fun h => absurd hclash h⟩
      intro name position h
      cases h
      exact Draft.refusedFor_of_ambiguous? hrepeat
  · obtain ⟨d, hd, -, rfl⟩ := Config.exists_draft_of_ofJson hconfig
    exact ⟨⟨d, hd, rfl⟩, HostConfig.findsOne_of_unambiguous (Config.unambiguous_of_ofJson hconfig)⟩

/-- Tools of which one is given three times, in two spellings, and another twice. -/
def spellingsText : String :=
  "\x7b\"tools\":\x7b\"b\":[\"x\",\"1\"],\"A\":[\"\",\"2\"],\"a\":[\"\",\"3\"],\"B\":[\"x\",\"4\"]," ++
    "\"a\":[\"\",\"5\"]\x7d\x7d"

def spellingsDraft : Draft :=
  ⟨.default, [("b", ⟨"x", "1"⟩), ("A", ⟨"", "2"⟩), ("a", ⟨"", "3"⟩), ("B", ⟨"x", "4"⟩),
    ("a", ⟨"", "5"⟩)]⟩

/-- They are refused, and the complaint is about `a`. -/
theorem spellings_are_refused : Draft.ofJson spellingsText = .ok spellingsDraft ∧
    ∃ position, HostConfig.ofJson spellingsText = .error ⟨.duplicateTool "a", position⟩ := by
  have hd : Draft.ofJson spellingsText = .ok spellingsDraft := by decide +kernel
  have hclash : spellingsDraft.Clashes :=
    ⟨"a", by decide +kernel, "A", by decide +kernel, by decide, by decide +kernel⟩
  have hrepeats : ToolTable.Repeats spellingsDraft.names "a" :=
    ⟨by decide +kernel, "A", by decide +kernel, by decide, by decide +kernel⟩
  obtain ⟨hiff, hname, -⟩ := (repeated_tools_are_refused spellingsText).1 _ hd
  obtain ⟨name, position, hread⟩ := hiff.2 hclash
  refine ⟨hd, position, ?_⟩
  have hrefused := hname name position hread
  have hleast : ∀ other ∈ spellingsDraft.names, (∃ smaller ∈ spellingsDraft.names,
      smaller < other ∧ Text.sameIgnoringCase smaller other) → "a" ≤ other := by
    decide +kernel
  have hge := hleast name hrefused.repeats.1 hrefused.repeats.2
  have heq : name = "a" := String.le_antisymm (hrefused.least "a" hrepeats) hge
  rw [← heq, hread]

end ToolHost
