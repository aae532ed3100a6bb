import Mathlib.Data.List.Basic
import ToolHost.Program.Arguments

/-! The words of a command line and what is read from them. Options may be spelled in two ways, and
a value stands apart from its option only if it does not look like one itself. Behind the tool
everything from the first plain word on is for the tool, as it stands. -/
namespace ToolHost.Program
variable {d d' : Draft} {pending : Pending} {seen : Bool} {option : Valued} {value : String}
  {rest : List String}

/-- The words that are never taken for an option: they begin with no hyphen, or are one. -/
def IsPlain (word : String) : Prop := word.toList.head? ≠ some '-' ∨ word = "-"

theorem shape_of_isPlain {word : String} (h : IsPlain word) : shape word = .plain := by
  rcases h with h | rfl
  · have hstart (rest : List Char) : word.toList ≠ '-' :: rest := by
      intro heq
      rw [heq] at h
      exact h rfl
    unfold shape
    split
    case h_4 => rfl
    all_goals exact absurd ‹_› (hstart _)
  · rfl

theorem shape_of_hyphens {word : String} {rest : List Char} (h : word.toList = '-' :: '-' :: rest)
    (hrest : rest ≠ []) :
    shape word = longShape (splitAtEquals rest).1 (splitAtEquals rest).2 := by
  obtain ⟨c, after, rfl⟩ := List.exists_cons_of_ne_nil hrest
  rw [shape, h]
  rfl

theorem splitAtEquals_append {name : List Char} (h : '=' ∉ name) (value : List Char) :
    splitAtEquals (name ++ '=' :: value) = (String.ofList name, some (String.ofList value)) := by
  have hname : ∀ c ∈ name, (c != '=') = true := fun c hc => by
    rw [bne_iff_ne]
    rintro rfl
    exact h hc
  rw [splitAtEquals, List.takeWhile_append_of_pos hname, List.dropWhile_append_of_pos hname]
  simp

/-- The word of an option whose value comes next. -/
def Valued.word (option : Valued) : String := "--" ++ option.name

theorem shape_word (option : Valued) : shape option.word = .valued option none := by
  cases option <;> rfl

theorem shape_word_append (option : Valued) (value : String) :
    shape (option.word ++ "=" ++ value) = .valued option (some value) := by
  have hlist : (option.word ++ "=" ++ value).toList =
      '-' :: '-' :: (option.name.toList ++ '=' :: value.toList) := by
    simp [Valued.word]
  have hname : '=' ∉ option.name.toList := by
    cases option <;> decide
  rw [shape_of_hyphens hlist (by simp), splitAtEquals_append hname, String.ofList_toList,
    String.ofList_toList]
  cases option <;> rfl

/-- What is pending may as well be settled before the next word is looked at. -/
theorem readWords_of_settle (h : d.settle pending = .ok d') (seen : Bool) (words : List String) :
    readWords d pending seen words = readWords d' .nothing seen words := by
  have hnext : d'.settle .nothing = .ok d' := rfl
  cases words with
  | nil => simp only [readWords, h, hnext]
  | cons word rest =>
    cases pending with
    | awaiting option => cases h
    | nothing | given | tool => simp only [readWords, readPlainly, h, hnext]

/-- An option as it is given: with its value in the same word or in the next one, or without any. -/
inductive Setting where
  | joined (option : Valued) (value : String)
  | apart (option : Valued) (value : String)
  | chdirToTool
  deriving DecidableEq, Repr

namespace Setting

def words : Setting → List String
  | joined option value => [option.word ++ "=" ++ value]
  | apart option value => [option.word, value]
  | chdirToTool => ["--chdir-to-tool"]

/-- The option that is given a value, if it is one with a value. -/
def option? : Setting → Option Valued
  | joined option _ | apart option _ => some option
  | chdirToTool => none

/-- The value for an option. -/
def value? (option : Valued) : Setting → Option String
  | joined other value | apart other value => if other = option then some value else none
  | chdirToTool => none

end Setting

/-- The values that an option may have. -/
def Valued.Accepts (value : String) : Valued → Prop
  | .config | .baseDir => value ≠ ""
  | .timeoutSecs => ∃ n, readSeconds value = .ok n
  | .line => True

/-- The value that settings have for an option. -/
def valueOf (settings : List Setting) (option : Valued) : Option String :=
  settings.findSome? (Setting.value? option)

/-- The number of seconds that a text stands for. -/
def seconds? (text : String) : Option UInt64 := (readSeconds text).toOption

namespace Setting
variable {setting other : Setting}

/-- A value in a word of its own must not look like an option. -/
def Valid : Setting → Prop
  | joined option value => option.Accepts value
  | apart option value => option.Accepts value ∧ IsPlain value
  | chdirToTool => True

theorem Valid.accepts (h : setting.Valid) (hv : setting.value? option = some value) :
    option.Accepts value := by
  cases setting with
  | joined other given =>
    rw [value?, Option.ite_none_right_eq_some] at hv
    obtain ⟨rfl, hv⟩ := hv
    cases hv
    exact h
  | apart other given =>
    rw [value?, Option.ite_none_right_eq_some] at hv
    obtain ⟨rfl, hv⟩ := hv
    cases hv
    exact h.1
  | chdirToTool => cases hv

theorem value?_eq_none (h : setting.option? ≠ some option) : setting.value? option = none := by
  cases setting with
  | joined other given | apart other given =>
    have hne : other ≠ option := by
      rintro rfl
      exact h rfl
    simp [value?, hne]
  | chdirToTool => rfl

end Setting

theorem valueOf_cons (setting : Setting) (settings : List Setting) (option : Valued) :
    valueOf (setting :: settings) option =
      (setting.value? option).or (valueOf settings option) := by
  rw [valueOf, List.findSome?_cons]
  cases setting.value? option <;> rfl

@[simp] theorem valueOf_nil (option : Valued) : valueOf [] option = none := rfl

theorem valueOf_eq_none {settings : List Setting}
    (h : some option ∉ settings.map Setting.option?) : valueOf settings option = none := by
  rw [valueOf, List.findSome?_eq_none_iff]
  intro setting hmem
  refine Setting.value?_eq_none fun hsome => h ?_
  rw [← hsome]
  exact List.mem_map_of_mem hmem

namespace Draft
variable {setting other : Setting} {settings : List Setting}

/-- What has been said when settings are given as well. -/
def plus (d : Draft) (settings : List Setting) : Draft :=
  { d with
    config? := d.config?.or (valueOf settings .config)
    baseDir? := d.baseDir?.or (valueOf settings .baseDir)
    timeoutSecs? := d.timeoutSecs?.or ((valueOf settings .timeoutSecs).bind seconds?)
    chdirToTool := d.chdirToTool || settings.contains .chdirToTool
    line? := d.line?.or (valueOf settings .line) }

/-- Nothing has been said yet of the option that is given. -/
def Lacks (d : Draft) (setting : Setting) : Prop :=
  match setting.option? with
  | some option => d.has option = false
  | none => d.chdirToTool = false

theorem plus_nil (d : Draft) : d.plus [] = d := by
  simp [plus, valueOf]

theorem plus_cons (hvalid : setting.Valid) (d : Draft) (settings : List Setting) :
    d.plus (setting :: settings) = (d.plus [setting]).plus settings := by
  have hseconds : ((setting.value? .timeoutSecs).or (valueOf settings .timeoutSecs)).bind seconds? =
      ((setting.value? .timeoutSecs).bind seconds?).or
        ((valueOf settings .timeoutSecs).bind seconds?) := by
    cases hv : setting.value? .timeoutSecs with
    | none => rfl
    | some value =>
      obtain ⟨n, hn⟩ := hvalid.accepts hv
      simp [seconds?, hn, Except.toOption]
  simp only [plus, valueOf_cons, valueOf_nil, Option.or_none, hseconds, Option.or_assoc,
    Bool.or_assoc, List.contains_cons, List.contains_nil, Bool.or_false]

/-- A value that is accepted is taken if it is the first one. -/
theorem give_of_accepts (haccepts : option.Accepts value) (hlacks : d.has option = false) :
    d.give option value = .ok (d.plus [.joined option value]) := by
  cases option with
  | config =>
    have hnone : d.config? = none := by simpa [has] using hlacks
    simp only [give, hlacks]
    simp [plus, valueOf_cons, Setting.value?, hnone, show value ≠ "" from haccepts]
  | baseDir =>
    have hnone : d.baseDir? = none := by simpa [has] using hlacks
    simp only [give, hlacks]
    simp [plus, valueOf_cons, Setting.value?, hnone, show value ≠ "" from haccepts]
  | timeoutSecs =>
    have hnone : d.timeoutSecs? = none := by simpa [has] using hlacks
    obtain ⟨n, hn⟩ := haccepts
    simp only [give, hlacks]
    simp [plus, valueOf_cons, Setting.value?, hnone, hn, seconds?, Except.toOption]
  | line =>
    have hnone : d.line? = none := by simpa [has] using hlacks
    simp only [give, hlacks]
    simp [plus, valueOf_cons, Setting.value?, hnone]

theorem raise_of_lacks (hlacks : d.chdirToTool = false) :
    d.raise .chdirToTool = .ok (d.plus [.chdirToTool]) := by
  simp [raise, hlacks, plus, valueOf_cons, Setting.value?]

/-- Only the option that is given is not lacking any more. -/
theorem Lacks.plus (h : d.Lacks other) (hne : setting.option? ≠ other.option?) :
    (d.plus [setting]).Lacks other := by
  unfold Lacks at h ⊢
  cases ho : other.option? with
  | none =>
    rw [ho] at h hne
    have hflag : setting ≠ .chdirToTool := by
      rintro rfl
      exact hne rfl
    simpa [Draft.plus, hflag.symm] using h
  | some option =>
    rw [ho] at h hne
    have hvalue : valueOf [setting] option = none := by
      rw [valueOf_cons, Setting.value?_eq_none hne, valueOf_nil, Option.or_none]
    cases option <;> simpa [has, Draft.plus, hvalue] using h

end Draft

/-- The words of a valid setting add what it says to what has been said. -/
theorem readWords_setting {setting : Setting} (hvalid : setting.Valid) (hlacks : d.Lacks setting)
    (seen : Bool) (rest : List String) :
    readWords d .nothing seen (setting.words ++ rest) =
      readWords (d.plus [setting]) .nothing seen rest := by
  have hsettle : d.settle .nothing = .ok d := rfl
  cases setting with
  | joined option value =>
    have hgive := Draft.give_of_accepts hvalid hlacks
    simp only [Setting.words, List.singleton_append, readWords, shape_word_append, hsettle, hgive]
  | apart option value =>
    have hgive : d.settle (.given option value) = .ok (d.plus [.apart option value]) :=
      Draft.give_of_accepts hvalid.1 hlacks
    simp only [Setting.words, List.cons_append, List.nil_append, readWords, shape_word, hsettle,
      shape_of_isPlain hvalid.2]
    exact readWords_of_settle hgive seen rest
  | chdirToTool =>
    have hshape : shape "--chdir-to-tool" = .flag .chdirToTool none := rfl
    have hraise := Draft.raise_of_lacks hlacks
    simp only [Setting.words, List.singleton_append, readWords, hshape, hsettle, Except.bind,
      hraise]

/-- So do the words of many settings, if no option is given twice. -/
theorem readWords_settings {settings : List Setting} (hvalid : ∀ s ∈ settings, s.Valid)
    (honce : (settings.map Setting.option?).Nodup) (hlacks : ∀ s ∈ settings, d.Lacks s)
    (seen : Bool) (rest : List String) :
    readWords d .nothing seen (settings.flatMap Setting.words ++ rest) =
      readWords (d.plus settings) .nothing seen rest := by
  induction settings generalizing d with
  | nil => rw [Draft.plus_nil, List.flatMap_nil, List.nil_append]
  | cons setting settings ih =>
    obtain ⟨hfirst, hothers⟩ := List.forall_mem_cons.mp hvalid
    obtain ⟨hlack, hlacks⟩ := List.forall_mem_cons.mp hlacks
    rw [List.map_cons, List.nodup_cons] at honce
    have hnext : ∀ s ∈ settings, (d.plus [setting]).Lacks s := by
      intro s hs
      refine (hlacks s hs).plus fun hsame => honce.1 ?_
      rw [hsame]
      exact List.mem_map_of_mem hs
    rw [List.flatMap_cons, List.append_assoc, readWords_setting hfirst hlack,
      ih hothers honce.2 hnext, ← Draft.plus_cons hfirst]

/-- At the beginning nothing has been said of any option. -/
theorem lacks_all (settings : List Setting) : ∀ s ∈ settings, Draft.Lacks {} s := by
  intro s _
  cases s with
  | joined option | apart option => cases option <;> rfl
  | chdirToTool => rfl

/-- A plain word is the tool if none has come. -/
theorem readWords_tool {tool : String} (h : IsPlain tool) (d : Draft) (rest : List String) :
    readWords d .nothing false (tool :: rest) = readWords d (.tool tool) true rest := by
  have hsettle : d.settle .nothing = .ok d := rfl
  simp only [readWords, shape_of_isPlain h, hsettle]
  rfl

/-- Settings and a word that names the tool leave what they say. -/
theorem ofWords_before_tool {settings : List Setting} (hvalid : ∀ s ∈ settings, s.Valid)
    (honce : (settings.map Setting.option?).Nodup) {text : String} {tool : ToolId}
    (htool : ToolId.ofText? text = some tool) (htext : text.toList.head? ≠ some '-')
    (rest : List String) :
    Options.ofWords (settings.flatMap Setting.words ++ text :: rest) =
      readWords { Draft.plus {} settings with tool? := some tool } .nothing true rest := by
  have hsettle : (Draft.plus {} settings).settle (.tool text) =
      .ok { Draft.plus {} settings with tool? := some tool } := by
    simp only [Draft.settle, htool]
  rw [Options.ofWords, readWords_settings hvalid honce (lacks_all settings),
    readWords_tool (.inl htext), readWords_of_settle hsettle]

/-- Behind the tool and a separator everything is for the tool. -/
theorem readWords_separator (h : d.settle pending = .ok d') (words : List String) :
    readWords d pending true ("--" :: words) = d'.finish words := by
  have hshape : shape "--" = .separator := rfl
  simp only [readWords, hshape, readPlainly, h]

/-- So is everything from the first plain word on. -/
theorem readWords_plain {word : String} (hplain : IsPlain word) (h : d.settle pending = .ok d')
    (words : List String) :
    readWords d pending true (word :: words) = d'.finish (word :: words) := by
  have hsettle : d'.settle .nothing = .ok d' := rfl
  rw [readWords_of_settle h]
  simp only [readWords, shape_of_isPlain hplain, hsettle]
  rfl

/-- The options of a command line with the given settings, tool and words for the tool. -/
def Options.given (settings : List Setting) (tool : ToolId) (args : List String) : Options :=
  ⟨valueOf settings .config, valueOf settings .baseDir,
    (valueOf settings .timeoutSecs).bind seconds?, settings.contains .chdirToTool,
    valueOf settings .line, tool, args⟩

/-- Without a line of its own, the tool may have any words. -/
theorem finish_given {settings : List Setting} (hline : some .line ∉ settings.map Setting.option?)
    (tool : ToolId) (args : List String) :
    { Draft.plus {} settings with tool? := some tool }.finish args =
      .ok (.given settings tool args) := by
  simp [Draft.finish, Draft.plus, Options.given, valueOf_eq_none hline]

/-- Behind any valid settings, each of another option and none of the line, and a word that names a
tool, all words that follow a separator are for the tool as they are, and so are all words from a
first one that does not begin with a hyphen. The settings and the tool alone say the rest. -/
theorem words_for_tool_are_verbatim {settings : List Setting} (hvalid : ∀ s ∈ settings, s.Valid)
    (honce : (settings.map Setting.option?).Nodup)
    (hline : some .line ∉ settings.map Setting.option?) {text : String} {tool : ToolId}
    (htool : ToolId.ofText? text = some tool) (htext : text.toList.head? ≠ some '-')
    (words : List String) :
    Options.ofWords (settings.flatMap Setting.words ++ text :: "--" :: words) =
        .ok (.given settings tool words) ∧
      ∀ first : String, first.toList.head? ≠ some '-' →
        Options.ofWords (settings.flatMap Setting.words ++ text :: first :: words) =
          .ok (.given settings tool (first :: words)) := by
  have hread := ofWords_before_tool hvalid honce htool htext
  refine ⟨?_, fun first hfirst => ?_⟩
  · rw [hread, readWords_separator rfl, finish_given hline]
  · rw [hread, readWords_plain (.inl hfirst) rfl, finish_given hline]

/-- Settings in both spellings, with a value that looks like an option. -/
def oddSettings : List Setting :=
  [.joined .baseDir "--line=x", .chdirToTool, .apart .timeoutSecs "+7"]

/-- Words that look like options of the host. -/
def oddWords : List String := ["--help", "--", "--line", "--config=x", "-h", ""]

theorem odd_words_are_verbatim :
    (∀ s ∈ oddSettings, s.Valid) ∧ (oddSettings.map Setting.option?).Nodup ∧
      some .line ∉ oddSettings.map Setting.option? ∧
      ToolId.ofText? "sqlitecompare" = some .sqliteCompare ∧
      Options.ofWords (["--base-dir=--line=x", "--chdir-to-tool", "--timeout-secs", "+7",
        "sqlitecompare", "--"] ++ oddWords) =
        .ok ⟨none, some "--line=x", some 7, true, none, .sqliteCompare, oddWords⟩ ∧
      Options.ofWords (["--base-dir=--line=x", "--chdir-to-tool", "--timeout-secs", "+7",
        "sqlitecompare", ""] ++ oddWords) =
        .ok ⟨none, some "--line=x", some 7, true, none, .sqliteCompare, "" :: oddWords⟩ := by
  have hvalid : ∀ s ∈ oddSettings, s.Valid := by
    intro s hs
    simp only [oddSettings, List.mem_cons, List.not_mem_nil, or_false] at hs
    rcases hs with rfl | rfl | rfl
    · exact (by decide : "--line=x" ≠ "")
    · trivial
    · exact ⟨⟨7, by decide +kernel⟩, .inl (by decide)⟩
  have honce : (oddSettings.map Setting.option?).Nodup := by decide
  have hline : some .line ∉ oddSettings.map Setting.option? := by decide
  have htool : ToolId.ofText? "sqlitecompare" = some .sqliteCompare := by decide +kernel
  have hgiven (args : List String) : Options.given oddSettings .sqliteCompare args =
      ⟨none, some "--line=x", some 7, true, none, .sqliteCompare, args⟩ := by
    have hseconds : seconds? "+7" = some 7 := by decide +kernel
    simp [Options.given, oddSettings, valueOf_cons, Setting.value?, hseconds]
  obtain ⟨hseparated, hplain⟩ :=
    words_for_tool_are_verbatim hvalid honce hline htool (by decide) oddWords
  refine ⟨hvalid, honce, hline, htool, ?_, ?_⟩
  · rw [← hgiven]
    exact hseparated
  · rw [← hgiven]
    exact hplain "" (by decide)

end ToolHost.Program
