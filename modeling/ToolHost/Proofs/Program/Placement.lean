import Mathlib.Data.List.Nodup
import ToolHost.Proofs.Program.Words

/-! Where the options of a command line stand. They may come before the word that names the tool or
behind it, in any order and in either spelling, as long as no word for the tool has come. What is read
from them is told by the options and their values alone. -/
namespace ToolHost.Program
variable {option : Valued} {value text : String} {tool : ToolId} {before after settings : List Setting}
  {words : List String}

namespace Setting
variable {setting other : Setting}

/-- What a setting says, however it is spelled: the same in one word. -/
def inOneWord : Setting → Setting
  | apart option value => joined option value
  | setting => setting

/-- A setting that may be spelled in both ways. -/
def Spellable : Setting → Prop
  | joined option value | apart option value => option.Accepts value ∧ IsPlain value
  | chdirToTool => True

theorem option?_inOneWord (setting : Setting) : setting.inOneWord.option? = setting.option? := by
  cases setting <;> rfl

theorem value?_inOneWord (option : Valued) (setting : Setting) :
    setting.inOneWord.value? option = setting.value? option := by
  cases setting <;> rfl

theorem inOneWord_eq_chdirToTool_iff : setting.inOneWord = .chdirToTool ↔ setting = .chdirToTool := by
  cases setting <;> simp [inOneWord]

theorem Spellable.of_inOneWord (h : other.Spellable) (hsame : setting.inOneWord = other.inOneWord) :
    setting.Spellable := by
  cases setting <;> cases other <;> cases hsame <;> exact h

theorem Spellable.valid (h : setting.Spellable) : setting.Valid := by
  cases setting with
  | joined option value => exact h.1
  | apart option value => exact h
  | chdirToTool => trivial

/-- Only a setting of an option has a value for it. -/
theorem option?_of_value? (h : setting.value? option = some value) : setting.option? = some option := by
  by_contra hne
  rw [value?_eq_none hne] at h
  cases h

end Setting

section Order

/-- Two lists of settings say the same, each in its own order and spelling. -/
def SayAlike (settings settings' : List Setting) : Prop :=
  (settings.map Setting.inOneWord).Perm (settings'.map Setting.inOneWord)

theorem SayAlike.nodup {settings' : List Setting} (h : SayAlike settings settings')
    (honce : (settings'.map Setting.option?).Nodup) : (settings.map Setting.option?).Nodup := by
  have hoptions := h.map Setting.option?
  simp only [List.map_map, Function.comp_def, Setting.option?_inOneWord] at hoptions
  exact hoptions.nodup_iff.mpr honce

/-- Where no option is given twice, a value is that of any setting that has one. -/
theorem valueOf_eq_some_iff (honce : (settings.map Setting.option?).Nodup) :
    valueOf settings option = some value ↔ ∃ s ∈ settings, s.value? option = some value := by
  refine ⟨List.exists_of_findSome?_eq_some, ?_⟩
  rintro ⟨s, hs, hv⟩
  cases hfound : valueOf settings option with
  | none => rw [List.findSome?_eq_none_iff.mp hfound s hs] at hv; cases hv
  | some other =>
    obtain ⟨s', hs', hv'⟩ := List.exists_of_findSome?_eq_some hfound
    have hoption : s.option? = s'.option? :=
      (Setting.option?_of_value? hv).trans (Setting.option?_of_value? hv').symm
    obtain rfl : s = s' := List.inj_on_of_nodup_map honce hs hs' hoption
    exact hv'.symm.trans hv

theorem SayAlike.valueOf {settings' : List Setting} (h : SayAlike settings settings')
    (honce : (settings'.map Setting.option?).Nodup) (option : Valued) :
    valueOf settings option = valueOf settings' option := by
  have hsaid (l : List Setting) (value : String) : (∃ s ∈ l, s.value? option = some value) ↔
      ∃ s ∈ l.map Setting.inOneWord, s.value? option = some value := by
    simp only [List.mem_map, exists_exists_and_eq_and, Setting.value?_inOneWord]
  ext value
  rw [valueOf_eq_some_iff (h.nodup honce), valueOf_eq_some_iff honce, hsaid, hsaid settings']
  simp only [h.mem_iff]

theorem SayAlike.contains_chdirToTool {settings' : List Setting} (h : SayAlike settings settings') :
    settings.contains .chdirToTool = settings'.contains .chdirToTool := by
  have hsaid (l : List Setting) : .chdirToTool ∈ l ↔ .chdirToTool ∈ l.map Setting.inOneWord := by
    simp only [List.mem_map, Setting.inOneWord_eq_chdirToTool_iff, exists_eq_right]
  rw [Bool.eq_iff_iff, List.contains_iff_mem, List.contains_iff_mem, hsaid, hsaid settings', h.mem_iff]

/-- Settings that say the same give the same options. -/
theorem SayAlike.given {settings' : List Setting} (h : SayAlike settings settings')
    (honce : (settings'.map Setting.option?).Nodup) (tool : ToolId) (words : List String) :
    Options.given settings tool words = .given settings' tool words := by
  simp only [Options.given, h.valueOf honce, h.contains_chdirToTool]

theorem SayAlike.spellable {settings' : List Setting} (h : SayAlike settings settings')
    (hvalues : ∀ s ∈ settings', s.Spellable) : ∀ s ∈ settings, s.Spellable := by
  intro s hs
  obtain ⟨other, hother, hsame⟩ := List.mem_map.mp (h.subset (List.mem_map_of_mem hs))
  exact (hvalues other hother).of_inOneWord hsame.symm

end Order

section Place

/-- The words of a command line: settings before and behind the word that names the tool, and then the
words for the tool. -/
def arrange (before : List Setting) (text : String) (after : List Setting) (words : List String) :
    List String :=
  before.flatMap Setting.words ++ text :: (after.flatMap Setting.words ++ words)

theorem Draft.plus_append (hvalid : ∀ s ∈ before, s.Valid) (d : Draft) (after : List Setting) :
    d.plus (before ++ after) = (d.plus before).plus after := by
  induction before generalizing d with
  | nil => rw [Draft.plus_nil, List.nil_append]
  | cons setting before ih =>
    obtain ⟨hfirst, hothers⟩ := List.forall_mem_cons.mp hvalid
    rw [List.cons_append, Draft.plus_cons hfirst, ih hothers, ← Draft.plus_cons hfirst]

/-- Of an option that is not among the settings nothing has been said. -/
theorem lacks_of_not_mem {setting : Setting} (h : setting.option? ∉ before.map Setting.option?)
    (tool? : Option ToolId) : { Draft.plus {} before with tool? := tool? }.Lacks setting := by
  unfold Draft.Lacks
  cases hoption : setting.option? with
  | none =>
    rw [hoption] at h
    have hflag : Setting.chdirToTool ∉ before := fun hmem => h (List.mem_map_of_mem hmem)
    simpa [Draft.plus] using hflag
  | some option =>
    rw [hoption] at h
    have hvalue := valueOf_eq_none h
    cases option <;> simp [Draft.has, Draft.plus, hvalue]

/-- Behind the tool settings say what they would say before it. -/
theorem ofWords_around_tool (hvalid : ∀ s ∈ before ++ after, s.Valid)
    (honce : ((before ++ after).map Setting.option?).Nodup) (htool : ToolId.ofText? text = some tool)
    (htext : text.toList.head? ≠ some '-') (rest : List String) :
    Options.ofWords (arrange before text after rest) =
      readWords { Draft.plus {} (before ++ after) with tool? := some tool } .nothing true rest := by
  obtain ⟨hbefore, hafter⟩ := List.forall_mem_append.mp hvalid
  rw [List.map_append, List.nodup_append'] at honce
  obtain ⟨hbeforeOnce, hafterOnce, hdisjoint⟩ := honce
  have hlacks : ∀ s ∈ after, { Draft.plus {} before with tool? := some tool }.Lacks s := fun s hs =>
    lacks_of_not_mem (fun hmem => hdisjoint hmem (List.mem_map_of_mem hs)) _
  rw [arrange, ofWords_before_tool hbefore hbeforeOnce htool htext,
    readWords_settings hafter hafterOnce hlacks, Draft.plus_append hbefore]
  rfl

/-- No words, or words of which the first one begins with no hyphen, are for the tool. -/
theorem readWords_args (hwords : ∀ first ∈ words.head?, first.toList.head? ≠ some '-') (d : Draft) :
    readWords d .nothing true words = d.finish words := by
  have hsettle : d.settle .nothing = .ok d := rfl
  cases words with
  | nil => simp only [readWords, hsettle]
  | cons first rest => exact readWords_plain (.inl (hwords first rfl)) hsettle rest

/-- A line of its own leaves no place for words. -/
theorem finish_plus (hline : some .line ∈ settings.map Setting.option? → words = []) (tool : ToolId) :
    { Draft.plus {} settings with tool? := some tool }.finish words =
      .ok (.given settings tool words) := by
  by_cases h : some .line ∈ settings.map Setting.option?
  · simp [hline h, Draft.finish, Draft.plus, Options.given]
  · exact finish_given h tool words

theorem ofWords_arrange (hvalid : ∀ s ∈ before ++ after, s.Valid)
    (honce : ((before ++ after).map Setting.option?).Nodup) (htool : ToolId.ofText? text = some tool)
    (htext : text.toList.head? ≠ some '-')
    (hwords : ∀ first ∈ words.head?, first.toList.head? ≠ some '-')
    (hline : some .line ∈ (before ++ after).map Setting.option? → words = []) :
    Options.ofWords (arrange before text after words) = .ok (.given (before ++ after) tool words) := by
  rw [ofWords_around_tool hvalid honce htool htext, readWords_args hwords, finish_plus hline]

end Place

/-- Options with values that do not look like options may come in any order, each in either spelling
and on either side of the tool, before the words for it: all such command lines are accepted, and the
same options are read from them. -/
theorem options_in_any_place (hvalues : ∀ s ∈ settings, s.Spellable)
    (honce : (settings.map Setting.option?).Nodup) (htool : ToolId.ofText? text = some tool)
    (htext : text.toList.head? ≠ some '-')
    (hwords : ∀ first ∈ words.head?, first.toList.head? ≠ some '-')
    (hline : some .line ∈ settings.map Setting.option? → words = [])
    (hsame : SayAlike (before ++ after) settings) :
    Options.ofWords (arrange before text after words) = .ok (.given settings tool words) := by
  have hvalid : ∀ s ∈ before ++ after, s.Valid := fun s hs => (hsame.spellable hvalues s hs).valid
  have hoptions : some .line ∈ (before ++ after).map Setting.option? →
      some .line ∈ settings.map Setting.option? := by
    simpa only [List.map_map, Function.comp_def, Setting.option?_inOneWord] using
      fun hmem => (hsame.map Setting.option?).subset hmem
  rw [ofWords_arrange hvalid (hsame.nodup honce) htool htext hwords fun hmem => hline (hoptions hmem),
    hsame.given honce]

/-- Four settings, one of them with a value that begins with an equals sign. -/
def fourSettings : List Setting :=
  [.apart .config "a.json", .chdirToTool, .joined .timeoutSecs "+7", .apart .baseDir "="]

/-- The same four in another order, two in the other spelling and two of them behind the tool. -/
theorem four_settings_moved :
    (∀ s ∈ fourSettings, s.Spellable) ∧ (fourSettings.map Setting.option?).Nodup ∧
      SayAlike [.chdirToTool, .joined .baseDir "=", .apart .timeoutSecs "+7", .apart .config "a.json"]
        fourSettings ∧
      Options.ofWords ["--chdir-to-tool", "--base-dir==", "sqlitecompare", "--timeout-secs", "+7",
        "--config", "a.json", "", "--line"] =
        .ok ⟨some "a.json", some "=", some 7, true, none, .sqliteCompare, ["", "--line"]⟩ := by
  have hvalues : ∀ s ∈ fourSettings, s.Spellable := by
    intro s hs
    simp only [fourSettings, List.mem_cons, List.not_mem_nil, or_false] at hs
    rcases hs with rfl | rfl | rfl | rfl
    · exact ⟨(by decide : "a.json" ≠ ""), .inl (by decide)⟩
    · trivial
    · exact ⟨⟨7, by decide +kernel⟩, .inl (by decide)⟩
    · exact ⟨(by decide : "=" ≠ ""), .inl (by decide)⟩
  have honce : (fourSettings.map Setting.option?).Nodup := by decide
  have hsame : SayAlike ([.chdirToTool, .joined .baseDir "="] ++
      [.apart .timeoutSecs "+7", .apart .config "a.json"]) fourSettings := by
    unfold SayAlike
    decide
  have htool : ToolId.ofText? "sqlitecompare" = some .sqliteCompare := by decide +kernel
  have hgiven : Options.given fourSettings .sqliteCompare ["", "--line"] =
      ⟨some "a.json", some "=", some 7, true, none, .sqliteCompare, ["", "--line"]⟩ := by
    have hseconds : seconds? "+7" = some 7 := by decide +kernel
    simp [Options.given, fourSettings, valueOf_cons, Setting.value?, hseconds]
  refine ⟨hvalues, honce, hsame, ?_⟩
  rw [← hgiven]
  exact options_in_any_place hvalues honce htool (by decide) (by decide) (by decide) hsame

end ToolHost.Program
