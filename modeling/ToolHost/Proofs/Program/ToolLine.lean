import ToolHost.Program.Options
import ToolHost.Proofs.CommandLine.RoundTrip
import ToolHost.Proofs.Program.Words

/-! The command line that a tool is given. Arguments are joined to one, and refused if it would not
give them back; then the first argument that would be lost is named. A line of its own is handed on as
it is, but as a word behind its option it must not look like an option itself. -/
namespace ToolHost

namespace CommandLine

/-- The first argument of a list that does not come back. -/
def FirstUnquotable (arg : String) (args : List String) : Prop :=
  ∃ front back, args = front ++ arg :: back ∧ Unquotable arg.toList ∧
    ∀ earlier ∈ front, ¬ Unquotable earlier.toList

/-- Joined arguments come back together exactly if each of them would come back alone. -/
theorem tokenize_joinArgs_eq_iff (args : List String) :
    tokenize (joinArgs args) = args ↔ ∀ arg ∈ args, ¬ Unquotable arg.toList := by
  rw [tokenize_eq_iff, toList_joinArgs, scan_spellAll_iff, List.forall_mem_map]

theorem tokenize_quote_eq_iff (arg : String) :
    tokenize (quote arg).text = [arg] ↔ ¬ Unquotable arg.toList := by
  have hline : joinArgs [arg] = (quote arg).text := by simp [joinArgs]
  rw [← hline, tokenize_joinArgs_eq_iff, List.forall_mem_singleton]

/-- Whoever looks for an argument that is lost alone finds the first unquotable one. -/
theorem find?_lost_eq_some_iff {arg : String} {args : List String} :
    (args.find? fun arg => tokenize (quote arg).text != [arg]) = some arg ↔
      FirstUnquotable arg args := by
  simp only [List.find?_eq_some_iff_append, bne_iff_ne, ne_eq, tokenize_quote_eq_iff, not_not,
    Bool.not_eq_true', bne_eq_false_iff_eq, FirstUnquotable]
  constructor
  · rintro ⟨hlost, front, back, hargs, hfront⟩
    exact ⟨front, back, hargs, hlost, hfront⟩
  · rintro ⟨front, back, hargs, hlost, hfront⟩
    exact ⟨hlost, front, back, hargs, hfront⟩

theorem find?_lost_eq_none_iff {args : List String} :
    (args.find? fun arg => tokenize (quote arg).text != [arg]) = none ↔
      ∀ arg ∈ args, ¬ Unquotable arg.toList := by
  simp only [List.find?_eq_none, bne_iff_ne, ne_eq, tokenize_quote_eq_iff, not_not]

theorem FirstUnquotable.not_forall {arg : String} {args : List String}
    (h : FirstUnquotable arg args) : ¬ ∀ a ∈ args, ¬ Unquotable a.toList := by
  obtain ⟨front, back, rfl, hlost, -⟩ := h
  exact fun hall => hall arg (by simp) hlost

/-- Only one argument is the first one. -/
theorem FirstUnquotable.unique {arg arg' : String} {args : List String}
    (h : FirstUnquotable arg args) (h' : FirstUnquotable arg' args) : arg = arg' := by
  rw [← find?_lost_eq_some_iff] at h h'
  exact Option.some.inj (h.symm.trans h')

end CommandLine

namespace Program
open CommandLine
variable {o : Options} {text word : String} {tool : ToolId}

/-- Without a line of its own a tool is given its arguments joined, or the first one that would be
lost is named. -/
theorem Options.commandLine_cases (hline : o.line? = none) :
    ((∀ arg ∈ o.args, ¬ Unquotable arg.toList) ∧ o.commandLine = .ok (joinArgs o.args)) ∨
      ∃ arg, FirstUnquotable arg o.args ∧ o.commandLine = .error (.unquotable arg) := by
  cases hfind : o.args.find? fun arg => tokenize (quote arg).text != [arg] with
  | none =>
    have hall := find?_lost_eq_none_iff.mp hfind
    have hback := (tokenize_joinArgs_eq_iff o.args).mpr hall
    refine .inl ⟨hall, ?_⟩
    simp only [commandLine, hline, hback, if_true]
  | some arg =>
    have hfirst := find?_lost_eq_some_iff.mp hfind
    have hback : tokenize (joinArgs o.args) ≠ o.args :=
      mt (tokenize_joinArgs_eq_iff o.args).mp hfirst.not_forall
    refine .inr ⟨arg, hfirst, ?_⟩
    simp only [commandLine, hline, if_neg hback, hfind]

theorem Options.commandLine_eq_ok_iff (hline : o.line? = none) {line : String} :
    o.commandLine = .ok line ↔
      (∀ arg ∈ o.args, ¬ Unquotable arg.toList) ∧ line = joinArgs o.args := by
  rcases commandLine_cases hline with ⟨hall, hok⟩ | ⟨arg, hfirst, herror⟩
  · rw [hok, Except.ok.injEq]
    exact ⟨fun h => ⟨hall, h.symm⟩, fun h => h.2.symm⟩
  · rw [herror]
    exact iff_of_false (fun h => by cases h) fun h => hfirst.not_forall h.1

theorem Options.commandLine_eq_error_iff (hline : o.line? = none) {problem : Problem} :
    o.commandLine = .error problem ↔
      ∃ arg, FirstUnquotable arg o.args ∧ problem = .unquotable arg := by
  rcases commandLine_cases hline with ⟨hall, hok⟩ | ⟨arg, hfirst, herror⟩
  · rw [hok]
    refine iff_of_false (fun h => by cases h) ?_
    rintro ⟨arg, hfirst, -⟩
    exact hfirst.not_forall hall
  · rw [herror, Except.error.injEq]
    constructor
    · intro h
      exact ⟨arg, hfirst, h.symm⟩
    · rintro ⟨other, hother, rfl⟩
      rw [hfirst.unique hother]

/-- Without a line of its own, a tool is given a command line exactly if none of its arguments both
holds a space and ends in a backslash. The line is that of the arguments joined, and comes apart into
them. Else the first such argument is named, and a complaint that names none is never made. -/
theorem arguments_pass_or_first_is_named (hline : o.line? = none) :
    (∀ line, o.commandLine = .ok line ↔
      (∀ arg ∈ o.args, ¬ Unquotable arg.toList) ∧ line = joinArgs o.args) ∧
    (∀ line, o.commandLine = .ok line → tokenize line = o.args) ∧
    (∀ problem, o.commandLine = .error problem ↔
      ∃ arg, FirstUnquotable arg o.args ∧ problem = .unquotable arg) ∧
    (∀ arg, FirstUnquotable arg o.args → ∃ problem, o.commandLine = .error problem ∧
      problem.message =
        s!"Argument {Text.literal arg} cannot be passed through a command line unchanged; " ++
          "use --line to pass the raw command line") ∧
    o.commandLine ≠ .error .unquotableTogether := by
  refine ⟨fun _ => Options.commandLine_eq_ok_iff hline, ?_,
    fun _ => Options.commandLine_eq_error_iff hline, ?_, ?_⟩
  · intro line h
    obtain ⟨hall, rfl⟩ := (Options.commandLine_eq_ok_iff hline).mp h
    exact (tokenize_joinArgs_eq_iff o.args).mpr hall
  · intro arg hfirst
    exact ⟨.unquotable arg, (Options.commandLine_eq_error_iff hline).mpr ⟨arg, hfirst, rfl⟩, rfl⟩
  · intro h
    obtain ⟨arg, -, hproblem⟩ := (Options.commandLine_eq_error_iff hline).mp h
    cases hproblem

/-- Of these arguments the second and the last one would be lost. -/
def lossyOptions : Options :=
  ⟨none, none, none, false, none, .sqliteCompare,
    ["left file.db", "C:\\Program Files\\", "C:\\dir\\", "d \\"]⟩

theorem lossy_options_name_first :
    lossyOptions.line? = none ∧
      lossyOptions.commandLine = .error (.unquotable "C:\\Program Files\\") := by
  have hline : lossyOptions.line? = none := rfl
  obtain ⟨-, -, herror, -, -⟩ := arguments_pass_or_first_is_named hline
  refine ⟨hline, ?_⟩
  rw [herror]
  refine ⟨_, ⟨["left file.db"], ["C:\\dir\\", "d \\"], rfl, ⟨by decide, by decide⟩, ?_⟩, rfl⟩
  rintro earlier hmem ⟨-, hlast⟩
  rw [List.mem_singleton.mp hmem] at hlast
  exact absurd hlast (by decide)

theorem longShape_ne_plain (name : String) (value? : Option String) :
    longShape name value? ≠ .plain := by
  unfold longShape
  split
  · simp
  · split <;> simp

theorem isPlain_of_shape (h : shape word = .plain) : IsPlain word := by
  unfold shape at h
  split at h
  · cases h
  · exact absurd h (longShape_ne_plain _ _)
  · cases h
  · rename_i hhyphens hlong hletters
    by_cases hhead : word.toList.head? = some '-'
    · obtain ⟨rest, hrest⟩ := List.head?_eq_some_iff.mp hhead
      cases rest with
      | nil => exact .inr (String.toList_inj.mp hrest)
      | cons c rest => exact absurd hrest (hletters c rest)
    · exact .inl hhead

/-- A word that looks like an option is not taken for the value of one, even if a value is due. -/
theorem readWords_awaiting_of_not_isPlain (h : ¬ IsPlain word) (d : Draft) (option : Valued)
    (rest : List String) : ∃ refusal,
      readWords d (.awaiting option) false (word :: rest) = .error refusal ∧
        refusal.exitCode = 2 := by
  have hsettle : d.settle (.awaiting option) = .error (.missingValue option) := rfl
  rw [readWords]
  cases hshape : shape word with
  | plain => exact absurd (isPlain_of_shape hshape) h
  | separator => exact ⟨.missingValue option, by simp only [readPlainly, hsettle], rfl⟩
  | valued other value? => exact ⟨.missingValue option, by simp only [hsettle], rfl⟩
  | flag flag value? =>
    cases value? with
    | none => exact ⟨.missingValue option, by simp only [hsettle, Except.bind], rfl⟩
    | some value => exact ⟨_, rfl, rfl⟩
  | unknown name => exact ⟨_, rfl, rfl⟩
  | letters letters =>
    cases hflag : letters.head?.bind letterFlag? with
    | none => exact ⟨_, by simp only [hflag, Bool.false_and]; rfl, rfl⟩
    | some flag => exact ⟨_, by simp only [hflag, Bool.false_and, hsettle, Except.bind]; rfl, rfl⟩

/-- Valid settings, each of another option, and a word that names a tool are all that is needed. -/
theorem ofWords_settings_tool (settings : List Setting) (hvalid : ∀ s ∈ settings, s.Valid)
    (honce : (settings.map Setting.option?).Nodup) (htool : ToolId.ofText? text = some tool)
    (htext : text.toList.head? ≠ some '-') :
    Options.ofWords (settings.flatMap Setting.words ++ [text]) =
      .ok (.given settings tool []) := by
  rw [ofWords_before_tool hvalid honce htool htext]
  simp [readWords, Draft.settle, Draft.finish, Draft.plus, Options.given]

/-- The options of a line of its own and a tool. -/
def Options.ofLine (line : String) (tool : ToolId) : Options :=
  ⟨none, none, none, false, some line, tool, []⟩

theorem ofWords_joined_line (htool : ToolId.ofText? text = some tool)
    (htext : text.toList.head? ≠ some '-') (line : String) :
    Options.ofWords ["--line=" ++ line, text] = .ok (.ofLine line tool) := by
  have hword : Valued.line.word ++ "=" = "--line=" := by decide
  have hgiven : Options.given [.joined .line line] tool [] = .ofLine line tool := by
    simp [Options.given, Options.ofLine, valueOf_cons, Setting.value?]
  have hvalid : ∀ s ∈ [Setting.joined .line line], s.Valid := by
    simp [Setting.Valid, Valued.Accepts]
  rw [← hgiven, ← hword]
  exact ofWords_settings_tool _ hvalid (by simp) htool htext

theorem ofWords_apart_line {line : String} (hline : IsPlain line)
    (htool : ToolId.ofText? text = some tool) (htext : text.toList.head? ≠ some '-') :
    Options.ofWords ["--line", line, text] = .ok (.ofLine line tool) := by
  have hgiven : Options.given [.apart .line line] tool [] = .ofLine line tool := by
    simp [Options.given, Options.ofLine, valueOf_cons, Setting.value?]
  have hvalid : ∀ s ∈ [Setting.apart .line line], s.Valid := by
    simp [Setting.Valid, Valued.Accepts, hline]
  rw [← hgiven]
  exact ofWords_settings_tool _ hvalid (by simp) htool htext

/-- Any line is accepted that stands in one word with its option, and is handed on as it is. In a
word of its own behind the option a line is accepted exactly if it begins with no hyphen or is one,
and any other is refused with exit code 2. -/
theorem raw_line_accepted_iff (htool : ToolId.ofText? text = some tool)
    (htext : text.toList.head? ≠ some '-') (line : String) :
    Options.ofWords ["--line=" ++ line, text] = .ok (.ofLine line tool) ∧
    (Options.ofWords ["--line", line, text] = .ok (.ofLine line tool) ↔ IsPlain line) ∧
    (¬ IsPlain line → ∃ refusal,
      Options.ofWords ["--line", line, text] = .error refusal ∧ refusal.exitCode = 2) ∧
    (Options.ofLine line tool).commandLine = .ok line := by
  have hrefused (h : ¬ IsPlain line) : ∃ refusal,
      Options.ofWords ["--line", line, text] = .error refusal ∧ refusal.exitCode = 2 :=
    readWords_awaiting_of_not_isPlain h {} .line [text]
  refine ⟨ofWords_joined_line htool htext line, ⟨fun h => ?_, fun h => ?_⟩, hrefused, rfl⟩
  · by_contra hnot
    obtain ⟨refusal, herror, -⟩ := hrefused hnot
    rw [h] at herror
    cases herror
  · exact ofWords_apart_line h htool htext

theorem hyphened_line_accepted_in_one_word :
    ToolId.ofText? "x" = some (.other "x") ∧ "x".toList.head? ≠ some '-' ∧
      Options.ofWords ["--line=-c foo", "x"] = .ok (.ofLine "-c foo" (.other "x")) ∧
      (∃ refusal, Options.ofWords ["--line", "-c foo", "x"] = .error refusal ∧
        refusal.exitCode = 2) ∧
      (Options.ofLine "-c foo" (.other "x")).commandLine = .ok "-c foo" := by
  have htool : ToolId.ofText? "x" = some (.other "x") := by decide +kernel
  have htext : "x".toList.head? ≠ some '-' := by decide
  have hhyphen : ¬ IsPlain "-c foo" := by
    rintro (h | h)
    · exact h (by decide)
    · exact absurd h (by decide)
  obtain ⟨hjoined, -, hrefused, hline⟩ := raw_line_accepted_iff htool htext "-c foo"
  exact ⟨htool, htext, hjoined, hrefused hhyphen, hline⟩

/-- Not every line is accepted in both spellings. -/
theorem not_every_raw_line_is_accepted :
    ¬ ∀ (line text : String) (tool : ToolId), '\x00' ∉ line.toList →
      ToolId.ofText? text = some tool → text.toList.head? ≠ some '-' →
      ∀ words ∈ [["--line", line, text], ["--line=" ++ line, text]],
        ∃ o, Options.ofWords words = .ok o ∧ o.line? = some line ∧ o.tool = tool ∧ o.args = [] ∧
          o.commandLine = .ok line := by
  intro hall
  have hrefused : Options.ofWords ["--line", "-c foo", "x"] =
      .error (.unexpectedArgument "-c") := by decide +kernel
  obtain ⟨o, hread, -⟩ := hall "-c foo" "x" (.other "x") (by decide) (by decide +kernel) (by decide) _
    (List.mem_cons_self ..)
  rw [hrefused] at hread
  cases hread

end Program
end ToolHost
