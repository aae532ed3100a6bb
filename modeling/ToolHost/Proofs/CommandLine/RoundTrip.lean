import ToolHost.Proofs.CommandLine.Scanning

/-! Which arguments come back from the command line they are joined to. An argument is lost exactly
when it needs quotes for a space and ends in a backslash: its closing quote is then read as a
character of it, and no text behind it undoes that. -/
namespace ToolHost.CommandLine

/-- An argument that does not come back: it stands between quotes for its space, and its last
backslash makes the closing quote a character. -/
def Unquotable (arg : List Char) : Prop := ' ' ∈ arg ∧ arg.getLast? = some '\\'

/-- What can stand behind a spelled argument on a joined line: nothing, or a space. -/
def Separated (rest : List Char) : Prop := rest = [] ∨ rest.head? = some ' '

/-- The characters of a joined line. -/
def spellAll (args : List (List Char)) : List Char := [' '].intercalate (args.map spell)

theorem Separated.head?_ne_quote {rest : List Char} (h : Separated rest) : rest.head? ≠ some '"' := by
  rcases h with rfl | h
  · simp
  · simp [h]

/-- An argument that ends outside quotes is complete where a space or the end of the line follows. -/
theorem Separated.scan_complete {word rest : List Char} (h : Separated rest) (hw : word ≠ []) :
    scan false word rest = word.reverse :: scan false [] rest := by
  rcases h with rfl | h
  · rw [scan_end_of_ne_nil hw]
    rfl
  · obtain ⟨tail, rfl⟩ := List.head?_eq_some_iff.mp h
    rw [scan_space_of_ne_nil hw, scan_space]

/-- A quotable argument is read back, and the scan goes on behind it as at the start of a line. -/
theorem scan_spell {arg rest : List Char} (h : ¬ Unquotable arg) (hr : Separated rest) :
    scan false [] (spell arg ++ rest) = arg :: scan false [] rest := by
  unfold spell
  by_cases hn : needsQuotes arg = true
  · rw [if_pos hn, List.cons_append, List.cons_append, List.append_assoc, List.singleton_append,
      scan_open]
    have hlast : arg.getLast? ≠ some '\\' := by
      intro hl
      have hne : arg ≠ [] := by
        rintro rfl
        cases hl
      have hspace : ' ' ∈ arg := by simpa [needsQuotes, hne] using hn
      exact h ⟨hspace, hl⟩
    rw [scan_escapeQuotes (.inl rfl) (fun hl => absurd hl hlast), scan_close]
    simp
  · rw [if_neg hn]
    have hplain : arg ≠ [] ∧ ' ' ∉ arg := by simpa [needsQuotes] using hn
    rw [scan_escapeQuotes (.inr hplain.2) (fun _ => hr.head?_ne_quote),
      hr.scan_complete (by simpa using hplain.1)]
    simp

/-- An unquotable argument comes back with a quote where its last backslash was, so the first
argument that is read is another one, whatever follows on the line. -/
theorem scan_spell_of_unquotable {arg : List Char} (h : Unquotable arg) (rest : List Char)
    (tail : List (List Char)) : scan false [] (spell arg ++ rest) ≠ arg :: tail := by
  obtain ⟨body, rfl⟩ := List.getLast?_eq_some_iff.mp h.2
  have hn : needsQuotes (body ++ ['\\']) = true := by simp [needsQuotes, h.1]
  have hspelled : spell (body ++ ['\\']) ++ rest
      = '"' :: (escapeQuotes body ++ '\\' :: '"' :: rest) := by
    simp [spell, hn, escapeQuotes_append, escapeQuotes]
  rw [hspelled, scan_open, scan_escapeQuotes (.inl rfl) (by simp), scan_escaped]
  obtain ⟨more, after, he⟩ := scan_extends (List.cons_ne_nil '"' (body.reverse ++ [])) true rest
  rw [he]
  intro heq
  have hword := (List.cons.inj heq).1
  simp at hword

/-- A joined line is its first argument and a separated rest that is read like the line of the
other arguments. -/
theorem exists_spellAll_cons (arg : List Char) (args : List (List Char)) :
    ∃ rest, spellAll (arg :: args) = spell arg ++ rest ∧ Separated rest ∧
      scan false [] rest = scan false [] (spellAll args) := by
  cases args with
  | nil => exact ⟨[], by simp [spellAll], .inl rfl, rfl⟩
  | cons next args =>
    refine ⟨' ' :: spellAll (next :: args), ?_, .inr rfl, scan_space _⟩
    simp [spellAll, List.intercalate_cons_cons]

/-- Joined arguments come back together exactly when each of them is quotable. -/
theorem scan_spellAll_iff (args : List (List Char)) :
    scan false [] (spellAll args) = args ↔ ∀ arg ∈ args, ¬ Unquotable arg := by
  induction args with
  | nil => exact ⟨fun _ arg ha => absurd ha List.not_mem_nil, fun _ => rfl⟩
  | cons arg args ih =>
    obtain ⟨rest, hline, hrest, hscan⟩ := exists_spellAll_cons arg args
    rw [hline, List.forall_mem_cons]
    by_cases h : Unquotable arg
    · exact iff_of_false (scan_spell_of_unquotable h rest args) fun hall => hall.1 h
    · rw [scan_spell h hrest, hscan, List.cons_inj_right, ih]
      exact ⟨fun hall => ⟨h, hall⟩, And.right⟩

theorem toList_joinArgs (args : List String) :
    (joinArgs args).toList = spellAll (args.map String.toList) := by
  have hword : (String.toList ∘ fun arg => (quote arg).text) = spell ∘ String.toList := by
    funext arg
    simp [quote_text]
  rw [joinArgs, String.toList_intercalate, spellAll, List.map_map, List.map_map, hword]
  rfl

theorem tokenize_eq_iff (line : String) (args : List String) :
    tokenize line = args ↔ scan false [] line.toList = args.map String.toList := by
  have hof : args = (args.map String.toList).map String.ofList := by simp
  have hinj : Function.Injective (List.map String.ofList) :=
    List.map_injective_iff.mpr fun _ _ => String.ofList_injective
  rw [tokenize]
  conv_lhs => rw [hof]
  exact hinj.eq_iff

/-- Arguments come back from the line they are joined to, all of them and in their order, exactly
when none of them both holds a space and ends in a backslash. One that does loses the whole line. -/
theorem tokenize_joinArgs_iff (args : List String) :
    tokenize (joinArgs args) = args ↔
      ∀ arg ∈ args, ¬ (' ' ∈ arg.toList ∧ arg.toList.getLast? = some '\\') := by
  rw [tokenize_eq_iff, toList_joinArgs, scan_spellAll_iff, List.forall_mem_map]
  rfl

example : tokenize (joinArgs ["", "say \"hi\\\"\"", "\\\\\"", "plain\\path\\", "a  b"]) =
    ["", "say \"hi\\\"\"", "\\\\\"", "plain\\path\\", "a  b"] := by
  decide +kernel

end ToolHost.CommandLine
