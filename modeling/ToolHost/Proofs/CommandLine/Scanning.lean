import Mathlib.Data.List.Basic
import ToolHost.CommandLine.Quoting

/-! What the scanner of command lines does at one place of the line, and on a whole spelled
argument. Everything holds for any rest of the line and any argument in progress. -/
namespace ToolHost.CommandLine

/-- A backslash directly before a quote makes the quote a character, inside quotes and outside. -/
theorem scan_escaped (quoted : Bool) (word rest : List Char) :
    scan quoted word ('\\' :: '"' :: rest) = scan quoted ('"' :: word) rest := by
  rw [scan]

theorem scan_open (word rest : List Char) :
    scan false word ('"' :: rest) = scan true word rest := by
  rw [scan, if_neg Bool.false_ne_true]

/-- A closing quote ends the argument in progress, even an empty one. -/
theorem scan_close (word rest : List Char) :
    scan true word ('"' :: rest) = word.reverse :: scan false [] rest := by
  rw [scan, if_pos rfl]

/-- Outside quotes a space ends an argument of which something has been read. -/
theorem scan_space_of_ne_nil {word : List Char} (h : word ≠ []) (rest : List Char) :
    scan false word (' ' :: rest) = word.reverse :: scan false [] rest := by
  simp [scan, h]

theorem scan_end_of_ne_nil {word : List Char} (h : word ≠ []) (quoted : Bool) :
    scan quoted word [] = [word.reverse] := by
  simp [scan, h]

/-- Any other character joins the argument in progress: one that is no quote, no space outside
quotes, and no backslash with a quote behind it. -/
theorem scan_plain {quoted : Bool} {c : Char} {rest : List Char} (hq : c ≠ '"')
    (hs : quoted = true ∨ c ≠ ' ') (hb : c = '\\' → rest.head? ≠ some '"') (word : List Char) :
    scan quoted word (c :: rest) = scan quoted (c :: word) rest := by
  by_cases hc : c = ' '
  · subst hc
    have hquoted : quoted = true := hs.resolve_right (fun h => h rfl)
    rw [scan, if_pos hquoted, hquoted]
  · rw [scan]
    · intro tail hbackslash hrest
      exact hb hbackslash (by rw [hrest]; rfl)
    · exact hq
    · exact hc

/-- What has been read of an argument stays at its front, whatever the rest of the line holds. -/
theorem scan_extends {word : List Char} (h : word ≠ []) (quoted : Bool) (rest : List Char) :
    ∃ more tail, scan quoted word rest = (word.reverse ++ more) :: tail := by
  fun_induction scan quoted word rest with
  | case1 quoted word hw => exact absurd (List.isEmpty_iff.mp hw) h
  | case2 quoted word hw => exact ⟨[], [], by rw [List.append_nil]⟩
  | case3 quoted word rest ih =>
    obtain ⟨more, tail, he⟩ := ih (List.cons_ne_nil _ _)
    exact ⟨'"' :: more, tail, by rw [he]; simp⟩
  | case4 word rest ih => exact ⟨[], _, by rw [List.append_nil]⟩
  | case5 quoted word rest hq ih => exact ih h
  | case6 word rest ih =>
    obtain ⟨more, tail, he⟩ := ih (List.cons_ne_nil _ _)
    exact ⟨' ' :: more, tail, by rw [he]; simp⟩
  | case7 quoted word rest hq hw ih => exact absurd (List.isEmpty_iff.mp hw) h
  | case8 quoted word rest hq hw ih => exact ⟨[], _, by rw [List.append_nil]⟩
  | case9 quoted word c rest _ _ _ ih =>
    obtain ⟨more, tail, he⟩ := ih (List.cons_ne_nil _ _)
    exact ⟨c :: more, tail, by rw [he]; simp⟩

theorem escapeQuotes_append (a b : List Char) :
    escapeQuotes (a ++ b) = escapeQuotes a ++ escapeQuotes b := by
  induction a with
  | nil => rfl
  | cons c a ih =>
    by_cases hc : c = '"'
    · simp [escapeQuotes, hc, ih]
    · simp [escapeQuotes, hc, ih]

theorem escapeQuotes_ne_nil {arg : List Char} (h : arg ≠ []) : escapeQuotes arg ≠ [] := by
  obtain ⟨c, arg, rfl⟩ := List.exists_cons_of_ne_nil h
  by_cases hc : c = '"'
  · simp [escapeQuotes, hc]
  · simp [escapeQuotes, hc]

/-- No escaped text starts with a quote, since each of its quotes has a backslash before it. -/
theorem head?_escapeQuotes_ne (arg : List Char) : (escapeQuotes arg).head? ≠ some '"' := by
  cases arg with
  | nil => simp [escapeQuotes]
  | cons c arg =>
    by_cases hc : c = '"'
    · simp [escapeQuotes, hc]
    · simp [escapeQuotes, hc]

/-- An escaped argument is read as it was, if it stands in quotes or holds no space, and if no quote
comes directly behind a backslash at its end. -/
theorem scan_escapeQuotes {quoted : Bool} {arg rest : List Char}
    (hs : quoted = true ∨ ' ' ∉ arg) (hb : arg.getLast? = some '\\' → rest.head? ≠ some '"')
    (word : List Char) :
    scan quoted word (escapeQuotes arg ++ rest) = scan quoted (arg.reverse ++ word) rest := by
  induction arg generalizing word with
  | nil => rfl
  | cons c arg ih =>
    have hspace : quoted = true ∨ ' ' ∉ arg := hs.imp_right (mt (List.mem_cons_of_mem c))
    have hlast : arg.getLast? = some '\\' → rest.head? ≠ some '"' := by
      intro h
      apply hb
      simp [List.getLast?_cons, h]
    have hread := ih hspace hlast (c :: word)
    rw [List.reverse_cons, List.append_assoc, List.singleton_append, ← hread]
    by_cases hc : c = '"'
    · subst hc
      rw [escapeQuotes, if_pos rfl]
      exact scan_escaped quoted word _
    · rw [escapeQuotes, if_neg hc, List.cons_append]
      refine scan_plain hc ?_ ?_ word
      · exact hs.imp_right fun h => Ne.symm (List.ne_of_not_mem_cons h)
      · -- the character behind this one is in `arg`, or `arg` is over and `rest` begins
        intro hbackslash
        rcases eq_or_ne arg [] with rfl | harg
        · exact hb (by simp [hbackslash])
        · rw [List.head?_append_of_ne_nil _ (escapeQuotes_ne_nil harg)]
          exact head?_escapeQuotes_ne arg

end ToolHost.CommandLine
