import ToolHost.Proofs.CommandLine.RoundTrip

/-! Which lists of arguments are those of a line. Only the quotes of the last argument can be left
open, so only the last one can hold a space and end in a backslash, and joining changes the
arguments of a line in that one case. -/
namespace ToolHost.CommandLine

/-- What holds at every place of a line: outside quotes no space has been read, and a backslash that
was read last was no escape. -/
structure Reading (quoted : Bool) (word rest : List Char) : Prop where
  bare : quoted = false → ' ' ∉ word
  literal : word.head? = some '\\' → rest.head? ≠ some '"'

namespace Reading
variable {quoted : Bool} {word rest : List Char} {c : Char}

theorem start (quoted : Bool) (rest : List Char) : Reading quoted [] rest where
  bare := fun _ => List.not_mem_nil
  literal := by simp

theorem escaped (h : Reading quoted word ('\\' :: '"' :: rest)) :
    Reading quoted ('"' :: word) rest where
  bare := fun hq => List.not_mem_cons_of_ne_of_not_mem (by decide) (h.bare hq)
  literal := by simp

/-- A quote opens a stretch only behind a character that is no backslash. -/
theorem opened (h : Reading false word ('"' :: rest)) : Reading true word rest where
  bare := fun hq => absurd hq (by decide)
  literal := fun hlast => absurd rfl (h.literal hlast)

theorem plain (h : Reading quoted word (c :: rest)) (hs : quoted = true ∨ c ≠ ' ')
    (hb : c = '\\' → rest.head? ≠ some '"') : Reading quoted (c :: word) rest where
  bare := by
    rintro rfl
    have hc : c ≠ ' ' := hs.resolve_left (by decide)
    exact List.not_mem_cons_of_ne_of_not_mem hc.symm (h.bare rfl)
  literal := by simpa using hb

/-- An argument that a quote closes does not end in a backslash. -/
theorem not_unquotable_closed (h : Reading true word ('"' :: rest)) :
    ¬ Unquotable word.reverse := by
  rintro ⟨-, hlast⟩
  rw [List.getLast?_reverse] at hlast
  exact h.literal hlast rfl

/-- An argument that a space ends holds none. -/
theorem not_unquotable_bare (h : Reading false word rest) : ¬ Unquotable word.reverse := by
  rintro ⟨hspace, -⟩
  exact h.bare rfl (List.mem_reverse.mp hspace)

end Reading

theorem forall_mem_dropLast_cons {p : α → Prop} {x : α} {l : List α} (hx : p x)
    (hl : ∀ y ∈ l.dropLast, p y) : ∀ y ∈ (x :: l).dropLast, p y := by
  cases l with
  | nil => simp
  | cons z l =>
    rw [List.dropLast_cons_cons]
    exact List.forall_mem_cons.mpr ⟨hx, hl⟩

/-- Of the arguments that are still to come, only the end of the line can leave one that is
unquotable. -/
theorem Reading.dropLast_scan {quoted : Bool} {word rest : List Char}
    (h : Reading quoted word rest) :
    ∀ arg ∈ (scan quoted word rest).dropLast, ¬ Unquotable arg := by
  fun_induction scan quoted word rest with
  | case1 quoted word hw => simp
  | case2 quoted word hw => simp
  | case3 quoted word rest ih => exact ih h.escaped
  | case4 word rest ih =>
    exact forall_mem_dropLast_cons h.not_unquotable_closed (ih (.start false rest))
  | case5 quoted word rest hq ih =>
    rw [Bool.not_eq_true] at hq
    subst hq
    exact ih h.opened
  | case6 word rest ih => exact ih (h.plain (.inl rfl) (by simp))
  | case7 quoted word rest hq hw ih => exact ih (.start false rest)
  | case8 quoted word rest hq hw ih =>
    rw [Bool.not_eq_true] at hq
    subst hq
    exact forall_mem_dropLast_cons h.not_unquotable_bare (ih (.start false rest))
  | case9 quoted word c rest hescape hquote hspace ih =>
    refine ih (h.plain (.inr hspace) ?_)
    intro hc hhead
    obtain ⟨tail, rfl⟩ := List.head?_eq_some_iff.mp hhead
    exact hescape tail hc rfl

/-- Any single argument can be read: what would not survive its closing quote goes without one. -/
theorem exists_scan_eq_singleton (arg : List Char) : ∃ line, scan false [] line = [arg] := by
  by_cases h : Unquotable arg
  · -- the line ends inside the quotes, so the backslash is the last character that is read
    have hne : arg ≠ [] := List.ne_nil_of_mem h.1
    refine ⟨'"' :: (escapeQuotes arg ++ []), ?_⟩
    rw [scan_open, scan_escapeQuotes (.inl rfl) (by simp), scan_end_of_ne_nil (by simpa using hne)]
    simp
  · exact ⟨spell arg ++ [], scan_spell h (.inl rfl)⟩

theorem exists_scan_eq {args : List (List Char)} (h : ∀ arg ∈ args.dropLast, ¬ Unquotable arg) :
    ∃ line, scan false [] line = args := by
  induction args with
  | nil => exact ⟨[], rfl⟩
  | cons arg args ih =>
    cases args with
    | nil => exact exists_scan_eq_singleton arg
    | cons next args =>
      rw [List.dropLast_cons_cons, List.forall_mem_cons] at h
      obtain ⟨line, hline⟩ := ih h.2
      refine ⟨spell arg ++ ' ' :: line, ?_⟩
      rw [scan_spell h.1 (.inr rfl), scan_space, hline]

theorem exists_scan_eq_iff (args : List (List Char)) :
    (∃ line, scan false [] line = args) ↔ ∀ arg ∈ args.dropLast, ¬ Unquotable arg := by
  constructor
  · rintro ⟨line, rfl⟩
    exact (Reading.start false line).dropLast_scan
  · exact exists_scan_eq

/-- Joined arguments of a line come back exactly when the last of them is quotable. -/
theorem scan_spellAll_scan_iff (line : List Char) :
    scan false [] (spellAll (scan false [] line)) = scan false [] line ↔
      ∀ arg ∈ (scan false [] line).getLast?, ¬ Unquotable arg := by
  rw [scan_spellAll_iff]
  constructor
  · exact fun h arg hlast => h arg (List.mem_of_getLast? hlast)
  · intro h arg harg
    have hfront := (Reading.start false line).dropLast_scan
    cases hlast : (scan false [] line).getLast? with
    | none =>
      rw [List.getLast?_eq_none_iff.mp hlast] at harg
      exact absurd harg List.not_mem_nil
    | some last =>
      rw [← List.dropLast_append_getLast? last hlast, List.mem_append, List.mem_singleton] at harg
      rcases harg with hmem | rfl
      · exact hfront arg hmem
      · exact h arg hlast

/-- The arguments of lines are exactly the lists in which no argument but the last one holds a space
and ends in a backslash. Joining the arguments of a line gives a line with the same ones exactly
when the last of them, if there is one, does not do so either. -/
theorem tokenize_range_and_normal_form :
    (∀ args : List String, (∃ line, tokenize line = args) ↔
      ∀ arg ∈ args.dropLast, ¬ (' ' ∈ arg.toList ∧ arg.toList.getLast? = some '\\')) ∧
    ∀ line : String, tokenize (joinArgs (tokenize line)) = tokenize line ↔
      ∀ arg ∈ (tokenize line).getLast?, ¬ (' ' ∈ arg.toList ∧ arg.toList.getLast? = some '\\') := by
  constructor
  · intro args
    have hlines : (∃ line, tokenize line = args) ↔
        ∃ line, scan false [] line = args.map String.toList := by
      constructor
      · rintro ⟨line, hline⟩
        exact ⟨line.toList, (tokenize_eq_iff line args).mp hline⟩
      · rintro ⟨line, hline⟩
        refine ⟨String.ofList line, (tokenize_eq_iff _ args).mpr ?_⟩
        rw [String.toList_ofList, hline]
    rw [hlines, exists_scan_eq_iff, ← List.map_dropLast, List.forall_mem_map]
    rfl
  · intro line
    have hback : (tokenize line).map String.toList = scan false [] line.toList :=
      ((tokenize_eq_iff line _).mp rfl).symm
    have hlast : (scan false [] line.toList).getLast? =
        (tokenize line).getLast?.map String.toList := by
      rw [← hback, List.getLast?_map]
    rw [tokenize_eq_iff, toList_joinArgs, hback, scan_spellAll_scan_iff, hlast]
    simp only [Option.mem_def, Option.map_eq_some_iff, forall_exists_index, and_imp,
      forall_apply_eq_imp_iff₂]
    rfl

example : tokenize "a \"b c\\" = ["a", "b c\\"] ∧
    tokenize (joinArgs ["a", "b c\\"]) = ["a", "b c\""] := by
  decide +kernel

end ToolHost.CommandLine
