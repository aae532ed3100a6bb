import ToolHost.Proofs.CommandLine.RoundTrip

/-! Which arguments stand for themselves on a command line. The scanner loses a character at every
quote and at every space outside quotes, and an argument that is spelled gains one for each, so
neither can be the argument as it was. -/
namespace ToolHost.CommandLine

/-- How many characters some arguments have together. -/
def extent (args : List (List Char)) : Nat := args.flatten.length

theorem extent_cons (arg : List Char) (args : List (List Char)) :
    extent (arg :: args) = arg.length + extent args := by
  rw [extent, List.flatten_cons, List.length_append, extent]

/-- The scanner adds nothing to what it reads. -/
theorem extent_scan_le (quoted : Bool) (word rest : List Char) :
    extent (scan quoted word rest) ≤ word.length + rest.length := by
  fun_induction scan quoted word rest with
  | case1 quoted word hw => simp [extent]
  | case2 quoted word hw => simp [extent]
  | case3 quoted word rest ih =>
    simp only [List.length_cons] at ih ⊢
    omega
  | case4 word rest ih | case8 quoted word rest _ _ ih =>
    rw [extent_cons, List.length_reverse]
    simp only [List.length_cons, List.length_nil] at ih ⊢
    omega
  | case5 quoted word rest _ ih | case7 quoted word rest _ _ ih =>
    simp only [List.length_cons, List.length_nil] at ih ⊢
    omega
  | case6 word rest ih | case9 quoted word c rest _ _ _ ih =>
    simp only [List.length_cons] at ih ⊢
    omega

/-- It keeps all characters only where there is no quote and no space that separates. -/
theorem plain_of_extent_scan {quoted : Bool} {word rest : List Char}
    (h : extent (scan quoted word rest) = word.length + rest.length) :
    '"' ∉ rest ∧ (quoted = false → ' ' ∉ rest) := by
  fun_induction scan quoted word rest with
  | case1 quoted word hw | case2 quoted word hw => simp
  | case3 quoted word rest ih =>
    have hle := extent_scan_le quoted ('"' :: word) rest
    simp only [List.length_cons] at h hle
    omega
  | case4 word rest ih | case8 quoted word rest _ _ ih =>
    have hle := extent_scan_le false [] rest
    rw [extent_cons, List.length_reverse] at h
    simp only [List.length_cons, List.length_nil] at h hle
    omega
  | case5 quoted word rest _ ih =>
    have hle := extent_scan_le true word rest
    simp only [List.length_cons] at h
    omega
  | case6 word rest ih =>
    obtain ⟨hquote, -⟩ := ih (by simpa [Nat.add_right_comm, Nat.add_assoc] using h)
    exact ⟨List.not_mem_cons_of_ne_of_not_mem (by decide) hquote, fun hbare => Bool.noConfusion hbare⟩
  | case7 quoted word rest _ hw ih =>
    have hle := extent_scan_le false [] rest
    simp only [List.length_cons, List.length_nil] at h hle
    omega
  | case9 quoted word c rest hescape hquote hspace ih =>
    have hrest : extent (scan quoted (c :: word) rest) = (c :: word).length + rest.length := by
      simp only [List.length_cons] at h ⊢
      omega
    obtain ⟨hquotes, hspaces⟩ := ih hrest
    refine ⟨List.not_mem_cons_of_ne_of_not_mem (Ne.symm hquote) hquotes, fun hbare => ?_⟩
    exact List.not_mem_cons_of_ne_of_not_mem (Ne.symm hspace) (hspaces hbare)

/-- An argument that is not empty and holds neither a space nor a quote. -/
def Plain (arg : List Char) : Prop := arg ≠ [] ∧ ' ' ∉ arg ∧ '"' ∉ arg

theorem quote_of_plain {arg : String} (h : Plain arg.toList) : quote arg = .bare arg := by
  obtain ⟨hne, hspace, hquote⟩ := h
  have hbare : ¬ (needsQuotes arg.toList || arg.toList.contains '"') = true := by
    simp [needsQuotes, hne, hquote, hspace]
  rw [quote, if_neg hbare]

theorem quote_of_not_plain {arg : String} (h : ¬ Plain arg.toList) :
    quote arg = .spelled (String.ofList (spell arg.toList)) := by
  have hspelled : (needsQuotes arg.toList || arg.toList.contains '"') = true := by
    by_contra hbare
    apply h
    simpa [needsQuotes, Plain, and_assoc] using hbare
  rw [quote, if_pos hspelled]

theorem length_escapeQuotes (arg : List Char) :
    (escapeQuotes arg).length = arg.length + arg.count '"' := by
  induction arg with
  | nil => rfl
  | cons c arg ih =>
    rw [escapeQuotes]
    split
    · rename_i hc
      subst hc
      rw [List.count_cons_self, List.length_cons, List.length_cons, List.length_cons, ih]
      omega
    · rename_i hc
      rw [List.count_cons_of_ne hc, List.length_cons, List.length_cons, ih]
      omega

/-- Spelling an argument that does not stand for itself makes it longer. -/
theorem length_lt_spell {arg : List Char} (h : ¬ Plain arg) : arg.length < (spell arg).length := by
  unfold spell
  split
  · simp only [List.length_cons, List.length_append, List.length_nil, length_escapeQuotes]
    omega
  · rename_i hneeds
    have hquote : '"' ∈ arg := by
      by_contra hquote
      apply h
      simpa [needsQuotes, Plain, hquote] using hneeds
    have hcount := List.count_pos_iff.mpr hquote
    rw [length_escapeQuotes]
    omega

/-- A line is its own only argument exactly when it is plain. -/
theorem scan_eq_self_iff (arg : List Char) : scan false [] arg = [arg] ↔ Plain arg := by
  constructor
  · intro h
    have hkept : extent (scan false [] arg) = ([] : List Char).length + arg.length := by
      rw [h, extent_cons]
      simp [extent]
    obtain ⟨hquote, hspace⟩ := plain_of_extent_scan hkept
    refine ⟨?_, hspace rfl, hquote⟩
    rintro rfl
    cases h
  · rintro ⟨hne, hspace, hquote⟩
    have hquotable : ¬ Unquotable arg := fun hlost => hspace hlost.1
    have hself : spell arg = arg := by
      simp [spell, needsQuotes, hne, hspace, escapeQuotes_eq_self hquote]
    have hread := scan_spell hquotable (.inl rfl)
    rwa [List.append_nil, hself] at hread

/-- An argument is left alone exactly when it is the only argument of itself as a line, and it is
never spelled as it was. -/
theorem quote_isBare_iff (arg : String) :
    ((quote arg).isBare ↔ tokenize arg = [arg]) ∧
      (∀ text, quote arg = .bare text → text = arg) ∧
      ∀ text, quote arg = .spelled text → text ≠ arg := by
  have hself : tokenize arg = [arg] ↔ Plain arg.toList := by
    rw [tokenize_eq_iff]
    exact scan_eq_self_iff arg.toList
  rw [hself]
  by_cases hplain : Plain arg.toList
  · rw [quote_of_plain hplain]
    refine ⟨iff_of_true rfl hplain, ?_, nofun⟩
    intro text htext
    cases htext
    rfl
  · rw [quote_of_not_plain hplain]
    refine ⟨iff_of_false (by simp [Quoted.isBare]) hplain, nofun, ?_⟩
    intro text htext hsame
    have hspelled : String.ofList (spell arg.toList) = arg := (Quoted.spelled.inj htext).trans hsame
    have hlonger := length_lt_spell hplain
    rw [← String.toList_ofList (l := spell arg.toList), hspelled] at hlonger
    exact absurd hlonger (Nat.lt_irrefl _)

end ToolHost.CommandLine
