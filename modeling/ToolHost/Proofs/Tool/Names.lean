import ToolHost.Proofs.Tool.Tables

/-! The names of the tools in a table, up to case. The table says which of its names is the first to
repeat another, whatever the order in which they came; and where none does, a tool is found under any
spelling of its name, in whatever order the entries are gone through. -/
namespace ToolHost.ToolTable
open Text

/-- A name that agrees, up to case, with a smaller one. -/
def Repeats (names : List String) (name : String) : Prop :=
  name ∈ names ∧ ∃ smaller ∈ names, smaller < name ∧ sameIgnoringCase smaller name

/-- The first name that agrees with an earlier one stands behind names of which none does. -/
theorem exists_of_firstRepeat? {seen names : List String} {name : String}
    (h : firstRepeat? seen names = some name) :
    ∃ front back, names = front ++ name :: back ∧ firstRepeat? seen front = none ∧
      (foldCase name ∈ seen ∨ ∃ earlier ∈ front, sameIgnoringCase earlier name) := by
  induction names generalizing seen with
  | nil => cases h
  | cons n names ih =>
    rw [firstRepeat?] at h
    split at h
    · rename_i hseen
      cases h
      exact ⟨[], names, rfl, rfl, .inl hseen⟩
    · rename_i hseen
      obtain ⟨front, back, rfl, hfront, hearlier⟩ := ih h
      refine ⟨n :: front, back, rfl, ?_, ?_⟩
      · rw [firstRepeat?, if_neg hseen, hfront]
      · rcases hearlier with hmem | ⟨earlier, hmem, hsame⟩
        · rcases List.mem_cons.1 hmem with hfold | hmem
          · exact .inr ⟨n, List.mem_cons_self, foldCase_eq_iff.1 hfold.symm⟩
          · exact .inl hmem
        · exact .inr ⟨earlier, List.mem_cons_of_mem _ hmem, hsame⟩

variable {t : ToolTable} {name : String} {layout : Layout} {entries : List (String × Layout)}

theorem pairwise_names (t : ToolTable) : t.names.Pairwise (· < ·) :=
  List.pairwise_map.2 t.ascending

/-- The name that is complained about is the least one that agrees with a smaller one. -/
theorem ambiguous?_eq_some_iff : t.ambiguous? = some name ↔
    Repeats t.names name ∧ ∀ other, Repeats t.names other → name ≤ other := by
  have hleast {name : String} (h : t.ambiguous? = some name) :
      Repeats t.names name ∧ ∀ other, Repeats t.names other → name ≤ other := by
    obtain ⟨front, back, hnames, hfront, hearlier⟩ := exists_of_firstRepeat? h
    have hsorted := hnames ▸ t.pairwise_names
    obtain ⟨-, hback, hcross⟩ := List.pairwise_append.1 hsorted
    have hlater := (List.pairwise_cons.1 hback).1
    obtain ⟨earlier, hmem, hsame⟩ := hearlier.resolve_left List.not_mem_nil
    refine ⟨⟨by simp [hnames], earlier, by simp [hnames, hmem],
      hcross earlier hmem name List.mem_cons_self, hsame⟩, ?_⟩
    rintro other ⟨hother, smaller, hsmaller, hlt, hagree⟩
    by_contra hle
    have hless : other < name := String.not_le.1 hle
    -- what is smaller than the name stands before it, and there no name repeats another
    have before {n : String} (hn : n ∈ t.names) (hless : n < name) : n ∈ front := by
      rw [hnames, List.mem_append, List.mem_cons] at hn
      rcases hn with hn | rfl | hn
      · exact hn
      · exact absurd hless (String.lt_irrefl _)
      · exact absurd (String.lt_trans hless (hlater n hn)) (String.lt_irrefl _)
    have hfold : foldCase smaller = foldCase other := foldCase_eq_iff.2 hagree
    have heq := List.inj_on_of_nodup_map (firstRepeat?_eq_none_iff.1 hfront).2
      (before hsmaller (String.lt_trans hlt hless)) (before hother hless) hfold
    exact String.ne_of_lt hlt heq
  refine ⟨hleast, ?_⟩
  rintro ⟨hrepeats, hmin⟩
  obtain ⟨hname, smaller, hsmaller, hlt, hsame⟩ := hrepeats
  have hsome : t.ambiguous? ≠ none := by
    intro hnone
    exact String.ne_of_lt hlt (ambiguous?_eq_none_iff.1 hnone smaller hsmaller name hname hsame)
  obtain ⟨first, hfirst⟩ := Option.ne_none_iff_exists'.1 hsome
  obtain ⟨hrepeats, hfirstmin⟩ := hleast hfirst
  have hle := hmin first hrepeats
  have hge := hfirstmin name ⟨hname, smaller, hsmaller, hlt, hsame⟩
  rw [hfirst, String.le_antisymm hge hle]

/-- The order in which the names come to be sorted does not matter. -/
theorem ambiguous?_of_perm {order : List String} (h : order.Perm t.names) :
    firstRepeat? [] (order.mergeSort fun a b => decide (a ≤ b)) = t.ambiguous? := by
  have hsorted : (order.mergeSort fun a b => decide (a ≤ b)).Pairwise (· ≤ ·) := by
    refine (List.pairwise_mergeSort ?_ ?_ order).imp of_decide_eq_true
    · intro a b c hab hbc
      rw [decide_eq_true_eq] at hab hbc ⊢
      exact String.le_trans hab hbc
    · intro a b
      rw [Bool.or_eq_true, decide_eq_true_eq, decide_eq_true_eq]
      exact String.le_total a b
  have hnames : t.names.Pairwise (· ≤ ·) := t.pairwise_names.imp fun h => Std.le_of_lt h
  have heq : (order.mergeSort fun a b => decide (a ≤ b)) = t.names :=
    List.Perm.eq_of_pairwise (fun a b _ _ => String.le_antisymm) hsorted hnames
      ((List.mergeSort_perm _ _).trans h)
  rw [heq, ambiguous?]

/-- No two entries of an unambiguous table have names that agree with one spelling. -/
theorem Unambiguous.eq_of_same (h : t.Unambiguous) {e e' : String × Layout} (he : e ∈ t.entries)
    (he' : e' ∈ t.entries) (hsame : sameIgnoringCase e.1 name) (hsame' : sameIgnoringCase e'.1 name) :
    e = e' := by
  have hname : e.1 = e'.1 := h e.1 (List.mem_map_of_mem he) e'.1 (List.mem_map_of_mem he')
    (sameIgnoringCase_trans hsame (sameIgnoringCase_symm hsame'))
  exact List.inj_on_of_nodup_map t.nodup_names he he' hname

theorem same_of_find? {e : String × Layout}
    (h : entries.find? (fun e => sameIgnoringCase e.1 name) = some e) : sameIgnoringCase e.1 name := by
  simpa using List.find?_some h

/-- A search for the only entry under a spelling ends at that entry. -/
theorem Unambiguous.find?_entries (h : t.Unambiguous) (hp : entries.Perm t.entries)
    {e : String × Layout} (he : e ∈ t.entries) (hsame : sameIgnoringCase e.1 name) :
    entries.find? (fun e => sameIgnoringCase e.1 name) = some e := by
  cases hfind : entries.find? fun e => sameIgnoringCase e.1 name with
  | none => exact absurd hsame (List.find?_eq_none.1 hfind e (hp.mem_iff.2 he))
  | some e' =>
    have he' := hp.mem_iff.1 (List.mem_of_find?_eq_some hfind)
    rw [h.eq_of_same he' he (same_of_find? hfind) hsame]

/-- A tool is found under any spelling of its name. -/
theorem Unambiguous.find?_eq_some_iff (h : t.Unambiguous) :
    t.find? name = some layout ↔ ∃ key, (key, layout) ∈ t.entries ∧ sameIgnoringCase key name := by
  rw [find?, Option.map_eq_some_iff]
  constructor
  · rintro ⟨⟨key, _⟩, hfind, rfl⟩
    exact ⟨key, List.mem_of_find?_eq_some hfind, same_of_find? hfind⟩
  · rintro ⟨key, hmem, hsame⟩
    exact ⟨(key, layout), h.find?_entries (.refl _) hmem hsame, rfl⟩

theorem find?_eq_none_iff : t.find? name = none ↔
    ∀ e ∈ t.entries, sameIgnoringCase e.1 name = false := by
  rw [find?, Option.map_eq_none_iff, List.find?_eq_none]
  simp

/-- A tool is found in whatever order the entries are gone through. -/
theorem Unambiguous.find?_of_perm (h : t.Unambiguous) (hp : entries.Perm t.entries) (name : String) :
    (entries.find? fun e => sameIgnoringCase e.1 name).map Prod.snd = t.find? name := by
  cases hfind : entries.find? fun e => sameIgnoringCase e.1 name with
  | none =>
    refine (find?_eq_none_iff.2 fun e he => ?_).symm
    simpa using List.find?_eq_none.1 hfind e (hp.mem_iff.2 he)
  | some e =>
    have he := hp.mem_iff.1 (List.mem_of_find?_eq_some hfind)
    exact (h.find?_eq_some_iff.2 ⟨e.1, he, same_of_find? hfind⟩).symm

theorem mem_insertEntry_self (name : String) (layout : Layout) (entries : List (String × Layout)) :
    (name, layout) ∈ insertEntry name layout entries := by
  induction entries with
  | nil => simp [insertEntry]
  | cons e rest ih =>
    rw [insertEntry]
    split
    · exact List.mem_cons_self
    · split
      · exact List.mem_cons_self
      · exact List.mem_cons_of_mem _ ih

theorem mem_insertEntry_of_ne {e : String × Layout} (hne : e.1 ≠ name) (he : e ∈ entries) :
    e ∈ insertEntry name layout entries := by
  induction entries with
  | nil => cases he
  | cons e' rest ih =>
    rw [insertEntry]
    split
    · exact List.mem_cons_of_mem _ he
    · split
      · rename_i heq
        rcases List.mem_cons.1 he with rfl | he
        · exact absurd heq hne
        · exact List.mem_cons_of_mem _ he
      · rcases List.mem_cons.1 he with rfl | he
        · exact List.mem_cons_self
        · exact List.mem_cons_of_mem _ (ih he)

/-- A new entry takes the place of the one of its name, and the others stay. -/
theorem mem_insert {e : String × Layout} : e ∈ (t.insert name layout).entries ↔
    e = (name, layout) ∨ e.1 ≠ name ∧ e ∈ t.entries := by
  constructor
  · intro he
    by_cases hne : e.1 = name
    · exact .inl (List.inj_on_of_nodup_map (t.insert name layout).nodup_names he
        (mem_insertEntry_self name layout t.entries) hne)
    · exact .inr ⟨hne, (mem_insertEntry he).resolve_left fun h => hne (h ▸ rfl)⟩
  · rintro (rfl | ⟨hne, he⟩)
    · exact mem_insertEntry_self name layout t.entries
    · exact mem_insertEntry_of_ne hne he

theorem mem_insertAll {e : String × Layout} : e ∈ (t.insertAll entries).entries ↔
    entries.reverse.lookup e.1 = some e.2 ∨ entries.reverse.lookup e.1 = none ∧ e ∈ t.entries := by
  induction entries generalizing t with
  | nil => simp [insertAll]
  | cons first entries ih =>
    obtain ⟨name, layout⟩ := first
    rw [show t.insertAll ((name, layout) :: entries) = (t.insert name layout).insertAll entries from rfl,
      ih, mem_insert, List.reverse_cons, List.lookup_append]
    cases entries.reverse.lookup e.1 with
    | some last => simp
    | none =>
      by_cases hname : e.1 = name
      · subst hname
        simp [Prod.ext_iff, eq_comm]
      · have hb : (e.1 == name) = false := by simpa using hname
        simp [List.lookup_cons, hb, hname, Prod.ext_iff]

/-- Of the entries under one name that a table is made of the last counts. -/
theorem mem_insertAll_empty : (name, layout) ∈ (empty.insertAll entries).entries ↔
    entries.reverse.lookup name = some layout := by
  rw [mem_insertAll, show empty.entries = [] from rfl]
  simp

theorem mem_names_insertAll_empty : name ∈ (empty.insertAll entries).names ↔
    name ∈ entries.map Prod.fst := by
  have hlookup : name ∈ (empty.insertAll entries).names ↔
      ∃ layout, entries.reverse.lookup name = some layout := by
    rw [names, List.mem_map]
    constructor
    · rintro ⟨⟨_, layout⟩, he, rfl⟩
      exact ⟨layout, mem_insertAll_empty.1 he⟩
    · rintro ⟨layout, hlast⟩
      exact ⟨(name, layout), mem_insertAll_empty.2 hlast, rfl⟩
  rw [hlookup, ← Option.ne_none_iff_exists', ne_eq, List.lookup_eq_none_iff]
  simp

end ToolHost.ToolTable
