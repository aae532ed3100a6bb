import Mathlib.Data.List.Nodup
import ToolHost.Tool.Table

/-! Tables of tools that are filled entry by entry. Entries of different names may come in any order,
and a table is free of ambiguity exactly when no two of its names agree up to case. -/
namespace ToolHost

theorem perm_insertEntry {name : String} {layout : Layout} {entries : List (String × Layout)}
    (h : name ∉ entries.map Prod.fst) :
    (insertEntry name layout entries).Perm ((name, layout) :: entries) := by
  induction entries with
  | nil => rfl
  | cons e rest ih =>
    obtain ⟨n, l⟩ := e
    obtain ⟨hne, hrest⟩ := not_or.1 (mt List.mem_cons.2 h)
    rw [insertEntry]
    split
    · rfl
    · rw [if_neg (Ne.symm hne)]
      exact ((ih hrest).cons (n, l)).trans (.swap _ _ _)

namespace ToolTable

/-- The table with several more entries, put in one after the other. -/
def insertAll (t : ToolTable) (entries : List (String × Layout)) : ToolTable :=
  entries.foldl (fun t e => t.insert e.1 e.2) t

theorem nodup_names (t : ToolTable) : t.names.Nodup :=
  List.pairwise_map.2 (t.ascending.imp fun h => String.ne_of_lt h)

/-- The order in which a table keeps its entries is no part of what it says. -/
theorem eq_of_perm {t u : ToolTable} (h : t.entries.Perm u.entries) : t = u := by
  have heq : t.entries = u.entries := by
    refine List.Perm.eq_of_pairwise (fun e e' _ _ hlt hgt => ?_) t.ascending u.ascending h
    exact absurd (String.lt_trans hlt hgt) (String.lt_irrefl _)
  cases t
  cases u
  cases heq
  rfl

theorem perm_insertAll {t : ToolTable} {entries : List (String × Layout)}
    (h : ((entries ++ t.entries).map Prod.fst).Nodup) :
    (t.insertAll entries).entries.Perm (entries ++ t.entries) := by
  induction entries generalizing t with
  | nil => rfl
  | cons e entries ih =>
    have hname : e.1 ∉ t.entries.map Prod.fst := fun hmem =>
      (List.nodup_cons.1 h).1 (((List.sublist_append_right _ _).map _).subset hmem)
    -- the entry has left the list and stands in the table now
    have hmove : (entries ++ (t.insert e.1 e.2).entries).Perm (e :: entries ++ t.entries) :=
      ((perm_insertEntry hname).append_left entries).trans List.perm_middle
    exact (ih ((hmove.map Prod.fst).nodup_iff.2 h)).trans hmove

/-- Entries of different names make the same table in whatever order they come. -/
theorem insertAll_of_perm {t : ToolTable} {entries : List (String × Layout)}
    (h : entries.Perm t.entries) : empty.insertAll entries = t := by
  have hnames : ((entries ++ empty.entries).map Prod.fst).Nodup := by
    rw [show empty.entries = [] from rfl, List.append_nil]
    exact (h.map Prod.fst).nodup_iff.2 t.nodup_names
  refine eq_of_perm ((perm_insertAll hnames).trans ?_)
  rw [show empty.entries = [] from rfl, List.append_nil]
  exact h

theorem insertAll_eq_of_perm {entries entries' : List (String × Layout)} (h : entries.Perm entries')
    (hnames : (entries.map Prod.fst).Nodup) : empty.insertAll entries' = empty.insertAll entries := by
  have hempty : entries ++ empty.entries = entries := List.append_nil entries
  have hperm : (empty.insertAll entries).entries.Perm (entries ++ empty.entries) :=
    perm_insertAll (by rwa [hempty])
  rw [hempty] at hperm
  exact insertAll_of_perm (h.symm.trans hperm.symm)

/-- No two names of a table agree up to case. -/
def Unambiguous (t : ToolTable) : Prop :=
  ∀ a ∈ t.names, ∀ b ∈ t.names, Text.sameIgnoringCase a b → a = b

theorem firstRepeat?_eq_none_iff {seen names : List String} :
    firstRepeat? seen names = none ↔
      (∀ name ∈ names, Text.foldCase name ∉ seen) ∧ (names.map Text.foldCase).Nodup := by
  induction names generalizing seen with
  | nil => simp [firstRepeat?]
  | cons name names ih =>
    by_cases hname : Text.foldCase name ∈ seen
    · simp [firstRepeat?, hname]
    · rw [firstRepeat?, if_neg hname, ih, List.forall_mem_cons, List.map_cons, List.nodup_cons]
      simp only [List.mem_cons, List.mem_map]
      grind

theorem mem_of_firstRepeat? {seen names : List String} {name : String}
    (h : firstRepeat? seen names = some name) : name ∈ names := by
  induction names generalizing seen with
  | nil => cases h
  | cons n names ih =>
    rw [firstRepeat?] at h
    split at h
    · exact Option.some.inj h ▸ List.mem_cons_self
    · exact List.mem_cons_of_mem _ (ih h)

theorem ambiguous?_eq_none_iff {t : ToolTable} : t.ambiguous? = none ↔ t.Unambiguous := by
  have hnames : (t.names.map Text.foldCase).Nodup ↔ t.Unambiguous := by
    refine ⟨fun h a ha b hb hsame => ?_, fun h => ?_⟩
    · exact List.inj_on_of_nodup_map h ha hb (Text.foldCase_eq_iff.2 hsame)
    · refine t.nodup_names.map_on fun a ha b hb hfold => ?_
      exact h a ha b hb (Text.foldCase_eq_iff.1 hfold)
  rw [ambiguous?, firstRepeat?_eq_none_iff, hnames]
  simp

instance (t : ToolTable) : Decidable t.Unambiguous := decidable_of_iff _ ambiguous?_eq_none_iff

end ToolTable
end ToolHost
