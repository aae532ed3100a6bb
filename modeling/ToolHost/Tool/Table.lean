import ToolHost.Tool.Layout

/-! Tables from tool names to layouts. A table keeps its names in ascending order, so equal tables
hold the same entries, whatever the order in which those came. -/
namespace ToolHost

/-- Puts an entry into a list ordered by name, in place of one with the same name. -/
def insertEntry (name : String) (layout : Layout) :
    List (String × Layout) → List (String × Layout)
  | [] => [(name, layout)]
  | (n, l) :: rest =>
    if name < n then (name, layout) :: (n, l) :: rest
    else if n = name then (name, layout) :: rest
    else (n, l) :: insertEntry name layout rest

theorem mem_insertEntry {name : String} {layout : Layout} {entries : List (String × Layout)}
    {e : String × Layout} (h : e ∈ insertEntry name layout entries) :
    e = (name, layout) ∨ e ∈ entries := by
  induction entries with
  | nil => simpa [insertEntry] using h
  | cons e' rest ih =>
    obtain ⟨n, l⟩ := e'
    unfold insertEntry at h
    split at h
    · simpa using h
    · split at h
      · rcases List.mem_cons.1 h with h | h
        · exact .inl h
        · exact .inr (List.mem_cons_of_mem _ h)
      · rcases List.mem_cons.1 h with h | h
        · exact .inr (h ▸ List.mem_cons_self)
        · exact (ih h).imp_right (List.mem_cons_of_mem _)

theorem pairwise_insertEntry {name : String} {layout : Layout} {entries : List (String × Layout)}
    (h : entries.Pairwise (·.1 < ·.1)) : (insertEntry name layout entries).Pairwise (·.1 < ·.1) := by
  induction entries with
  | nil => simp [insertEntry]
  | cons e rest ih =>
    obtain ⟨n, l⟩ := e
    obtain ⟨hn, hrest⟩ := List.pairwise_cons.1 h
    unfold insertEntry
    split
    · rename_i hlt
      refine List.pairwise_cons.2 ⟨fun e he => ?_, h⟩
      rcases List.mem_cons.1 he with rfl | he
      · exact hlt
      · exact String.lt_trans hlt (hn e he)
    · split
      · rename_i heq
        exact List.pairwise_cons.2 ⟨heq ▸ hn, hrest⟩
      · rename_i hlt hne
        refine List.pairwise_cons.2 ⟨fun e he => ?_, ih hrest⟩
        rcases mem_insertEntry he with rfl | he
        · exact Std.lt_of_le_of_ne hlt hne
        · exact hn e he

/-- The layouts of named tools. -/
structure ToolTable where
  entries : List (String × Layout)
  /-- Names ascend, so no name comes twice. -/
  ascending : entries.Pairwise (·.1 < ·.1)
  deriving DecidableEq, Repr

namespace ToolTable

def empty : ToolTable := ⟨[], .nil⟩

instance : Inhabited ToolTable := ⟨empty⟩

/-- The table with one more entry; an older entry of the same name is lost. -/
def insert (t : ToolTable) (name : String) (layout : Layout) : ToolTable :=
  ⟨insertEntry name layout t.entries, pairwise_insertEntry t.ascending⟩

def names (t : ToolTable) : List String := t.entries.map Prod.fst

/-- The layout of a tool whose name may be spelled in another case. -/
def find? (t : ToolTable) (name : String) : Option Layout :=
  (t.entries.find? fun e => Text.sameIgnoringCase e.1 name).map Prod.snd

/-- The first name that agrees, up to case, with one that came before. -/
def firstRepeat? (seen : List String) : List String → Option String
  | [] => none
  | name :: rest =>
    if Text.foldCase name ∈ seen then some name else firstRepeat? (Text.foldCase name :: seen) rest

/-- The least name that agrees with a smaller one up to case. -/
def ambiguous? (t : ToolTable) : Option String := firstRepeat? [] t.names

end ToolTable
end ToolHost
