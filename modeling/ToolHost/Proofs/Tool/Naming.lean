import Mathlib.Data.List.DropRight
import Mathlib.Data.List.TakeWhile
import ToolHost.Tool.Id

/-! Tool ids as they are shown and read again. What is read from a text is shown so that it is read
back, but an id that was made in another way may not be: its name may be another tool's, or begin or
end with blanks. -/
namespace ToolHost

namespace Text
variable {cs : List Char} {s : String}

/-- No blank stands at either end. -/
structure Trimmed (cs : List Char) : Prop where
  starts : ∀ c ∈ cs.head?, isBlank c = false
  ends : ∀ c ∈ cs.getLast?, isBlank c = false

theorem trimChars_eq_rdropWhile (cs : List Char) :
    trimChars cs = (cs.dropWhile isBlank).rdropWhile isBlank :=
  rfl

theorem trimmed_trimChars (cs : List Char) : Trimmed (trimChars cs) where
  starts c hc := by
    rw [trimChars_eq_rdropWhile] at hc
    -- what is dropped at the end leaves the front as it is
    obtain ⟨dropped, hfront⟩ := List.rdropWhile_prefix isBlank (cs.dropWhile isBlank)
    have hhead := List.head?_dropWhile_not isBlank cs
    rw [← hfront, List.head?_append, Option.mem_def.mp hc] at hhead
    exact hhead
  ends c hc := by
    rw [trimChars_eq_rdropWhile] at hc
    obtain ⟨hne, rfl⟩ := List.mem_getLast?_eq_getLast hc
    simpa using List.rdropWhile_last_not isBlank (cs.dropWhile isBlank) hne

theorem trimChars_eq_self_iff : trimChars cs = cs ↔ Trimmed cs := by
  constructor
  · intro h
    exact h ▸ trimmed_trimChars cs
  · intro h
    have hfront : cs.dropWhile isBlank = cs := by
      cases cs with
      | nil => rfl
      | cons c cs => exact List.dropWhile_cons_of_neg (by simp [h.starts c rfl])
    rw [trimChars_eq_rdropWhile, hfront, List.rdropWhile_eq_self_iff]
    intro hne
    simp [h.ends _ (List.getLast_mem_getLast? hne)]

theorem trim_eq_self_iff : trim s = s ↔ Trimmed s.toList := by
  rw [← trimChars_eq_self_iff, trim, ← String.toList_inj, String.toList_ofList]

theorem trim_trim (s : String) : trim (trim s) = trim s := by
  rw [trim_eq_self_iff, trim, String.toList_ofList]
  exact trimmed_trimChars s.toList

/-- Only blanks are trimmed away altogether. -/
theorem trim_eq_empty_iff : trim s = "" ↔ ∀ c ∈ s.toList, isBlank c = true := by
  rw [trim, ← String.toList_inj, String.toList_ofList, trimChars_eq_rdropWhile,
    String.toList_empty, List.rdropWhile_eq_nil_iff]
  constructor
  · intro h c hc
    rw [← List.takeWhile_append_dropWhile (p := isBlank) (l := s.toList), List.mem_append] at hc
    rcases hc with hc | hc
    · exact List.mem_takeWhile_imp hc
    · exact h c hc
  · intro h c hc
    exact h c ((List.dropWhile_sublist isBlank).subset hc)

end Text

namespace ToolId
open Text
variable {text name : String} {id : ToolId}

theorem ofText?_cases (h : ofText? text = some id) :
    (id = .sqliteCompare ∧ sameIgnoringCase (trim text) sqliteCompare.name = true) ∨
      (id = .reoGridCompare ∧ sameIgnoringCase (trim text) sqliteCompare.name = false ∧
        sameIgnoringCase (trim text) reoGridCompare.name = true) ∨
      (id = .other (trim text) ∧ sameIgnoringCase (trim text) sqliteCompare.name = false ∧
        sameIgnoringCase (trim text) reoGridCompare.name = false) := by
  unfold ofText? at h
  dsimp only at h
  split at h
  · cases h
  · split at h
    · rename_i hsqlite
      cases h
      exact .inl ⟨rfl, hsqlite⟩
    · rename_i hsqlite
      rw [Bool.not_eq_true] at hsqlite
      split at h
      · rename_i hgrid
        cases h
        exact .inr (.inl ⟨rfl, hsqlite, hgrid⟩)
      · rename_i hgrid
        rw [Bool.not_eq_true] at hgrid
        cases h
        exact .inr (.inr ⟨rfl, hsqlite, hgrid⟩)

theorem ofText?_eq_none_iff : ofText? text = none ↔ trim text = "" := by
  constructor
  · intro h
    by_contra hne
    have hword : (trim text).isEmpty = false := by simpa using hne
    simp only [ofText?, hword, Bool.false_eq_true, if_false] at h
    split at h
    · cases h
    · split at h
      · cases h
      · cases h
  · exact ofText?_blank

/-- The name of a tool that only a configuration describes, as a text can give it. -/
structure OwnName (name : String) : Prop where
  nonempty : name ≠ ""
  trimmed : Trimmed name.toList
  notSqlite : sameIgnoringCase name sqliteCompare.name = false
  notGrid : sameIgnoringCase name reoGridCompare.name = false

/-- A name that is not that of a known tool is kept as it is. -/
theorem ofText?_eq_other_iff :
    ofText? text = some (.other name) ↔ trim text = name ∧ OwnName name := by
  constructor
  · intro h
    have hne : trim text ≠ "" := by
      intro hblank
      rw [ofText?_blank hblank] at h
      cases h
    rcases ofText?_cases h with ⟨hid, -⟩ | ⟨hid, -⟩ | ⟨hid, hsqlite, hgrid⟩
    · cases hid
    · cases hid
    · cases hid
      exact ⟨rfl, hne, trim_eq_self_iff.mp (trim_trim text), hsqlite, hgrid⟩
  · rintro ⟨rfl, hown⟩
    have hword : (trim text).isEmpty = false := by simpa using hown.nonempty
    simp [ofText?, hword, hown.notSqlite, hown.notGrid]

/-- What is shown of an id that was read is what was read, up to case and the blanks around it. -/
theorem name_of_ofText? (h : ofText? text = some id) :
    sameIgnoringCase id.name (trim text) = true := by
  rcases ofText?_cases h with ⟨rfl, hsqlite⟩ | ⟨rfl, -, hgrid⟩ | ⟨rfl, -, -⟩
  · exact sameIgnoringCase_symm hsqlite
  · exact sameIgnoringCase_symm hgrid
  · exact sameIgnoringCase_refl _

theorem ofText?_name_other_iff : ofText? (other name).name = some (.other name) ↔ OwnName name := by
  rw [show (other name).name = name from rfl, ofText?_eq_other_iff]
  constructor
  · exact And.right
  · intro hown
    exact ⟨trim_eq_self_iff.mpr hown.trimmed, hown⟩

/-- A text names a tool if and only if something in it is no blank. The tool is then shown as the text
says, up to case and the blanks around it, and read back from that. Of all ids, however they were
made, those of known tools are read back and those whose name is not empty, has no blanks around it
and is not that of a known tool up to case. -/
theorem ids_read_back :
    (∀ text, (∃ id, ofText? text = some id) ↔ ∃ c ∈ text.toList, isBlank c = false) ∧
    (∀ text id, ofText? text = some id →
      sameIgnoringCase id.name (trim text) ∧ ofText? id.name = some id) ∧
    ∀ id, ofText? id.name = some id ↔
      id = .sqliteCompare ∨ id = .reoGridCompare ∨ ∃ name, id = .other name ∧ OwnName name := by
  have hsqlite : ofText? sqliteCompare.name = some .sqliteCompare := by decide +kernel
  have hgrid : ofText? reoGridCompare.name = some .reoGridCompare := by decide +kernel
  refine ⟨fun text => ?_, fun text id h => ⟨name_of_ofText? h, ?_⟩, fun id => ?_⟩
  · rw [← Option.ne_none_iff_exists', ne_eq, ofText?_eq_none_iff, trim_eq_empty_iff]
    simp
  · cases id with
    | sqliteCompare => exact hsqlite
    | reoGridCompare => exact hgrid
    | other name =>
      obtain ⟨-, hown⟩ := ofText?_eq_other_iff.mp h
      exact ofText?_name_other_iff.mpr hown
  · cases id with
    | sqliteCompare => exact iff_of_true hsqlite (.inl rfl)
    | reoGridCompare => exact iff_of_true hgrid (.inr (.inl rfl))
    | other name =>
      rw [ofText?_name_other_iff]
      simp

end ToolId
end ToolHost
