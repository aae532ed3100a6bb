/-! Comparing texts while ignoring the case of ASCII letters; all other characters must be equal. -/
namespace ToolHost.Text

/-- The characters of a text with its ASCII letters in lower case. -/
def foldChars (s : String) : List Char := s.toList.map Char.toLower

/-- A text with its ASCII letters in lower case. -/
def foldCase (s : String) : String := String.ofList (foldChars s)

/-- Whether two texts agree up to the case of ASCII letters. -/
def sameIgnoringCase (s t : String) : Bool := foldChars s == foldChars t

theorem sameIgnoringCase_iff {s t : String} :
    sameIgnoringCase s t ↔ foldChars s = foldChars t := by
  simp [sameIgnoringCase]

theorem sameIgnoringCase_refl (s : String) : sameIgnoringCase s s := by
  simp [sameIgnoringCase]

theorem sameIgnoringCase_symm {s t : String} (h : sameIgnoringCase s t) : sameIgnoringCase t s := by
  rw [sameIgnoringCase_iff] at h ⊢
  exact h.symm

theorem sameIgnoringCase_trans {s t u : String} (h : sameIgnoringCase s t)
    (h' : sameIgnoringCase t u) : sameIgnoringCase s u := by
  rw [sameIgnoringCase_iff] at h h' ⊢
  exact h.trans h'

/-- Two texts agree up to case exactly when they have one lower-case form. -/
theorem foldCase_eq_iff {s t : String} : foldCase s = foldCase t ↔ sameIgnoringCase s t := by
  rw [sameIgnoringCase_iff, foldCase, foldCase, String.ofList_inj]

end ToolHost.Text
