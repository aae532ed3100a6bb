/-! Lists of values with keys, as small tables: what is looked up under a key is the first value
that stands there. -/
namespace ToolHost.Keyed

variable [BEq α]

/-- The list without what stands under a key. -/
def erase (k : α) (l : List (α × β)) : List (α × β) := l.filter fun e => e.1 != k

/-- The list with a value under a key, in place of any other. -/
def put (k : α) (v : β) (l : List (α × β)) : List (α × β) := (k, v) :: erase k l

variable [LawfulBEq α]

@[simp] theorem lookup_erase_self (k : α) (l : List (α × β)) : (erase k l).lookup k = none := by
  rw [List.lookup_eq_none_iff]
  intro e he
  have h := (List.mem_filter.1 he).2
  rw [bne_iff_ne] at h ⊢
  exact h.symm

theorem lookup_erase_of_ne {k k' : α} (h : k' ≠ k) (l : List (α × β)) :
    (erase k l).lookup k' = l.lookup k' := by
  induction l with
  | nil => rfl
  | cons e l ih =>
    obtain ⟨a, b⟩ := e
    by_cases ha : a = k
    · have hf : erase k ((a, b) :: l) = erase k l := by simp [erase, ha]
      have hb : (k' == a) = false := by simpa [ha] using h
      rw [hf, ih, List.lookup_cons, hb]
    · have hf : erase k ((a, b) :: l) = (a, b) :: erase k l := by simp [erase, ha]
      rw [hf, List.lookup_cons, List.lookup_cons, ih]

end ToolHost.Keyed
