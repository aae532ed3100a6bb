/-! Paths as plain texts. Nothing is ever normalised: joining only glues. -/
namespace ToolHost

/-- A path as it is written. -/
abbrev Path := String

namespace Path

/-- Whether a path starts at the root. -/
def isAbsolute (p : Path) : Bool := p.toList.head? == some '/'

/-- Whether a path ends in a separator. -/
def endsInSlash (p : Path) : Bool := p.toList.getLast? == some '/'

/-- The path `b` seen from `a`. An absolute `b` stands for itself, and a separator is put between
the two unless `a` is empty or brings one. -/
def join (a b : Path) : Path :=
  if isAbsolute b then b
  else if a.isEmpty || endsInSlash a then a ++ b
  else a ++ "/" ++ b

/-- The stretches of a text between marks, empty ones included. -/
def splitAt (mark : Char) : List Char → List (List Char)
  | [] => [[]]
  | c :: rest =>
    if c = mark then [] :: splitAt mark rest
    else
      match splitAt mark rest with
      | word :: words => (c :: word) :: words
      | [] => [[c]]

/-- The names along a path; empty ones stand for separators at an end or next to each other. -/
def names (p : Path) : List String := (splitAt '/' p.toList).map String.ofList

/-- The path of the directory that holds what a path names; empty if there is no separator. -/
def parent (p : Path) : Path :=
  String.ofList ((p.toList.reverse.dropWhile (· != '/')).dropWhile (· == '/')).reverse

/-- The path of the directory above what a path names, unless that is the root or nothing at all. -/
def parent? (p : Path) : Option Path :=
  match p.toList.reverse.dropWhile (· == '/') with
  | [] => none
  | named =>
    let above := (named.dropWhile (· != '/')).reverse
    let dir := (above.reverse.dropWhile (· == '/')).reverse
    some (String.ofList (if dir.isEmpty then above.take 1 else dir))

theorem slash_mem_of_isAbsolute {p : Path} (h : isAbsolute p) : '/' ∈ p.toList :=
  List.mem_of_head? (beq_iff_eq.mp h)

theorem join_of_isAbsolute (a : Path) {b : Path} (h : isAbsolute b) : join a b = b := by
  simp [join, h]

theorem join_empty_left (b : Path) : join "" b = b := by
  unfold join
  split <;> simp

/-- A relative path that is seen from another one is put behind it. -/
theorem exists_join_eq_append (a : Path) {b : Path} (h : isAbsolute b = false) :
    ∃ rest, join a b = a ++ rest := by
  rw [join, h, if_neg Bool.false_ne_true]
  split
  · exact ⟨b, rfl⟩
  · exact ⟨"/" ++ b, String.append_assoc⟩

/-- What is seen from a directory is no bare name. -/
theorem slash_mem_join {a : Path} (h : a ≠ "") (b : Path) : '/' ∈ (join a b).toList := by
  unfold join
  split
  · rename_i hb
    exact slash_mem_of_isAbsolute hb
  · split
    · rename_i hend
      have hlast : a.toList.getLast? = some '/' := by simpa [h, endsInSlash] using hend
      rw [String.toList_append]
      exact List.mem_append_left _ (List.mem_of_getLast? hlast)
    · simp

theorem isAbsolute_append {a : Path} (h : a ≠ "") (b : Path) :
    isAbsolute (a ++ b) = isAbsolute a := by
  obtain ⟨c, rest, hcons⟩ := List.exists_cons_of_ne_nil (show a.toList ≠ [] by simpa using h)
  rw [isAbsolute, isAbsolute, String.toList_append, hcons]
  rfl

theorem splitAt_ne_nil (mark : Char) (cs : List Char) : splitAt mark cs ≠ [] := by
  cases cs with
  | nil => simp [splitAt]
  | cons c rest =>
    rw [splitAt]
    split
    · simp
    · split <;> simp

/-- A mark parts the stretches before it from those behind it. -/
theorem splitAt_append (mark : Char) (a b : List Char) :
    splitAt mark (a ++ mark :: b) = splitAt mark a ++ splitAt mark b := by
  induction a with
  | nil => simp [splitAt]
  | cons c a ih =>
    rw [List.cons_append, splitAt, splitAt, ih]
    by_cases hc : c = mark
    · rw [if_pos hc, if_pos hc, List.cons_append]
    · rw [if_neg hc, if_neg hc]
      obtain ⟨word, words, hsplit⟩ := List.exists_cons_of_ne_nil (splitAt_ne_nil mark a)
      rw [hsplit, List.cons_append]
      rfl

/-- The names of a joined path are those of its parts, except that a separator at the end of the
first one is not counted twice. -/
theorem exists_names_join {a b : Path} (ha : a ≠ "") (hb : isAbsolute b = false) :
    ∃ front idle : List String, names a = front ++ idle ∧ (∀ name ∈ idle, name = "") ∧
      names (join a b) = front ++ names b := by
  have hjoin : join a b = if endsInSlash a then a ++ b else a ++ "/" ++ b := by
    simp [join, hb, ha]
  by_cases hend : endsInSlash a = true
  · obtain ⟨front, hfront⟩ := List.getLast?_eq_some_iff.mp (beq_iff_eq.mp hend)
    refine ⟨(splitAt '/' front).map String.ofList, [""], ?_, by simp, ?_⟩
    · rw [names, hfront, splitAt_append, List.map_append]
      rfl
    · rw [hjoin, if_pos hend, names, String.toList_append, hfront, List.append_assoc,
        List.singleton_append, splitAt_append, List.map_append]
      rfl
  · refine ⟨names a, [], by simp, by simp, ?_⟩
    have hlist : (a ++ "/" ++ b).toList = a.toList ++ '/' :: b.toList := by simp
    rw [hjoin, if_neg hend, names, hlist, splitAt_append, List.map_append]
    rfl

end Path
end ToolHost
