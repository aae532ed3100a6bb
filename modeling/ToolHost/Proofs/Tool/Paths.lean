import ToolHost.Tool.Layout

/-! Paths that are put together from parts. Parts may be joined from either end, and the base counts
for the file of a tool unless a later part begins at the root. -/
namespace ToolHost

namespace Path
variable {a b c : Path}

/-- What stands between a path and one that is seen from it. -/
def separator (a : Path) : String := if a.isEmpty || endsInSlash a then "" else "/"

theorem join_of_relative (a : Path) (h : isAbsolute b = false) : join a b = a ++ separator a ++ b := by
  rw [join, h, if_neg Bool.false_ne_true, separator]
  split
  · rw [String.append_empty]
  · rfl

theorem endsInSlash_append (a : Path) (h : b ≠ "") : endsInSlash (a ++ b) = endsInSlash b := by
  obtain ⟨last, hlast⟩ := Option.isSome_iff_exists.mp
    (List.getLast?_isSome.mpr (show b.toList ≠ [] by simpa using h))
  rw [endsInSlash, endsInSlash, String.toList_append, List.getLast?_append, hlast, Option.some_or]

theorem separator_append (a : Path) (h : b ≠ "") : separator (a ++ b) = separator b := by
  have hboth : a ++ b ≠ "" := by simp [h]
  simp [separator, endsInSlash_append a h, h]

/-- One separator is enough. -/
theorem separator_append_separator (a : Path) : separator (a ++ separator a) = "" := by
  by_cases h : (a.isEmpty || endsInSlash a) = true
  · have hnone : separator a = "" := if_pos h
    rw [hnone, String.append_empty, hnone]
  · have hslash : separator a = "/" := if_neg h
    rw [hslash, separator_append a (by decide)]
    rfl

/-- A path that is seen from another one begins at the root if that does. -/
theorem isAbsolute_join_of_relative (a : Path) (h : isAbsolute b = false) :
    isAbsolute (join a b) = isAbsolute a := by
  by_cases ha : a = ""
  · subst ha
    rw [join_empty_left, h]
    rfl
  · rw [join_of_relative a h, String.append_assoc, isAbsolute_append ha]

theorem isAbsolute_join (a b : Path) : isAbsolute (join a b) = (isAbsolute b || isAbsolute a) := by
  cases hb : isAbsolute b with
  | true => rw [join_of_isAbsolute a hb, hb, Bool.true_or]
  | false => rw [isAbsolute_join_of_relative a hb, Bool.false_or]

/-- It does not matter which of three parts are joined first. -/
theorem join_assoc (a b c : Path) : join (join a b) c = join a (join b c) := by
  cases hc : isAbsolute c with
  | true => rw [join_of_isAbsolute _ hc, join_of_isAbsolute b hc, join_of_isAbsolute a hc]
  | false =>
    cases hb : isAbsolute b with
    | true =>
      have hbc : isAbsolute (join b c) := by rw [isAbsolute_join, hb, Bool.or_true]
      rw [join_of_isAbsolute a hb, join_of_isAbsolute a hbc]
    | false =>
      have hbc : isAbsolute (join b c) = false := by rw [isAbsolute_join, hb, hc, Bool.or_false]
      rw [join_of_relative a hbc, join_of_relative _ hc, join_of_relative a hb, join_of_relative b hc]
      by_cases hempty : b = ""
      · -- the separator behind `a` ends it, so none follows
        subst hempty
        simp [separator_append_separator, show separator "" = "" from rfl]
      · rw [separator_append (a ++ separator a) hempty]
        simp only [String.append_assoc]

end Path

namespace Layout
variable {layout : Layout}

theorem executablePath_eq_join (layout : Layout) (base : Path) :
    layout.executablePath base = Path.join base (Path.join layout.dir layout.executable) :=
  Path.join_assoc base layout.dir layout.executable

/-- What is relative in all its parts begins at the root only with the base. -/
theorem isAbsolute_executablePath (hdir : Path.isAbsolute layout.dir = false)
    (hexecutable : Path.isAbsolute layout.executable = false) (base : Path) :
    Path.isAbsolute (layout.executablePath base) = Path.isAbsolute base := by
  rw [executablePath, toolDir, Path.isAbsolute_join_of_relative _ hexecutable,
    Path.isAbsolute_join_of_relative _ hdir]

/-- The base does not matter exactly if a part begins at the root. -/
theorem executablePath_const_iff :
    (∀ base base', layout.executablePath base = layout.executablePath base') ↔
      Path.isAbsolute layout.dir ∨ Path.isAbsolute layout.executable := by
  constructor
  · intro hsame
    cases hdir : Path.isAbsolute layout.dir with
    | true => exact .inl rfl
    | false =>
      cases hexecutable : Path.isAbsolute layout.executable with
      | true => exact .inr rfl
      | false =>
        -- the path begins at the root for one base and not for the other
        have habsolute := isAbsolute_executablePath hdir hexecutable "/"
        rw [hsame "/" "", isAbsolute_executablePath hdir hexecutable] at habsolute
        cases habsolute
  · intro h base base'
    have habsolute : Path.isAbsolute (Path.join layout.dir layout.executable) := by
      rw [Path.isAbsolute_join, Bool.or_comm, Bool.or_eq_true]
      exact h
    rw [executablePath_eq_join, executablePath_eq_join, Path.join_of_isAbsolute base habsolute,
      Path.join_of_isAbsolute base' habsolute]

/-- The file of a tool is found by joining base, directory and name from either end. It is the same
for all bases exactly if the directory or the name begins at the root; if neither does, the path of
the file begins with that of the directory, and this one with the base. -/
theorem paths_compose (layout : Layout) :
    (∀ base, layout.executablePath base = Path.join base (Path.join layout.dir layout.executable) ∧
      layout.executablePath base = Path.join (layout.toolDir base) layout.executable) ∧
    ((∀ base base', layout.executablePath base = layout.executablePath base') ↔
      Path.isAbsolute layout.dir ∨ Path.isAbsolute layout.executable) ∧
    (Path.isAbsolute layout.dir = false → Path.isAbsolute layout.executable = false → ∀ base,
      (∃ rest, layout.executablePath base = layout.toolDir base ++ rest) ∧
        ∃ rest, layout.toolDir base = base ++ rest) := by
  refine ⟨fun base => ⟨executablePath_eq_join layout base, rfl⟩, executablePath_const_iff, ?_⟩
  intro hdir hexecutable base
  exact ⟨Path.exists_join_eq_append _ hexecutable, Path.exists_join_eq_append _ hdir⟩

/-- A directory with a separator at its end and a file without a name, seen from a base without a
separator. -/
def gridLayout : Layout := ⟨"grid/", ""⟩

theorem grid_paths_compose :
    Path.isAbsolute gridLayout.dir = false ∧ Path.isAbsolute gridLayout.executable = false ∧
      gridLayout.toolDir "/opt" = "/opt/grid/" ∧ gridLayout.executablePath "/opt" = "/opt/grid/" ∧
      (∃ rest, gridLayout.executablePath "/opt" = gridLayout.toolDir "/opt" ++ rest) ∧
      ∃ rest, gridLayout.toolDir "/opt" = "/opt" ++ rest := by
  have hdir : Path.isAbsolute gridLayout.dir = false := by decide
  have hexecutable : Path.isAbsolute gridLayout.executable = false := by decide
  obtain ⟨-, -, hbegins⟩ := paths_compose gridLayout
  exact ⟨hdir, hexecutable, by decide, by decide, hbegins hdir hexecutable "/opt"⟩

end Layout
end ToolHost
