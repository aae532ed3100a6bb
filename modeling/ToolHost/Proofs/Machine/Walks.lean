import Mathlib.Data.List.Basic
import ToolHost.Machine.Program

/-! Walks along paths. A walk that gets to the end of a path has passed through the directory of
each of its beginnings, links included, so that directory can be entered; and where a walk along an
absolute path begins does not depend on who walks. What is found in the end is where the names of the
path lead, each link taken for the names that it says. -/
namespace ToolHost.FileTree
variable {t : FileTree}

/-- A name on which a walk stays where it is. -/
def Idle (name : String) : Prop := name = "" ∨ name = "."

section Steps
variable {follow : Place → List String → Except OsError Place} {place : Place} {name : String}
  {rest : List String}

theorem walkStep_of_not_isDirectory (h : t.isDirectory place = false) :
    t.walkStep follow place (name :: rest) = .error .notADirectory := by
  rw [walkStep, h, if_pos (by decide)]

theorem walkStep_stay (hdir : t.isDirectory place = true) (hidle : Idle name) :
    t.walkStep follow place (name :: rest) = t.walkStep follow place rest := by
  rw [walkStep, hdir, if_neg (by decide), if_pos (show name = "" ∨ name = "." from hidle)]

theorem walkStep_up (hdir : t.isDirectory place = true) :
    t.walkStep follow place (".." :: rest) = t.walkStep follow place.dropLast rest := by
  rw [walkStep, hdir, if_neg (by decide), if_neg (by decide), if_pos rfl]

theorem walkStep_idle (hdir : t.isDirectory place = true) {idle : List String}
    (h : ∀ name ∈ idle, Idle name) : t.walkStep follow place idle = .ok place := by
  induction idle with
  | nil => rfl
  | cons name idle ih =>
    rw [List.forall_mem_cons] at h
    rw [walkStep_stay hdir h.1]
    exact ih h.2

/-! What a name does that goes on from a directory is seen from what stands there under it. -/

theorem walkStep_long (hdir : t.isDirectory place = true) (hidle : ¬ Idle name) (hup : name ≠ "..")
    (hlong : longestName < name.utf8ByteSize) :
    t.walkStep follow place (name :: rest) = .error .nameTooLong := by
  have hstay : ¬ (name = "" ∨ name = ".") := hidle
  rw [walkStep, hdir, if_neg (by decide), if_neg hstay, if_neg hup, if_pos hlong]

variable {node : Node}

theorem walkStep_missing (hdir : t.isDirectory place = true) (hidle : ¬ Idle name)
    (hup : name ≠ "..") (hlong : name.utf8ByteSize ≤ longestName)
    (hnode : t.node? (place ++ [name]) = none) : t.walkStep follow place (name :: rest) =
      if rest = [] then .ok (place ++ [name]) else .error .notFound := by
  have hstay : ¬ (name = "" ∨ name = ".") := hidle
  rw [walkStep, hdir, if_neg (by decide), if_neg hstay, if_neg hup,
    if_neg (Nat.not_lt.mpr hlong), hnode]

theorem walkStep_link {path : Path} (hdir : t.isDirectory place = true) (hidle : ¬ Idle name)
    (hup : name ≠ "..") (hlong : name.utf8ByteSize ≤ longestName)
    (hnode : t.node? (place ++ [name]) = some (.link path)) :
    t.walkStep follow place (name :: rest) =
      follow (if Path.isAbsolute path then [] else place) (Path.names path ++ rest) := by
  have hstay : ¬ (name = "" ∨ name = ".") := hidle
  rw [walkStep, hdir, if_neg (by decide), if_neg hstay, if_neg hup,
    if_neg (Nat.not_lt.mpr hlong), hnode]

theorem walkStep_down (hdir : t.isDirectory place = true) (hidle : ¬ Idle name)
    (hup : name ≠ "..") (hlong : name.utf8ByteSize ≤ longestName)
    (hnode : t.node? (place ++ [name]) = some node) (hlink : ∀ path, node ≠ .link path) :
    t.walkStep follow place (name :: rest) = t.walkStep follow (place ++ [name]) rest := by
  have hstay : ¬ (name = "" ∨ name = ".") := hidle
  rw [walkStep, hdir, if_neg (by decide), if_neg hstay, if_neg hup,
    if_neg (Nat.not_lt.mpr hlong), hnode]
  cases node with
  | link path => exact absurd rfl (hlink path)
  | directory | file | program | sink => rfl

end Steps

/-- A way to go along names that passes through directories: if it gets to the end of some names,
it has come to a directory before the last of them. -/
def Passes (t : FileTree) (go : Place → List String → Except OsError Place) : Prop :=
  ∀ {place target : Place} {front back idle : List String}, back ≠ [] →
    (∀ name ∈ idle, Idle name) → go place (front ++ back) = .ok target →
    ∃ dir, go place (front ++ idle) = .ok dir ∧ t.isDirectory dir = true

theorem Passes.walkStep {follow : Place → List String → Except OsError Place}
    (h : t.Passes follow) : t.Passes (t.walkStep follow) := by
  intro place target front back idle hback hidle hgo
  induction front generalizing place with
  | nil =>
    obtain ⟨name, rest, rfl⟩ := List.exists_cons_of_ne_nil hback
    cases hdir : t.isDirectory place with
    | false =>
      rw [List.nil_append, walkStep_of_not_isDirectory hdir] at hgo
      cases hgo
    | true => exact ⟨place, walkStep_idle hdir hidle, hdir⟩
  | cons name front ih =>
    rw [List.cons_append] at hgo ⊢
    cases hdir : t.isDirectory place with
    | false =>
      rw [walkStep_of_not_isDirectory hdir] at hgo
      cases hgo
    | true =>
      by_cases hstay : Idle name
      · rw [walkStep_stay hdir hstay] at hgo ⊢
        exact ih hgo
      by_cases hup : name = ".."
      · subst hup
        rw [walkStep_up hdir] at hgo ⊢
        exact ih hgo
      by_cases hlong : longestName < name.utf8ByteSize
      · rw [walkStep_long hdir hstay hup hlong] at hgo
        cases hgo
      have hshort := Nat.le_of_not_lt hlong
      cases hnode : t.node? (place ++ [name]) with
      | none =>
        -- only the last name may be missing, and the names of `back` are still to come
        have hmore : front ++ back ≠ [] := List.append_ne_nil_of_right_ne_nil front hback
        rw [walkStep_missing hdir hstay hup hshort hnode, if_neg hmore] at hgo
        cases hgo
      | some node =>
        by_cases hlink : ∃ path, node = .link path
        · obtain ⟨path, rfl⟩ := hlink
          rw [walkStep_link hdir hstay hup hshort hnode, ← List.append_assoc] at hgo ⊢
          exact h hback hidle hgo
        · rw [not_exists] at hlink
          rw [walkStep_down hdir hstay hup hshort hnode hlink] at hgo ⊢
          exact ih hgo

theorem passes_walk (t : FileTree) (links : Nat) : t.Passes (t.walk links) := by
  induction links with
  | zero =>
    refine Passes.walkStep ?_
    intro _ _ _ _ _ _ _ hgo
    cases hgo
  | succ links ih => exact ih.walkStep

/-- A path that is not refused has no beginning that is. -/
theorem refusal?_eq_none_of_append {a : Path} (ha : a ≠ "") (b : Path)
    (h : refusal? (a ++ b) = none) : refusal? a = none := by
  have hsize : a.utf8ByteSize ≤ (a ++ b).utf8ByteSize := by
    rw [String.utf8ByteSize_append]
    exact Nat.le_add_right _ _
  unfold refusal? at h ⊢
  split at h
  · cases h
  · rename_i hnul
    rw [if_neg fun hmem => hnul (by rw [String.toList_append]; exact List.mem_append_left _ hmem),
      if_neg ha]
    split at h
    · cases h
    · split at h
      · cases h
      · rename_i hlong
        rw [if_neg fun hlt => hlong (Nat.lt_of_lt_of_le hlt hsize)]

theorem locate_eq_ok_iff {cwd place : Place} {path : Path} : t.locate cwd path = .ok place ↔
    refusal? path = none ∧ t.walk mostLinks (start cwd path) (Path.names path) = .ok place := by
  unfold locate
  cases refusal? path with
  | none => simp
  | some e => simp

theorem find_eq_ok_iff {cwd place : Place} {path : Path} {node : Node} :
    t.find cwd path = .ok (place, node) ↔
      t.locate cwd path = .ok place ∧ t.node? place = some node := by
  unfold find
  cases t.locate cwd path with
  | error e => simp
  | ok found =>
    dsimp only
    constructor
    · intro h
      split at h
      · rename_i other hnode
        cases h
        exact ⟨rfl, hnode⟩
      · cases h
    · rintro ⟨h, hnode⟩
      cases h
      rw [hnode]

theorem refusal?_of_find {cwd : Place} {path : Path} {found : Place × Node}
    (h : t.find cwd path = .ok found) : refusal? path = none :=
  (locate_eq_ok_iff.mp (find_eq_ok_iff.mp h).1).1

theorem nul_not_mem_of_refusal? {path : Path} (h : refusal? path = none) :
    '\x00' ∉ path.toList := by
  intro hmem
  rw [refusal?, if_pos hmem] at h
  cases h

theorem ne_empty_of_refusal? {path : Path} (h : refusal? path = none) : path ≠ "" := by
  rintro rfl
  cases h

/-- Only what is found can be entered. -/
theorem exists_find_of_enter {cwd dir : Place} {path : Path} (h : t.enter cwd path = .ok dir) :
    ∃ found, t.find cwd path = .ok found := by
  unfold enter at h
  split at h
  · cases h
  · rename_i hfind
    exact ⟨_, hfind⟩
  · cases h

/-- If something is found for a relative path that is seen from a directory, one can enter that
directory. -/
theorem exists_enter_of_find_join {cwd : Place} {a b : Path} {found : Place × Node} (ha : a ≠ "")
    (hb : Path.isAbsolute b = false) (h : t.find cwd (Path.join a b) = .ok found) :
    ∃ dir, t.enter cwd a = .ok dir := by
  obtain ⟨place, node⟩ := found
  obtain ⟨rest, hjoin⟩ := Path.exists_join_eq_append a hb
  obtain ⟨front, idle, hnames, hidle, hall⟩ := Path.exists_names_join ha hb
  obtain ⟨hrefused, hwalk⟩ := locate_eq_ok_iff.mp (find_eq_ok_iff.mp h).1
  have hstart : start cwd (Path.join a b) = start cwd a := by
    rw [hjoin, start, start, Path.isAbsolute_append ha]
  have hsome : Path.names b ≠ [] := by
    rw [Path.names, ne_eq, List.map_eq_nil_iff]
    exact Path.splitAt_ne_nil _ _
  rw [hstart, hall] at hwalk
  obtain ⟨dir, hdir, hisdir⟩ :=
    t.passes_walk mostLinks hsome (fun name hmem => .inl (hidle name hmem)) hwalk
  rw [← hnames] at hdir
  have hlocate : t.locate cwd a = .ok dir :=
    locate_eq_ok_iff.mpr ⟨refusal?_eq_none_of_append ha rest (hjoin ▸ hrefused), hdir⟩
  refine ⟨dir, ?_⟩
  unfold isDirectory at hisdir
  split at hisdir
  · rename_i closed status hnode
    rw [enter, find_eq_ok_iff.mpr ⟨hlocate, hnode⟩]
  · cases hisdir

/-- What an absolute path leads to is the same for everybody. -/
theorem find_of_isAbsolute {path : Path} (h : Path.isAbsolute path = true) (cwd cwd' : Place) :
    t.find cwd path = t.find cwd' path := by
  simp only [find, locate, start, h, if_true]

theorem executableAt_of_isAbsolute {path : Path} (h : Path.isAbsolute path = true)
    (cwd cwd' : Place) : t.executableAt cwd path = t.executableAt cwd' path := by
  rw [executableAt, executableAt, find_of_isAbsolute h cwd cwd']

/-- What may be started has been found. -/
theorem exists_find_of_executableAt {cwd place : Place} {path : Path}
    (h : t.executableAt cwd path = .ok place) : ∃ node, t.find cwd path = .ok (place, node) := by
  unfold executableAt at h
  split at h
  · cases h
  · rename_i found name hfind
    cases h
    exact ⟨_, hfind⟩
  · rename_i found content status hfind
    split at h
    · cases h
      exact ⟨_, hfind⟩
    · cases h
  · cases h

/-- A file that is loaded wherever and under whatever path it is started. -/
def IsProgram (t : FileTree) (place : Place) : Prop :=
  ∀ (cwd : Place) (path : Path) (args : List String),
    ∃ loaded, t.load cwd path place args = .ok loaded

theorem isProgram_of_node? {place : Place} {name : String}
    (h : t.node? place = some (.program name)) : t.IsProgram place := by
  intro cwd path args
  refine ⟨⟨name, args, none⟩, ?_⟩
  simp only [load, loadWithin, h]

/-- Where names lead when they are followed from a place one after the other, with at most so many
links on the way. A link stands for the names that it says. -/
inductive Leads (t : FileTree) : Nat → Place → List String → Place → Prop where
  | arrived {links : Nat} {place : Place} : Leads t links place [] place
  | stays {links : Nat} {place target : Place} {name : String} {rest : List String}
    (hdir : t.isDirectory place = true) (hidle : Idle name) (h : Leads t links place rest target) :
    Leads t links place (name :: rest) target
  | ascends {links : Nat} {place target : Place} {rest : List String}
    (hdir : t.isDirectory place = true) (h : Leads t links place.dropLast rest target) :
    Leads t links place (".." :: rest) target
  | descends {links : Nat} {place target : Place} {name : String} {rest : List String} {node : Node}
    (hdir : t.isDirectory place = true) (hidle : ¬ Idle name) (hup : name ≠ "..")
    (hlong : name.utf8ByteSize ≤ longestName) (hnode : t.node? (place ++ [name]) = some node)
    (hlink : ∀ path, node ≠ .link path) (h : Leads t links (place ++ [name]) rest target) :
    Leads t links place (name :: rest) target
  | follows {links : Nat} {place target : Place} {name : String} {rest : List String} {path : Path}
    (hdir : t.isDirectory place = true) (hidle : ¬ Idle name) (hup : name ≠ "..")
    (hlong : name.utf8ByteSize ≤ longestName) (hnode : t.node? (place ++ [name]) = some (.link path))
    (h : Leads t links (if Path.isAbsolute path then [] else place) (Path.names path ++ rest)
      target) :
    Leads t (links + 1) place (name :: rest) target

section Leads
variable {links : Nat} {place target : Place} {names : List String} {node : Node}

theorem Leads.walk (h : t.Leads links place names target) :
    t.walk links place names = .ok target := by
  -- every walk is made of steps, whatever it does with links
  have hsteps (links : Nat) : ∃ follow, t.walk links = t.walkStep follow := by
    cases links with
    | zero => exact ⟨_, rfl⟩
    | succ links => exact ⟨_, rfl⟩
  induction h with
  | @arrived links place =>
    obtain ⟨follow, hwalk⟩ := hsteps links
    rw [hwalk, walkStep]
  | @stays links _ _ _ _ hdir hidle _ ih =>
    obtain ⟨follow, hwalk⟩ := hsteps links
    rw [hwalk] at ih ⊢
    rw [walkStep_stay hdir hidle, ih]
  | @ascends links _ _ _ hdir _ ih =>
    obtain ⟨follow, hwalk⟩ := hsteps links
    rw [hwalk] at ih ⊢
    rw [walkStep_up hdir, ih]
  | @descends links _ _ _ _ _ hdir hidle hup hlong hnode hlink _ ih =>
    obtain ⟨follow, hwalk⟩ := hsteps links
    rw [hwalk] at ih ⊢
    rw [walkStep_down hdir hidle hup hlong hnode hlink, ih]
  | follows hdir hidle hup hlong hnode _ ih =>
    rw [FileTree.walk, walkStep_link hdir hidle hup hlong hnode, ih]

end Leads

end ToolHost.FileTree
