import ToolHost.Machine.Launching
import ToolHost.Proofs.Json.Sequences
import ToolHost.Proofs.Machine.Walks

/-! Which program an order starts. The path of the program is seen from the directory that the new
program has entered already; a bare name is looked for elsewhere. -/
namespace ToolHost.Machine
variable {m : Machine} {order : Launch} {place : Place}

theorem launch_of_prepare_error {e : OsError} (h : m.prepare order = .error e) :
    m.launch order = (.error e, m) := by
  simp only [launch, h]

/-- While a program runs, the host starts no other. -/
theorem started_runPrepared (m : Machine) (prepared : Prepared) (name : String)
    (limit? : Option Duration) : (m.runPrepared prepared name limit?).2.started = m.started :=
  rfl

/-- An order for which everything is found starts one program. -/
theorem started_launch {prepared : Prepared} (h : m.prepare order = .ok prepared) :
    (m.launch order).2.started = ⟨prepared.program, order⟩ :: m.started := by
  simp only [launch, h]
  exact started_runPrepared _ _ _ _

/-- An order starts the file at a place. -/
def Starts (m : Machine) (order : Launch) (place : Place) : Prop :=
  (m.launch order).2.started = ⟨place, order⟩ :: m.started

theorem starts_iff_prepare : m.Starts order place ↔
    ∃ prepared, m.prepare order = .ok prepared ∧ prepared.program = place := by
  unfold Starts
  cases h : m.prepare order with
  | error e =>
    rw [launch_of_prepare_error h]
    simp
  | ok prepared =>
    rw [started_launch h]
    simp

/-- The directory in which an order is carried out. -/
def directoryFor (m : Machine) (order : Launch) : Except OsError Place :=
  (order.workingDir?.map (m.files.enter m.cwd)).getD (.ok m.cwd)

/-- All words that a new program is given: its path, its arguments and its directory. -/
def wordsOf (order : Launch) : List String :=
  order.executable :: order.args ++ order.workingDir?.toList

theorem any_nul_iff {words : List String} : words.any (·.toList.contains '\x00') = true ↔
    ¬ ∀ word ∈ words, '\x00' ∉ word.toList := by
  simp

/-- A prepared program was found from the directory in which it is to run. -/
theorem exists_found_of_prepare {prepared : Prepared} (h : m.prepare order = .ok prepared) :
    (∀ word ∈ wordsOf order, '\x00' ∉ word.toList) ∧ m.directoryFor order = .ok prepared.cwd ∧
      ∃ path, m.files.findProgram prepared.cwd m.searchPath order.executable =
        .ok (path, prepared.program) := by
  rw [prepare, ← wordsOf, ← directoryFor] at h
  split at h
  · cases h
  · rename_i hwords
    split at h
    · cases h
    · rename_i cwd hcwd
      split at h
      · cases h
      · rename_i path found hfound
        obtain ⟨loaded, -, rfl⟩ := Json.exists_of_map_eq_ok h
        exact ⟨not_not.mp fun hnot => hwords (any_nul_iff.mpr hnot), hcwd, path, hfound⟩

theorem exists_prepare_of_found {cwd : Place} {path : Path} {loaded : Loaded}
    (hwords : ∀ word ∈ wordsOf order, '\x00' ∉ word.toList) (hcwd : m.directoryFor order = .ok cwd)
    (hfound : m.files.findProgram cwd m.searchPath order.executable = .ok (path, place))
    (hload : m.files.load cwd path place order.args = .ok loaded) :
    m.prepare order = .ok ⟨place, cwd, loaded⟩ := by
  rw [prepare, ← wordsOf, ← directoryFor, if_neg fun h => any_nul_iff.mp h hwords, hcwd]
  dsimp only
  rw [hfound]
  dsimp only
  rw [hload]
  rfl

/-- An order starts a program at a place if and only if its words can be written down and its path
leads there from the directory in which it is carried out. -/
theorem starts_iff_found (hp : m.files.IsProgram place) : m.Starts order place ↔
    (∀ word ∈ wordsOf order, '\x00' ∉ word.toList) ∧ ∃ cwd, m.directoryFor order = .ok cwd ∧
      ∃ path, m.files.findProgram cwd m.searchPath order.executable = .ok (path, place) := by
  rw [starts_iff_prepare]
  constructor
  · rintro ⟨prepared, hprepared, rfl⟩
    obtain ⟨hwords, hcwd, hfound⟩ := exists_found_of_prepare hprepared
    exact ⟨hwords, prepared.cwd, hcwd, hfound⟩
  · rintro ⟨hwords, cwd, hcwd, path, hfound⟩
    obtain ⟨loaded, hload⟩ := hp cwd path order.args
    exact ⟨_, exists_prepare_of_found hwords hcwd hfound hload, rfl⟩

end ToolHost.Machine
