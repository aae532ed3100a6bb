import ToolHost.Machine.Basic

/-! Starting programs and waiting for them. -/
namespace ToolHost

/-- A program that is found and loaded, and the directory it is to run in. -/
structure Prepared where
  program : Place
  cwd : Place
  loaded : Loaded
  deriving DecidableEq, Repr

/-- What a host learns that watches over a program it has started. -/
inductive Watched where
  /-- How it has ended. One that was still running when its time was over has been killed. -/
  | ended (ending : Ending)
  /-- It has ended, but the system does not tell how. -/
  | untold (reason : String)
  /-- It was still running when its time was over, and the system does not kill it. -/
  | unkilled (reason : String)
  deriving DecidableEq, Repr

namespace Machine

/-- Finds what an order starts. The new program enters its directory before its own path is looked
up, so a relative path is seen from there. -/
def prepare (m : Machine) (order : Launch) : Except OsError Prepared :=
  if (order.executable :: order.args ++ order.workingDir?.toList).any (·.toList.contains '\x00') then
    .error .nulInWord
  else
    match (order.workingDir?.map (m.files.enter m.cwd)).getD (.ok m.cwd) with
    | .error e => .error e
    | .ok cwd =>
      match m.files.findProgram cwd m.searchPath order.executable with
      | .error e => .error e
      | .ok (path, place) =>
        (m.files.load cwd path place order.args).map fun loaded => ⟨place, cwd, loaded⟩

/-- How many microseconds pass before a new program does anything. -/
def startingTime : Nat := 1000

/-- The microseconds of a duration. -/
def micros (d : Duration) : Nat := d.millis * 1000

/-- All programs of the machine, none of them the host. -/
def schedule (m : Machine) : Schedule :=
  { world :=
      { files := m.files
        clock := m.background.clock
        horizon? := none
        input := m.input
        output := []
        errors := []
        channels := m.background.channels
        programs := m.background.programs
        signals := m.background.signals
        lastNumber := m.background.lastNumber }
    sleepers := m.background.sleepers }

/-- The machine after its programs have gone on for some time. -/
def settle (m : Machine) (s : Schedule) : Machine :=
  { m with
    files := s.world.filesFor m.files.stamp.mask
    input := s.world.input
    output := m.output ++ s.world.output.reverse.flatten
    errors := m.errors ++ s.world.errors.reverse.flatten
    background :=
      { clock := s.world.clock
        channels := s.world.channels
        programs := s.world.programs
        signals := s.world.signals
        lastNumber := s.world.lastNumber
        sleepers := s.sleepers } }

/-- Runs a prepared program to its end or until its time is over. Programs that are left behind go on
when the next one is started, and so does one that is not killed. -/
def runPrepared (m : Machine) (prepared : Prepared) (name : String) (limit? : Option Duration) :
    Watched × Machine :=
  let s := m.schedule
  let descriptors := (List.range 3).map fun n => (n, (⟨n, false⟩ : End))
  let (number, world) := s.world.enroll Background.hostNumber descriptors []
  let first (world : World) : Thread := m.behaviour prepared.loaded
    { world := world
      cwd := prepared.cwd
      env := m.env
      number := number
      parent := Background.hostNumber
      name := prepared.loaded.name?.getD name
      mask := m.files.stamp.mask }
  let sleeper : Sleeper := ⟨number, ⟨some (world.clock + startingTime), fun _ => false⟩, first⟩
  let s := Schedule.run (limit?.map fun limit => world.clock + micros limit)
    (fun w => (w.ending? number).isSome) Schedule.mostTurns ⟨world, s.sleepers ++ [sleeper]⟩
  let forgotten (s : Schedule) : Schedule := { s with world := s.world.forget number }
  let (watched, s) : Watched × Schedule := match s.world.ending? number with
    | some ending =>
      match m.refusals.telling? with
      | none => (.ended ending, forgotten s)
      | some reason => (.untold reason, forgotten s)
    | none =>
      match m.refusals.killing? with
      | none => (.ended .overtime, forgotten (s.kill number Signal.kill))
      | some reason => (.unkilled reason, s)
  (watched, m.settle s)

/-- Lets the programs that are left go on for some time. -/
def elapse (m : Machine) (micros : Nat) : Machine :=
  if micros = 0 then m
  else
    m.settle (Schedule.run (some (m.background.clock + micros)) (fun _ => false) Schedule.mostTurns
      m.schedule)

/-- Lets the programs that are left go on until none of them can print any more. -/
def awaitSilence (m : Machine) : Machine :=
  let prints (w : World) : Bool := w.programs.any fun (_, s) => s.descriptors.any fun (_, e) =>
    match w.channel e.channel with
    | .output | .errors => true
    | _ => false
  m.settle (Schedule.run none (fun w => !prints w) Schedule.mostTurns m.schedule)

/-- Starts a program and waits for it. -/
def launch (m : Machine) (order : Launch) : Except OsError Watched × Machine :=
  match m.prepare order with
  | .error e => (.error e, m)
  | .ok prepared =>
    let m := { m with started := ⟨prepared.program, order⟩ :: m.started }
    let (watched, m) := m.runPrepared prepared order.executable order.limit?
    (.ok watched, m)

end Machine
end ToolHost
