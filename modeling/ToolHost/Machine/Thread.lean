import ToolHost.Machine.World

/-! Programs that run at the same time. A program goes on by itself up to a point at which it has to
wait; then the one goes on that may do so first. -/
namespace ToolHost

/-- What a program waits for. -/
structure Wait where
  /-- The time at which it goes on in any case. -/
  until? : Option Nat
  /-- Whether it may go on now. -/
  ready : World → Bool

/-- A running program, as the machine sees it. -/
inductive Thread where
  | ends (world : World) (ending : Ending)
  | waits (world : World) (wait : Wait) (goOn : World → Thread)
  /-- It has started another program, which has its number already. -/
  | starts (world : World) (number : Nat) (child goOn : World → Thread)

/-- A part of what a program does, which comes to some value. -/
inductive Course (α : Type) where
  | done (value : α)
  | waits (world : World) (wait : Wait) (goOn : World → Course α)
  | starts (world : World) (number : Nat) (child : World → Thread) (goOn : World → Course α)

namespace Course

/-- Goes on behind a part that has to wait. -/
def behind (f : α → Course β) : Course α → Course β
  | done a => f a
  | waits world wait goOn => .waits world wait fun w => behind f (goOn w)
  | starts world number child goOn => .starts world number child fun w => behind f (goOn w)

/-- One part and then another. -/
@[inline] def bind (c : Course α) (f : α → Course β) : Course β :=
  match c with
  | done a => f a
  | c => behind f c

instance : Monad Course where
  pure := Course.done
  bind := Course.bind

/-- A part with which the program ends. -/
def thread (finish : α → World × Ending) : Course α → Thread
  | done a =>
    let (world, ending) := finish a
    .ends world ending
  | waits world wait goOn => .waits world wait fun w => thread finish (goOn w)
  | starts world number child goOn => .starts world number child fun w => thread finish (goOn w)

end Course

/-- A program as a part of what another one does that becomes it. -/
def Thread.course : Thread → Course (World × Ending)
  | ends world ending => .done (world, ending)
  | waits world wait goOn => .waits world wait fun w => course (goOn w)
  | starts world number child goOn => .starts world number child fun w => course (goOn w)

/-- A program that waits. -/
structure Sleeper where
  number : Nat
  wait : Wait
  goOn : World → Thread

/-- All programs of a machine at a time at which they wait. The one stands first that has waited for
the longest time. -/
structure Schedule where
  world : World
  sleepers : List Sleeper

namespace Schedule

/-- How many microseconds it takes until a new program does something. -/
def forkTime : Nat := 100

/-- The earlier one of two times. -/
def earlier : Option Nat → Option Nat → Option Nat
  | some a, some b => some (min a b)
  | some a, none => some a
  | none, b => b

/-- The time at which a program goes on if nothing else happens. -/
def wakeTime (w : World) (s : Sleeper) : Option Nat :=
  if ((w.standing? s.number).map Standing.life) != some .going then none
  else if s.wait.ready w then some w.clock
  else s.wait.until?.map (max w.clock)

/-- Lets a program run until it waits, with the programs that it starts. -/
def absorb (number : Nat) (others : List Sleeper) : Thread → Schedule
  | .ends world ending => ⟨world.finish number ending, others⟩
  | .waits world wait goOn => ⟨world, others ++ [⟨number, wait, goOn⟩]⟩
  | .starts world new child goOn =>
    let time := world.clock + forkTime
    absorb number (others ++ [⟨new, ⟨some time, fun _ => false⟩, child⟩])
      (goOn { world with horizon? := earlier (some time) world.horizon? })

/-- Ends a program from outside. -/
def kill (s : Schedule) (number signal : Nat) : Schedule :=
  ⟨s.world.finish number (.killed signal), s.sleepers.filter fun other => other.number != number⟩

/-- Does what a signal does to a program. One that is caught is left to the program. -/
def deliver (s : Schedule) : Nat × Nat → Schedule
  | (number, signal) =>
    let drop (s : Schedule) : Schedule :=
      { s with world.signals := s.world.signals.erase (number, signal) }
    let live (life : Life) : Schedule :=
      drop { s with world := s.world.update number fun standing => { standing with life := life } }
    match s.world.standing? number with
    | none => drop s
    | some standing =>
      if standing.life matches .ended _ then drop s
      else if signal = Signal.kill then s.kill number signal
      else if signal = Signal.stop then live .stopped
      else
        let s := if signal = Signal.goOn && standing.life = .stopped then
            { s with world := s.world.update number fun standing => { standing with life := .going } }
          else s
        if standing.ignored.contains signal then drop s
        else if standing.caught.contains signal then s
        else if signal ∈ Signal.harmless then drop s
        else if standing.life = .stopped then s
        else s.kill number signal

/-- Does what all signals do that were sent. -/
def deliverAll (s : Schedule) : Schedule := s.world.signals.foldl deliver s

/-- The program that goes on first, when that is, and when the next one does. -/
def next? (s : Schedule) : Option (Nat × Nat × Option Nat) :=
  s.sleepers.zipIdx.foldl (fun found (sleeper, place) =>
    match found, wakeTime s.world sleeper with
    | found, none => found
    | none, some time => some (time, place, none)
    | some (first, firstPlace, second?), some time =>
      if time < first then some (time, place, some first)
      else some (first, firstPlace, earlier second? (some time))) none

/-- Lets the programs run until something has come about, or up to a time. Answers with `none` as
well when they all wait for good. -/
def run (limit? : Option Nat) (finished : World → Bool) : Nat → Schedule → Schedule
  | 0, s => s
  | fuel + 1, s =>
    let s := s.deliverAll
    if finished s.world then s
    else
      match s.next? with
      | none => { s with world.clock := max s.world.clock (limit?.getD 0) }
      | some (time, place, second?) =>
        match limit?.filter (· ≤ time), s.sleepers[place]? with
        | some limit, _ => { s with world.clock := max s.world.clock limit }
        | none, none => s
        | none, some sleeper =>
          let world := { s.world with clock := time, horizon? := earlier limit? second? }
          run limit? finished fuel
            (absorb sleeper.number (s.sleepers.eraseIdx place) (sleeper.goOn world))

/-- How often programs may take turns. -/
def mostTurns : Nat := 100000000

end Schedule
end ToolHost
