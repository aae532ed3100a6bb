import ToolHost.Machine.Files
import ToolHost.Machine.Signal

/-! What running programs share: the files, the time, what descriptors lead to, and what each program
shows of itself to the others. -/
namespace ToolHost

/-- How a program ended. -/
inductive Ending where
  | exited (code : Nat)
  | killed (signal : Nat)
  /-- It was still running when its time was over. -/
  | overtime
  deriving DecidableEq, Repr

/-- Bytes that come in at one side and go out at the other. -/
structure Queue where
  front : Bytes
  /-- What came in since `front` was filled, the last part first. -/
  back : List Bytes
  size : Nat
  deriving DecidableEq, Repr

namespace Queue

def ofBytes (bytes : Bytes) : Queue := ⟨bytes, [], bytes.length⟩

def toList (q : Queue) : Bytes :=
  if q.back.isEmpty then q.front else q.front ++ q.back.reverse.flatten

def push (q : Queue) (bytes : Bytes) : Queue :=
  { q with back := bytes :: q.back, size := q.size + bytes.length }

/-- Takes bytes out. -/
def drop (q : Queue) (count : Nat) : Queue := ⟨q.toList.drop count, [], q.size - count⟩

end Queue

/-- What descriptors lead to. A channel may have several descriptors, which share its state. -/
inductive Channel where
  /-- The standard input of the machine. -/
  | console
  /-- The standard output of the machine. -/
  | output
  /-- The standard error of the machine. -/
  | errors
  /-- A file, at an offset. An appending channel writes at the end of the file in any case. -/
  | file (number offset : Nat) (appending : Bool)
  | directory
  /-- Bytes that were written and wait to be read. -/
  | pipe (content : Queue)
  | nowhere
  deriving DecidableEq, Repr

/-- One of the two ends of a channel. Only for pipes it matters which one. -/
structure End where
  channel : Nat
  /-- Whether it is the end to write to. -/
  writes : Bool
  deriving DecidableEq, Repr

/-- Whether a program has come to its end. -/
inductive Life where
  | going
  /-- It stands still until a signal lets it go on. -/
  | stopped
  | ended (ending : Ending)
  deriving DecidableEq, Repr

/-- What a program shows of itself to the others. -/
structure Standing where
  /-- The number of the program that started it. -/
  parent : Nat
  life : Life
  /-- The open descriptors. -/
  descriptors : List (Nat × End)
  /-- The signals that it does not notice. -/
  ignored : List Nat
  /-- The signals that it does something about. -/
  caught : List Nat
  deriving DecidableEq, Repr

/-- What running programs share. -/
structure World where
  files : FileTree
  /-- The microseconds since the machine began. -/
  clock : Nat
  /-- The time at which another program gets its turn. -/
  horizon? : Option Nat
  /-- What waits on the standard input of the machine. -/
  input : Bytes
  /-- What was written to standard output, the last part first. -/
  output : List Bytes
  errors : List Bytes
  channels : Array Channel
  /-- The programs by their numbers. One that is over stays until the one that started it has seen
  how it ended. -/
  programs : List (Nat × Standing)
  /-- The signals that were sent and not yet noticed, each with the number of its program. -/
  signals : List (Nat × Nat)
  /-- The number of the program started last. -/
  lastNumber : Nat

namespace World

/-- The world before anything is there. -/
def empty : World :=
  { files := .empty, clock := 0, horizon? := none, input := [], output := [], errors := []
    channels := #[], programs := [], signals := [], lastNumber := 0 }

/-- The microseconds from the beginning of 1970 to that of the machine. -/
def dawn : Int := 1767225600000000

/-- How many microseconds the times of files are apart at least that are not equal. -/
def tick : Nat := 4000

/-- The present time as the files keep it, counted from the beginning of 1970. -/
def now (w : World) : Int := dawn + (w.clock / tick * tick : Nat)

/-- The files, for a program that does not give some bits of a mode to what it makes. -/
def filesFor (w : World) (mask : Nat) : FileTree := { w.files with stamp := ⟨w.now, mask⟩ }

/-- The channel with a number. -/
def channel (w : World) (n : Nat) : Channel := w.channels[n]?.getD .nowhere

def setChannel (w : World) (n : Nat) (c : Channel) : World :=
  { w with channels := w.channels.setIfInBounds n c }

/-- The world with one more channel, and its number. -/
def addChannel (w : World) (c : Channel) : Nat × World :=
  (w.channels.size, { w with channels := w.channels.push c })

/-- Lets the others have their turn as soon as time passes. -/
def hurry (w : World) : World := { w with horizon? := some w.clock }

/-- Writes to a channel. -/
def write (w : World) (n : Nat) (bytes : Bytes) : World :=
  if bytes.isEmpty then w
  else
    match w.channel n with
    | .output => { w with output := bytes :: w.output }
    | .errors => { w with errors := bytes :: w.errors }
    | .file number offset appending =>
      let start := if appending then (w.files.fileData number).1.length else offset
      let files := { w.files with stamp.now := w.now }.writeAt number start bytes
      { w with files := files }.setChannel n (.file number (start + bytes.length) appending)
    | .pipe content => (w.setChannel n (.pipe (content.push bytes))).hurry
    | .console | .directory | .nowhere => w

/-- All that can be read from a channel at once. -/
def waiting (w : World) (n : Nat) : Bytes :=
  match w.channel n with
  | .console => w.input
  | .file number offset _ => (w.files.fileData number).1.drop offset
  | .pipe content => content.toList
  | .output | .errors | .directory | .nowhere => []

/-- Takes bytes off what can be read from a channel. -/
def skip (w : World) (n count : Nat) : World :=
  match w.channel n with
  | .console => { w with input := w.input.drop count }
  | .file number offset appending =>
    let length := (w.files.fileData number).1.length
    w.setChannel n (.file number (max offset (min length (offset + count))) appending)
  | .pipe content => (w.setChannel n (.pipe (content.drop count))).hurry
  | .output | .errors | .directory | .nowhere => w

def standing? (w : World) (number : Nat) : Option Standing := w.programs.lookup number

/-- Changes what a program shows of itself. -/
def update (w : World) (number : Nat) (change : Standing → Standing) : World :=
  { w with programs := w.programs.map fun (n, s) => (n, if n = number then change s else s) }

/-- Whether a program is running that has an open descriptor for an end of a channel. -/
def holds (w : World) (e : End) : Bool :=
  w.programs.any fun (_, s) => s.descriptors.any fun (_, other) => other = e

/-- Whether nothing more can come out of a channel than what waits there. -/
def isDry (w : World) (n : Nat) : Bool :=
  match w.channel n with
  | .pipe _ => !w.holds ⟨n, true⟩
  | _ => true

/-- Whether a reader of a channel need not wait. -/
def isReadable (w : World) (n : Nat) : Bool :=
  match w.channel n with
  | .pipe content => 0 < content.size || w.isDry n
  | _ => true

/-- How a program ended that is over. -/
def ending? (w : World) (number : Nat) : Option Ending :=
  match (w.standing? number).map Standing.life with
  | some (.ended ending) => some ending
  | _ => none

/-- Counts a new program in, with the descriptors it is given, and answers its number. -/
def enroll (w : World) (parent : Nat) (descriptors : List (Nat × End)) (ignored : List Nat) :
    Nat × World :=
  let number := w.lastNumber + 1
  let standing : Standing :=
    { parent := parent, life := .going, descriptors := descriptors, ignored := ignored, caught := [] }
  (number, { w with lastNumber := number, programs := w.programs ++ [(number, standing)] })

/-- Forgets a program that is over. -/
def forget (w : World) (number : Nat) : World :=
  { w with programs := w.programs.filter fun (n, _) => n != number }

/-- The number of the program to which those fall that are left alone. -/
def firstProgram : Nat := 1

/-- Notes that a program is over. Nobody will ask for those that it has started. -/
def finish (w : World) (number : Nat) (ending : Ending) : World :=
  let parentGoes := ((w.standing? number).bind fun s => w.standing? s.parent).any fun s =>
    !(s.life matches .ended _)
  let programs := w.programs.filterMap fun (n, s) =>
    if n = number then
      if parentGoes then some (n, { s with life := .ended ending, descriptors := [] }) else none
    else if s.parent = number then
      if s.life matches .ended _ then none else some (n, { s with parent := firstProgram })
    else some (n, s)
  { w with
    programs := programs
    signals := w.signals.filter fun (receiver, _) => receiver != number }.hurry

/-- Leaves a signal for a program. -/
def signal (w : World) (number signal : Nat) : World :=
  { w with signals := w.signals ++ [(number, signal)] }.hurry

/-- The signals that wait for a program. -/
def signalsFor (w : World) (number : Nat) : List Nat :=
  (w.signals.filter fun (receiver, _) => receiver = number).map Prod.snd

/-- All programs that a program has started, and those that they have started, at most so many
steps on. -/
def familyOf (w : World) : Nat → Nat → List Nat
  | 0, _ => []
  | depth + 1, number =>
    let own := (w.programs.filter fun (_, s) => s.parent = number).map Prod.fst
    own.flatMap fun n => n :: w.familyOf depth n

end World
end ToolHost
