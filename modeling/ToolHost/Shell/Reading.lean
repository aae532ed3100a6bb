import ToolHost.Shell.Settings

/-! The command that reads a line into variables. -/
namespace ToolHost.Shell

/-- Takes a line off bytes: its bytes, with the mark of those behind a backslash; whether it has an
end; and how many bytes it took. With `raw` a backslash is like any other byte. -/
def takeLine (raw : Bool) : Bytes → List (UInt8 × Bool) × Bool × Nat
  | [] => ([], false, 0)
  | 0x0a :: _ => ([], true, 1)
  | 0x5c :: rest =>
    if raw then
      let (line, ended, count) := takeLine raw rest
      ((0x5c, false) :: line, ended, count + 1)
    else
      match rest with
      | [] => ([], false, 1)
      | 0x0a :: rest =>
        let (line, ended, count) := takeLine raw rest
        (line, ended, count + 2)
      | b :: rest =>
        let (line, ended, count) := takeLine raw rest
        ((b, true) :: line, ended, count + 2)
  | b :: rest =>
    let (line, ended, count) := takeLine raw rest
    (if b = 0 then line else (b, false) :: line, ended, count + 1)

/-- What a line falls apart into. A marked byte separates nothing. -/
structure Separators where
  all : List UInt8

namespace Separators

def isBlank (s : Separators) (b : UInt8 × Bool) : Bool :=
  !b.2 && s.all.contains b.1 && b.1 ∈ [0x20, 0x09, 0x0a]

def isMark (s : Separators) (b : UInt8 × Bool) : Bool := !b.2 && s.all.contains b.1

/-- Takes the next field off a line, with the separator behind it: one that is no blank, and the
blanks around it. -/
def takeField (s : Separators) (line : List (UInt8 × Bool)) :
    List (UInt8 × Bool) × List (UInt8 × Bool) :=
  let (field, rest) := line.span fun b => !s.isMark b
  let rest := rest.dropWhile s.isBlank
  match rest with
  | b :: after => if s.isMark b then (field, after.dropWhile s.isBlank) else (field, rest)
  | [] => (field, [])

/-- What the last variable is given: all that is left, but a single field without its separator. -/
def lastField (s : Separators) (line : List (UInt8 × Bool)) : List (UInt8 × Bool) :=
  let (field, rest) := s.takeField line
  if rest.isEmpty then field else (line.reverse.dropWhile s.isBlank).reverse

/-- The fields of a line for so many variables. -/
def fields (s : Separators) : Nat → List (UInt8 × Bool) → List (List (UInt8 × Bool))
  | 0, _ => []
  | 1, line => [s.lastField line]
  | n + 1, line =>
    let (field, rest) := s.takeField line
    field :: fields s n rest

end Separators

/-- Takes a line off the standard input, of which some bytes have been taken before, and waits until
all of it is there. A signal that is caught breaks the waiting off. -/
def receiveLine (raw : Bool) : Nat → Bytes → Doing (List (UInt8 × Bool) × Bool)
  | 0, _ => Doing.waitForever
  | fuel + 1, before => do
    let p ← get
    match p.channel? 0 with
    | none => return ([], false)
    | some n =>
      if !p.world.isReadable n then
        Doing.await fun w => w.isReadable n || !(w.signalsFor p.number).isEmpty
      let bytes := (← get).waiting 0
      let (line, ended, count) := takeLine raw (before ++ bytes)
      modify fun p => p.skip 0 (count - before.length)
      if ended || bytes.isEmpty then return (line, ended)
      else receiveLine raw fuel (before ++ bytes)

/-- Reads a line and gives its fields to variables. The status says whether the line had an end. -/
def read : Builtin := fun words => do
  let (options, names) ← options "p:r" words
  if names.isEmpty then failWith "arg count"
  let raw := options.any fun (c, _) => c = 'r'
  let (line, ended) ← asProcess (receiveLine raw Doing.mostReads [])
  let t ← get
  let separators : Separators := ⟨(String.ofList t.separators).toUTF8.toList⟩
  let fields := separators.fields names.length (line.dropWhile separators.isBlank)
  (names.zip fields).forM fun (name, field) => do
    if !isName name then failWith s!"{name}: bad variable name"
    assign name (Bytes.text (field.map Prod.fst))
  return if ended then 0 else 1

end ToolHost.Shell
