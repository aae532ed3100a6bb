import ToolHost.Utility.Differ

/-! The program that compares two files byte by byte. -/
namespace ToolHost.Utility

namespace Comparing

/-- A number of octal digits in a field of three characters. -/
def octal (b : UInt8) : String :=
  let digits := Nat.toDigits 8 b.toNat
  String.ofList (List.replicate (3 - digits.length) ' ' ++ digits)

/-- A byte as it can be shown: behind `M-` if its first bit is set, and behind `^` if it does not
print. -/
def shownByte (b : UInt8) : String :=
  let low := b.toNat % 128
  let front := if b.toNat < 128 then "" else "M-"
  if low < 32 then front ++ "^" ++ String.singleton (Char.ofNat (low + 64))
  else if low = 127 then front ++ "^?"
  else front ++ String.singleton (Char.ofNat low)

/-- A count with a base in front and a unit behind, and what follows it. -/
def readCount (text : List Char) : Option (Nat × List Char) :=
  let (base, rest) : Nat × List Char := match text with
    | '0' :: 'x' :: rest | '0' :: 'X' :: rest => (16, rest)
    | '0' :: rest => (8, '0' :: rest)
    | text => (10, text)
  let digit (c : Char) : Option Nat :=
    let n := if c.isDigit then c.toNat - 48 else if c.isLower then c.toNat - 87
      else if c.isUpper then c.toNat - 55 else 99
    if n < base then some n else none
  let digits := rest.takeWhile fun c => (digit c).isSome
  let rest := rest.drop digits.length
  let value := digits.foldl (fun n c => n * base + (digit c).getD 0) 0
  if digits.isEmpty then none
  else
    match rest with
    | [] => some (value, [])
    | unit :: rest =>
      match ['k', 'M', 'G', 'T', 'P', 'E'].findIdx? (· == (if unit = 'K' then 'k' else unit)) with
      | none => some (value, unit :: rest)
      | some n =>
        match rest with
        | 'B' :: rest => some (value * Nat.pow 1000 (n + 1), rest)
        | 'i' :: 'B' :: rest => some (value * Nat.pow 1024 (n + 1), rest)
        | rest => some (value * Nat.pow 1024 (n + 1), rest)

/-- How many bytes at the front of two files are left out, as one word says. -/
def readSkips (text : String) : Except String (Nat × Option Nat) :=
  let bad (text : String) : Except String (Nat × Option Nat) :=
    .error s!"invalid --ignore-initial value '{text}'"
  match readCount text.toList with
  | some (n, []) => .ok (n, none)
  | some (n, ':' :: rest) =>
    match readCount rest with
    | some (m, []) => .ok (n, some m)
    | _ => bad (String.ofList rest)
  | _ => bad text

/-- How many bytes at the front of two files are left out, as options and operands say. -/
def skips (o : Options) : Except String (Nat × Nat) := do
  let step (skipped : Nat × Nat) (option : Char × String) : Except String (Nat × Nat) := do
    if option.1 != 'i' then return skipped
    let (first, second?) ← readSkips option.2
    let first := max skipped.1 first
    match second? with
    | some second => return (first, max skipped.2 second)
    | none => return (first, max skipped.2 first)
  let fromOptions ← o.options.foldlM step (0, 0)
  let operand (n given : Nat) : Except String Nat :=
    match o.operands[n]? with
    | none => .ok given
    | some text =>
      match readCount text.toList with
      | some (m, []) => .ok (max given m)
      | _ => .error s!"invalid --ignore-initial value '{text}'"
  return (← operand 2 fromOptions.1, ← operand 3 fromOptions.2)

/-- How many bytes are compared, as options say. -/
def limit? (o : Options) : Except String (Option Nat) :=
  o.options.foldlM (fun least (c, text) =>
    if c != 'n' then .ok least
    else
      match readCount text.toList with
      | some (n, []) => .ok (some (least.elim n (min n)))
      | _ => .error s!"invalid --bytes value '{text}'") none

/-- How many bytes at the front of two texts are equal. -/
def equalFront : Bytes → Bytes → Nat → Nat
  | x :: a, y :: b, n => if x = y then equalFront a b (n + 1) else n
  | _, _, n => n

/-- How many bytes are left of a file, if that can be known without reading. -/
def sizeLeft? (p : Process) (subject : Differ.Subject) (skipped : Nat) : Option Nat :=
  match subject with
  | .found _ (.file content _) => some (content.length - skipped)
  | .found _ (.program _) => some (FileTree.programBytes.length - skipped)
  | .input =>
    match (p.channel? 0).map p.world.channel with
    | some (.file number offset _) =>
      some ((p.world.files.fileData number).1.length - (offset + skipped))
    | _ => none
  | _ => none

/-- Tells that one of two texts ends where the other goes on, with the number of its line or without
it. -/
def tellEnd (bare : Bool) (shorter : Path) (common : Bytes) : Doing Unit := do
  let front := s!"cmp: EOF on {shorter}"
  let text :=
    if common.isEmpty then s!"{front} which is empty"
    else if bare then s!"{front} after byte {common.length}"
    else
      let lines := common.count 0x0a
      if common.getLast? = some 0x0a then s!"{front} after byte {common.length}, line {lines}"
      else s!"{front} after byte {common.length}, in line {lines + 1}"
  modify fun p => p.write 2 (text ++ "\n").toUTF8.toList

/-- Tells where two texts differ, and answers whether they do. -/
def tellDifferences (o : Options) (first second : Path) (width : Nat) (a b : Bytes) :
    Doing Nat := do
  let place := equalFront a b 0
  let common := min a.length b.length
  let listing := o.has 'l'
  let p ← get
  let unseen := (p.channel? 1).map p.world.channel = some .nowhere
  if place = common && a.length = b.length then return 0
  else if o.has 's' || (unseen && place < common) then return 1
  else if place < common && !listing then
    let (x, y) := ((a.drop place).headD 0, (b.drop place).headD 0)
    let line := (a.take place).count 0x0a + 1
    if o.has 'b' || o.has 'c' then
      let bytes := s!"{octal x} {shownByte x} {octal y} {shownByte y}"
      Doing.print s!"{first} {second} differ: byte {place + 1}, line {line} is {bytes}\n"
    else Doing.print s!"{first} {second} differ: char {place + 1}, line {line}\n"
    return 1
  else
    if listing then
      for ((x, y), n) in (a.zip b).zipIdx 1 do
        if x != y then
          let number := toString n
          let number := "".pushn ' ' (width - number.length) ++ number
          if o.has 'b' || o.has 'c' then
            let shown := shownByte x
            let shown := shown ++ "".pushn ' ' (4 - shown.length)
            Doing.print s!"{number} {octal x} {shown} {octal y} {shownByte y}\n"
          else Doing.print s!"{number} {octal x} {octal y}\n"
    if a.length != b.length then
      tellEnd (listing || unseen) (if b.length < a.length then second else first) (a.take common)
    return 1

/-- The width of the numbers of bytes that may differ. -/
def widestNumber : Nat := 9223372036854775807

end Comparing

open Comparing in
/-- Compares two files byte by byte. -/
def compareFiles : Program := fun _ words => withOptions
  { letters := "bci:ln:s"
    words := [("print-bytes", 'b'), ("print-chars", 'c'), ("ignore-initial", 'i'),
      ("verbose", 'l'), ("bytes", 'n'), ("silent", 's'), ("quiet", 's')]
    failure := 2
    hint := namedHint }
  (fun o => do
    if o.has 'l' && o.has 's' then
      return ← miscompared "options -l and -s are incompatible"
    match o.operands, skips o, limit? o with
    | [], _, _ =>
      let name := (← get).name
      let last := (name :: words).getLastD ""
      miscompared s!"missing operand after '{last}'"
    | _ :: _, .error problem, _ | _ :: _, _, .error problem => miscompared problem
    | first :: rest, .ok skipped, .ok limit? =>
      let second := rest.headD "-"
      match rest[3]? with
      | some extra => return ← miscompared s!"extra operand '{extra}'"
      | none => pure ()
      let order := if second = "-" then [second, first] else [first, second]
      let mut subjects := []
      for path in order do
        if !subjects.isEmpty && first = second && skipped.1 = skipped.2 then return 0
        match ← Differ.subjectOf path with
        | .error e =>
          if !o.has 's' then blame path e
          return 2
        | .ok subject => subjects := subjects ++ [subject]
      let p ← get
      match (if second = "-" then subjects.reverse else subjects) with
      | [left, right] =>
        if Differ.isSame p.world.files left right && skipped.1 = skipped.2 then return 0
        let sizes := [sizeLeft? p left skipped.1, sizeLeft? p right skipped.2].filterMap id
        let width := (toString ((sizes ++ limit?.toList).foldl min widestNumber)).length
        let read (subject : Differ.Subject) (path : Path) (skipped : Nat) :
            Doing (Option Bytes) := do
          match ← Differ.contentOf subject with
          | .ok bytes =>
            let bytes := bytes.drop skipped
            return some (limit?.elim bytes fun n => bytes.take n)
          | .error e =>
            blame path e
            return none
        let some a ← read left first skipped.1 | return 2
        let some b ← read right second skipped.2 | return 2
        tellDifferences o first second width a b
      | _ => return 2) words

end ToolHost.Utility
