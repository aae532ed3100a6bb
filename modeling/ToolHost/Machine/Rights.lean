import ToolHost.Path

/-! Modes of files as texts: octal digits, or letters that say whose rights change and how. -/
namespace ToolHost.Rights

/-- All bits of a mode. -/
def all : Nat := 0o7777

/-- The bits of a mode that belong to the owner, the group or the others, or to all of them. -/
def classBits (c : Char) : Option Nat :=
  match c with
  | 'u' => some 0o4700
  | 'g' => some 0o2070
  | 'o' => some 0o1007
  | 'a' => some all
  | _ => none

/-- The bits that a letter stands for, given the mode of a file and whether it is a directory. -/
def letterBits (ofDirectory : Bool) (mode : Nat) (c : Char) : Option Nat :=
  match c with
  | 'r' => some 0o444
  | 'w' => some 0o222
  | 'x' => some 0o111
  | 'X' => some (if ofDirectory || mode &&& 0o111 != 0 then 0o111 else 0)
  | 's' => some 0o6000
  | 't' => some 0o1000
  | 'u' => some ((mode >>> 6 &&& 7) * 0o111)
  | 'g' => some ((mode >>> 3 &&& 7) * 0o111)
  | 'o' => some ((mode &&& 7) * 0o111)
  | _ => none

/-- All bits that letters stand for. -/
def bitsOf? (bits : Char → Option Nat) (letters : List Char) : Option Nat :=
  letters.foldlM (fun all c => (bits c).map (all ||| ·)) 0

/-- Whether a character says what is done with bits. -/
def isSign (c : Char) : Bool := c == '+' || c == '-' || c == '='

/-- The mode after the changes of one clause for the bits of some classes; with none it is for all
but those of a mask. -/
def applySigns (ofDirectory : Bool) (classes mask : Nat) : Nat → List Char → Nat → Option Nat
  | fuel + 1, sign :: rest, mode =>
    if !isSign sign then none
    else
      let (letters, rest) := rest.span fun c => !isSign c
      (bitsOf? (letterBits ofDirectory mode) letters).bind fun bits =>
        let bits := if classes = 0 then bits &&& (all - mask) else bits &&& classes
        let kept := all - (if classes = 0 then all else classes)
        let mode :=
          if sign = '+' then mode ||| bits
          else if sign = '-' then mode &&& (all - bits)
          else (mode &&& kept) ||| bits
        applySigns ofDirectory classes mask fuel rest mode
  | _, _, mode => some mode

/-- The mode after changes that are written with letters. -/
def applyLetters? (ofDirectory : Bool) (mask : Nat) (text : String) (mode : Nat) : Option Nat :=
  (Path.splitAt ',' text.toList).foldlM (fun mode clause =>
    let (letters, rest) := clause.span fun c => !isSign c
    if rest.isEmpty then none
    else (bitsOf? classBits letters).bind fun classes =>
      applySigns ofDirectory classes mask rest.length rest mode) mode

/-- The mode that octal digits say. -/
def octal? (text : String) : Option Nat :=
  let digits := text.toList
  if digits.isEmpty || digits.any fun c => c < '0' || '7' < c then none
  else
    let n := digits.foldl (fun n c => n * 8 + (c.toNat - '0'.toNat)) 0
    if n ≤ all then some n else none

/-- The mode after what a text says is done to it. -/
def change? (ofDirectory : Bool) (mask : Nat) (text : String) (mode : Nat) : Option Nat :=
  (octal? text).or (applyLetters? ofDirectory mask text mode)

/-- A number below 4096 in octal digits, at least so many. -/
def octalText (least n : Nat) : String :=
  let digits := String.ofList (Nat.toDigits 8 n)
  "".pushn '0' (least - digits.length) ++ digits

/-- The rights of a mode as nine letters. -/
def text (mode : Nat) : String :=
  let has (bit : Nat) : Bool := mode &&& bit != 0
  let part (shift special : Nat) (letter : Char) : String :=
    let bits := mode >>> shift
    let run := bits &&& 1 != 0
    let last := if has special then (if run then letter else letter.toUpper)
      else if run then 'x' else '-'
    String.ofList [if bits &&& 4 = 0 then '-' else 'r', if bits &&& 2 = 0 then '-' else 'w', last]
  part 6 0o4000 's' ++ part 3 0o2000 's' ++ part 0 0o1000 't'

end ToolHost.Rights
