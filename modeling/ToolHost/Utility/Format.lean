import ToolHost.Decimal.Places
import ToolHost.Utility.Quotation

/-! Formats: texts with escapes and with places to which arguments are put. -/
namespace ToolHost.Utility

/-- The two makes of the programs that print formats. They differ in the escapes they know, in the
precision of their fractions and in the words of their complaints. -/
inductive Make where
  /-- What a shell brings with it. -/
  | builtin
  /-- The program of the machine. -/
  | program
  deriving DecidableEq

def utf8 (text : List Char) : Bytes := (String.ofList text).toUTF8.toList

/-- The value of a digit in some base. -/
def digitIn? (base : Nat) (c : Char) : Option Nat :=
  let value :=
    if c.isDigit then c.toNat - '0'.toNat
    else if c.isAlpha then c.toLower.toNat - 'a'.toNat + 10
    else base
  if value < base then some value else none

/-- The value of digits. -/
def valueIn (base : Nat) (digits : List Char) : Nat :=
  digits.foldl (fun n c => n * base + (digitIn? base c).getD 0) 0

/-- Splits off at most so many digits. -/
def spanDigits (base limit : Nat) (text : List Char) : List Char × List Char :=
  let digits := (text.take limit).takeWhile fun c => (digitIn? base c).isSome
  (digits, text.drop digits.length)

/-- The byte that a letter behind a backslash stands for. -/
def letterEscape? : Char → Option UInt8
  | 'a' => some 0x07
  | 'b' => some 0x08
  | 'e' => some 0x1b
  | 'f' => some 0x0c
  | 'n' => some 0x0a
  | 'r' => some 0x0d
  | 't' => some 0x09
  | 'v' => some 0x0b
  | '\\' => some 0x5c
  | _ => none

/-- What an escape stands for, behind its backslash. -/
def escape (make : Make) (text : List Char) : Bytes × List Char :=
  match text with
  | [] => ([0x5c], [])
  | c :: rest =>
    match letterEscape? c with
    | some byte => ([byte], rest)
    | none =>
      if (digitIn? 8 c).isSome then
        let (digits, rest) := spanDigits 8 3 text
        ([UInt8.ofNat (valueIn 8 digits)], rest)
      else if make = .program then
        if c = 'x' && (rest.head?.bind (digitIn? 16)).isSome then
          let (digits, rest) := spanDigits 16 2 rest
          ([UInt8.ofNat (valueIn 16 digits)], rest)
        else if (c = 'u' || c = 'U') && (rest.head?.bind (digitIn? 16)).isSome then
          let (digits, rest) := spanDigits 16 (if c = 'u' then 4 else 8) rest
          (utf8 [Char.ofNat (valueIn 16 digits)], rest)
        else if c = '"' then ([0x22], rest)
        else (utf8 ['\\', c], rest)
      else ([0x5c], text)

/-- A text with its escapes replaced, and whether one of them said to print no more. An octal number
may have an extra zero in front. -/
def unescape (make : Make) : Nat → List Char → Bytes × Bool
  | 0, _ => ([], false)
  | _, [] => ([], false)
  | _ + 1, '\\' :: 'c' :: _ => ([], true)
  | fuel + 1, '\\' :: rest =>
    let rest := match rest with
      | '0' :: c :: _ => if (digitIn? 8 c).isSome then rest.tail else rest
      | rest => rest
    let (bytes, rest) := escape make rest
    let (more, stopped) := unescape make fuel rest
    (bytes ++ more, stopped)
  | fuel + 1, c :: rest =>
    let (more, stopped) := unescape make fuel rest
    (utf8 [c] ++ more, stopped)

/-- Where and how an argument is put. -/
structure Slot where
  left : Bool := false
  plus : Bool := false
  space : Bool := false
  zero : Bool := false
  alternative : Bool := false
  width : Nat := 0
  precision? : Option Nat := none
  conversion : Char

/-- Fills a text up to the width of its slot. Zeros go behind the sign. -/
def Slot.fill (slot : Slot) (sign digits : String) (zeros : Bool) : String :=
  let missing := slot.width - (sign.utf8ByteSize + digits.utf8ByteSize)
  if slot.left then sign ++ digits ++ "".pushn ' ' missing
  else if zeros && slot.zero then sign ++ "".pushn '0' missing ++ digits
  else "".pushn ' ' missing ++ sign ++ digits

/-- The part of bytes that a precision lets through, filled up to the width. -/
def Slot.fillBytes (slot : Slot) (bytes : Bytes) : Bytes :=
  let bytes := match slot.precision? with
    | some n => bytes.take n
    | none => bytes
  let blanks := List.replicate (slot.width - bytes.length) 0x20
  if slot.left then bytes ++ blanks else blanks ++ bytes

def isSpace (c : Char) : Bool := c == ' ' || (9 ≤ c.toNat && c.toNat ≤ 13)

/-- Reads the digits of a whole number, with their base: eight behind a zero, sixteen behind `0x`. -/
def spanWhole (text : List Char) : Option (Nat × List Char) :=
  let (base, text) := match text with
    | '0' :: x :: c :: rest =>
      if (x = 'x' || x = 'X') && (digitIn? 16 c).isSome then (16, c :: rest) else (8, text)
    | '0' :: _ => (8, text)
    | _ => (10, text)
  let (digits, rest) := spanDigits base text.length text
  if digits.isEmpty then none else some (valueIn base digits, rest)

/-- Reads a sign. -/
def spanSign (text : List Char) : Bool × List Char :=
  match text with
  | '-' :: rest => (true, rest)
  | '+' :: rest => (false, rest)
  | rest => (false, rest)

/-- What is wrong with an argument for a number. -/
inductive NumberProblem where
  | noNumber
  | trailing
  | outOfRange
  deriving DecidableEq

def greatestInt : Int := 9223372036854775807

def leastInt : Int := -9223372036854775808

/-- The whole number of an argument; a quote in front means the number of a character. -/
def readInt (signed : Bool) (arg : String) : Int × Option NumberProblem :=
  match arg.toList with
  | [] => (0, none)
  | '"' :: c :: _ | '\'' :: c :: _ => (c.toNat, none)
  | chars =>
    let (negative, rest) := spanSign (chars.dropWhile isSpace)
    match spanWhole rest with
    | none => (0, some .noNumber)
    | some (n, rest) =>
      let value : Int := if negative then -n else n
      let (least, greatest) : Int × Int :=
        if signed then (leastInt, greatestInt) else (-(2 * greatestInt + 1), 2 * greatestInt + 1)
      if greatest < value then (greatest, some .outOfRange)
      else if value < least then (least, some .outOfRange)
      else (value, if rest.isEmpty then none else some .trailing)

/-- Reads a decimal with its exponent at the front: whether it is negative, its value, and what
follows. -/
def spanFraction (text : List Char) : Option (Bool × Decimal.Fraction × List Char) :=
  let (negative, rest) := spanSign (text.dropWhile isSpace)
  let (whole, rest) := spanDigits 10 rest.length rest
  let (tail, rest) := match rest with
    | '.' :: rest => spanDigits 10 rest.length rest
    | rest => ([], rest)
  if whole.isEmpty && tail.isEmpty then none
  else
    let (exponent, rest) : Int × List Char := match rest with
      | e :: more =>
        let (down, more) := spanSign more
        let (digits, left) := spanDigits 10 more.length more
        if (e = 'e' || e = 'E') && !digits.isEmpty && digits.length < 5 then
          (if down then -(valueIn 10 digits : Int) else valueIn 10 digits, left)
        else (0, rest)
      | [] => (0, [])
    let f : Decimal.Fraction := ⟨valueIn 10 (whole ++ tail), Decimal.tenToThe tail.length⟩
    some (negative, f.scaled Decimal.tenToThe exponent, rest)

/-- The fraction of an argument, and whether it is negative. -/
def readFraction (arg : String) : Bool × Decimal.Fraction × Option NumberProblem :=
  match arg.toList with
  | [] => (false, ⟨0, 1⟩, none)
  | '"' :: c :: _ | '\'' :: c :: _ => (false, ⟨c.toNat, 1⟩, none)
  | chars =>
    match spanFraction chars with
    | none => (false, ⟨0, 1⟩, some .noNumber)
    | some (negative, f, rest) => (negative, f, if rest.isEmpty then none else some .trailing)

/-- The digits of a number in some base, at least so many. -/
def digitsIn (base : Nat) (least n : Nat) : String :=
  let digits := if n = 0 && least = 0 then [] else Nat.toDigits base n
  String.ofList (List.replicate (least - digits.length) '0' ++ digits)

def Slot.signOf (slot : Slot) (negative : Bool) : String :=
  if negative then "-" else if slot.plus then "+" else if slot.space then " " else ""

/-- Writes a whole number. -/
def Slot.whole (slot : Slot) (value : Int) : String :=
  let unsigned : Nat := (value % 18446744073709551616).toNat
  let least := slot.precision?.getD 1
  let zeros := slot.precision?.isNone
  match slot.conversion with
  | 'o' =>
    let digits := digitsIn 8 least unsigned
    slot.fill (if slot.alternative && !digits.startsWith "0" then "0" else "") digits zeros
  | 'x' => slot.fill (if slot.alternative && unsigned != 0 then "0x" else "")
      (digitsIn 16 least unsigned) zeros
  | 'X' => slot.fill (if slot.alternative && unsigned != 0 then "0X" else "")
      (digitsIn 16 least unsigned).toUpper zeros
  | 'u' => slot.fill "" (digitsIn 10 least unsigned) zeros
  | _ => slot.fill (slot.signOf (value < 0)) (digitsIn 10 least value.natAbs) zeros

/-- Writes an exponent with its sign and at least two digits. -/
def exponentText (mark : Char) (exponent : Int) : String :=
  String.singleton mark ++ (if exponent < 0 then "-" else "+") ++ digitsIn 10 2 exponent.natAbs

/-- Digits with a point behind the first. -/
def pointed (digits : List Char) : String :=
  String.ofList (digits.take 1) ++
    (if digits.length ≤ 1 then "" else "." ++ String.ofList (digits.drop 1))

/-- The part of a decimal in front of the zeros that say nothing. -/
def withoutZeros (text : String) : String :=
  if '.' ∈ text.toList then
    let kept := text.toList.reverse.dropWhile (· == '0')
    String.ofList (if kept.head? = some '.' then kept.tail else kept).reverse
  else text

/-- Writes a fraction. -/
def Slot.fraction (slot : Slot) (make : Make) (negative : Bool) (f : Decimal.Fraction) : String :=
  let f := f.roundedTo (match make with | .builtin => 53 | .program => 64)
  let places := slot.precision?.getD 6
  let mark := if slot.conversion.isUpper then 'E' else 'e'
  let text :=
    match slot.conversion.toLower with
    | 'f' => f.fixed places
    | 'e' =>
      let (digits, exponent) := f.scientific places
      pointed digits ++ exponentText mark exponent
    | _ =>
      let places := max places 1
      let (digits, exponent) := f.scientific (places - 1)
      let trim (s : String) := if slot.alternative then s else withoutZeros s
      if exponent < -4 || (places : Int) ≤ exponent then
        trim (pointed digits) ++ exponentText mark exponent
      else trim (f.fixed (places - 1 - exponent).toNat)
  slot.fill (slot.signOf negative) text true

/-- What printing a format has come to. -/
structure Printing where
  bytes : Bytes
  args : List String
  complaints : List String
  /-- Whether an escape said to print no more. -/
  stopped : Bool

namespace Printing

def add (p : Printing) (bytes : Bytes) : Printing := { p with bytes := p.bytes ++ bytes }

/-- Takes the next argument. -/
def next (p : Printing) : String × Printing := (p.args.headD "", { p with args := p.args.tail })

/-- Complains about an argument that is no number. -/
def blame (p : Printing) (make : Make) (arg : String) : Option NumberProblem → Printing
  | none => p
  | some problem =>
    let text := match make, problem with
      | .builtin, .noNumber => s!"{arg}: expected numeric value"
      | .builtin, .trailing => s!"{arg}: not completely converted"
      | .program, .noNumber => s!"{cited arg}: expected a numeric value"
      | .program, .trailing => s!"{cited arg}: value not completely converted"
      | .builtin, .outOfRange => s!"{arg}: Numerical result out of range"
      | .program, .outOfRange => s!"{cited arg}: Numerical result out of range"
    { p with complaints := p.complaints ++ [text] }

end Printing

/-- Reads the flags of a slot. -/
def readFlags (slot : Slot) : List Char → Slot × List Char
  | '-' :: rest => readFlags { slot with left := true } rest
  | '+' :: rest => readFlags { slot with plus := true } rest
  | ' ' :: rest => readFlags { slot with space := true } rest
  | '0' :: rest => readFlags { slot with zero := true } rest
  | '#' :: rest => readFlags { slot with alternative := true } rest
  | '\'' :: rest => readFlags slot rest
  | rest => (slot, rest)

/-- Reads a width or a precision, which an argument may give. -/
def readWidth (p : Printing) : List Char → Int × Printing × List Char
  | '*' :: rest =>
    let (arg, p) := p.next
    ((readInt true arg).1, p, rest)
  | rest =>
    let (digits, rest) := spanDigits 10 rest.length rest
    (valueIn 10 digits, p, rest)

/-- Puts the next argument to a slot. -/
def Slot.put (slot : Slot) (make : Make) (p : Printing) : Option Printing :=
  let (arg, rest) := p.next
  match slot.conversion with
  | 's' => some (rest.add (slot.fillBytes arg.toUTF8.toList))
  | 'b' =>
    let (bytes, stopped) := unescape make (arg.length + 1) arg.toList
    some { rest.add (slot.fillBytes bytes) with stopped := stopped }
  | 'c' => some (rest.add ({ slot with precision? := none }.fillBytes
      (if arg.isEmpty then [0] else arg.toUTF8.toList.take 1)))
  | c =>
    if c ∈ ['d', 'i', 'o', 'u', 'x', 'X'] then
      let (value, problem?) := readInt (c = 'd' || c = 'i') arg
      some ((rest.add (slot.whole value).toUTF8.toList).blame make arg problem?)
    else if c ∈ ['f', 'F', 'e', 'E', 'g', 'G'] then
      let (negative, f, problem?) := readFraction arg
      some ((rest.add (slot.fraction make negative f).toUTF8.toList).blame make arg problem?)
    else none

/-- Prints a format once. -/
def printOnce (make : Make) : Nat → List Char → Printing → Printing
  | 0, _, p => p
  | _, [], p => p
  | fuel + 1, '%' :: '%' :: rest, p => printOnce make fuel rest (p.add [0x25])
  | fuel + 1, '%' :: rest, p =>
    let (slot, text) := readFlags { conversion := 's' } rest
    let (width, p, text) := readWidth p text
    let slot := { slot with left := slot.left || width < 0, width := width.natAbs }
    let (slot, p, text) := match text with
      | '.' :: text =>
        let (places, p, text) := readWidth p text
        ({ slot with precision? := if places < 0 then none else some places.natAbs }, p, text)
      | text => (slot, p, text)
    let text := text.dropWhile fun c =>
      make = .program && c ∈ ['h', 'l', 'L', 'j', 't', 'z', 'q']
    match text with
    | c :: text =>
      match { slot with conversion := c }.put make p with
      | some p => if p.stopped then p else printOnce make fuel text p
      | none =>
        let directive := String.ofList ('%' :: rest.take (rest.length - text.length))
        let complaint := match make with
          | .builtin => s!"{directive}: invalid directive"
          | .program => s!"{directive}: invalid conversion specification"
        { p with complaints := p.complaints ++ [complaint], stopped := true }
    | [] =>
      { p with complaints := p.complaints ++ ["%: invalid directive"], stopped := true }
  | _ + 1, '\\' :: 'c' :: rest, p =>
    match make with
    | .builtin => printOnce make 0 rest { p with stopped := true }
    | .program => { p with stopped := true }
  | fuel + 1, '\\' :: rest, p =>
    let (bytes, rest) := escape make rest
    printOnce make fuel rest (p.add bytes)
  | fuel + 1, c :: rest, p => printOnce make fuel rest (p.add (utf8 [c]))

/-- Prints a format again and again as long as it takes arguments and some are left. -/
def printAll (make : Make) (format : List Char) : Nat → Printing → Printing
  | 0, p => p
  | fuel + 1, p =>
    let after := printOnce make (format.length + 1) format p
    if after.stopped || after.args.isEmpty || after.args.length == p.args.length then after
    else printAll make format fuel after

/-- Prints a format with arguments. -/
def printFormat (make : Make) (format : String) (args : List String) : Printing :=
  printAll make format.toList (args.length + 1) ⟨[], args, [], false⟩

end ToolHost.Utility
