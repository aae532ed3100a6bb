import ToolHost.Difference.Print

/-! Two texts in one, with what surrounds the lines of either spelled out by formats. -/
namespace ToolHost.Difference

/-- The formats of a merged text. -/
structure Formats where
  /-- For lines that go, that come, that are replaced, and that are the same. -/
  deletedGroup : String
  insertedGroup : String
  replacedGroup : String
  equalGroup : String
  deletedLine : String
  insertedLine : String
  equalLine : String
  deriving DecidableEq, Repr

namespace Formats

/-- The formats for a text that a preprocessor makes into one or the other by a name. -/
def ofName (name : String) : Formats :=
  { deletedGroup := s!"#ifndef {name}\n%<#endif /* ! {name} */\n"
    insertedGroup := s!"#ifdef {name}\n%>#endif /* {name} */\n"
    replacedGroup := s!"#ifndef {name}\n%<#else /* {name} */\n%>#endif /* {name} */\n"
    equalGroup := "%="
    deletedLine := "%l\n"
    insertedLine := "%l\n"
    equalLine := "%l\n" }

end Formats

/-- The lines of one text that belong to a group. -/
structure Stretch where
  text : Text
  first : Nat
  stop : Nat

/-- A number as a format wants it: how wide, with which sign of filling, in which base. -/
def formatNumber (flags width : List Char) (letter : Char) (n : Nat) : String :=
  let digits := match letter with
    | 'x' => String.ofList (Nat.toDigits 16 n)
    | 'X' => (String.ofList (Nat.toDigits 16 n)).toUpper
    | 'o' => String.ofList (Nat.toDigits 8 n)
    | _ => toString n
  let (least, exact) := width.span (· != '.')
  let digits := match (String.ofList exact.tail).toNat? with
    | some places => "".pushn '0' (places - digits.length) ++ digits
    | none => digits
  let missing := ((String.ofList least).toNat?.getD 0) - digits.length
  if '-' ∈ flags then digits ++ "".pushn ' ' missing
  else if '0' ∈ flags && exact.isEmpty then "".pushn '0' missing ++ digits
  else "".pushn ' ' missing ++ digits

/-- What a letter says about the lines of a stretch. -/
def Stretch.number? (s : Stretch) : Char → Option Nat
  | 'e' => some s.first
  | 'f' => some (s.first + 1)
  | 'l' => some s.stop
  | 'm' => some (s.stop + 1)
  | 'n' => some (s.stop - s.first)
  | _ => none

/-- The byte that a character in quotes stands for, and what follows it. -/
def quotedByte? : List Char → Option (Bytes × List Char)
  | '\'' :: '\\' :: rest =>
    let (digits, after) := rest.span fun c => '0' ≤ c && c ≤ '7'
    match after with
    | '\'' :: after =>
      some ([UInt8.ofNat (digits.foldl (fun n c => n * 8 + (c.toNat - 48)) 0)], after)
    | _ => none
  | '\'' :: c :: '\'' :: rest => some (textBytes (String.singleton c), rest)
  | _ => none

/-- What a percent sign stands for that is followed by a number or a character. -/
def formatSpec? (number? : Char → Option Nat) (text : List Char) : Option (Bytes × List Char) :=
  match text with
  | '%' :: rest => some ([0x25], rest)
  | 'c' :: rest => quotedByte? rest
  | text =>
    let (flags, rest) := text.span fun c => c = '-' || c = '\'' || c = '0'
    let (width, rest) := rest.span fun c => c.isDigit || c = '.'
    match rest with
    | base :: letter :: rest =>
      if base ∈ ['d', 'o', 'x', 'X'] then
        (number? letter).map fun n => (textBytes (formatNumber flags width base n), rest)
      else none
    | _ => none

/-- A line as a format says. -/
def formatLine (look : Look) (t : Text) (n : Nat) : Nat → List Char → Bytes
  | 0, _ => []
  | fuel + 1, text =>
    match text with
    | [] => []
    | '%' :: 'l' :: rest => look.bare t n ++ formatLine look t n fuel rest
    | '%' :: 'L' :: rest => look.plainLine t n ++ formatLine look t n fuel rest
    | '%' :: rest =>
      match formatSpec? (fun c => if c = 'n' then some (n + 1) else none) rest with
      | some (bytes, rest) => bytes ++ formatLine look t n fuel rest
      | none => 0x25 :: formatLine look t n fuel rest
    | c :: rest => textBytes (String.singleton c) ++ formatLine look t n fuel rest

/-- The lines of a stretch as a format says. -/
def formatLines (look : Look) (format : String) (s : Stretch) : Bytes :=
  linesBetween (fun n => formatLine look s.text n (format.length + 1) format.toList) s.first s.stop

/-- The parts of a text in parentheses that chooses between two texts by comparing two numbers, and
what follows it. -/
def choice? (number? : Char → Option Nat) (text : List Char) :
    Option (List Char × List Char) :=
  let value (text : List Char) : Option Nat :=
    match text with
    | [c] => (number? c).or (String.toNat? (String.singleton c))
    | digits => (String.ofList digits).toNat?
  let (first, rest) := text.span (· != '=')
  let (second, rest) := rest.tail.span (· != '?')
  let (yes, rest) := rest.tail.span (· != ':')
  let (no, rest) := rest.tail.span (· != ')')
  match value first, value second, rest with
  | some a, some b, ')' :: rest => some (if a = b then yes else no, rest)
  | _, _, _ => none

/-- A group of lines as a format says. -/
def formatGroup (look : Look) (f : Formats) (left right : Stretch) : Nat → List Char → Bytes
  | 0, _ => []
  | fuel + 1, text =>
    let number? (c : Char) : Option Nat :=
      if c.isUpper then right.number? c.toLower else left.number? c
    match text with
    | [] => []
    | '%' :: '<' :: rest => formatLines look f.deletedLine left ++ formatGroup look f left right fuel rest
    | '%' :: '>' :: rest =>
      formatLines look f.insertedLine right ++ formatGroup look f left right fuel rest
    | '%' :: '=' :: rest => formatLines look f.equalLine left ++ formatGroup look f left right fuel rest
    | '%' :: '(' :: rest =>
      match choice? number? rest with
      | some (chosen, rest) => formatGroup look f left right fuel (chosen ++ rest)
      | none => 0x25 :: formatGroup look f left right fuel ('(' :: rest)
    | '%' :: rest =>
      match formatSpec? number? rest with
      | some (bytes, rest) => bytes ++ formatGroup look f left right fuel rest
      | none => 0x25 :: formatGroup look f left right fuel rest
    | c :: rest => textBytes (String.singleton c) ++ formatGroup look f left right fuel rest

/-- The merged text from two lines on. -/
def mergedFrom (look : Look) (f : Formats) (a b : Text) (x y : Nat) : List Change → Bytes
  | [] =>
    if x < a.size || y < b.size then
      formatGroup look f ⟨a, x, a.size⟩ ⟨b, y, b.size⟩ (f.equalGroup.length + 1) f.equalGroup.toList
    else []
  | c :: rest =>
    if look.isTrivial a b [c] then mergedFrom look f a b x y rest
    else
      let format := if c.inserted = 0 then f.deletedGroup
        else if c.deleted = 0 then f.insertedGroup else f.replacedGroup
      let equal := if x < c.left || y < c.right then
          formatGroup look f ⟨a, x, c.left⟩ ⟨b, y, c.right⟩ (f.equalGroup.length + 1)
            f.equalGroup.toList
        else []
      let (xEnd, yEnd) := (c.left + c.deleted, c.right + c.inserted)
      equal ++
        formatGroup look f ⟨a, c.left, xEnd⟩ ⟨b, c.right, yEnd⟩ (format.length + 1)
          format.toList ++
        mergedFrom look f a b xEnd yEnd rest

end ToolHost.Difference
