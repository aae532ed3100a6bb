import ToolHost.Text.Version
import ToolHost.Utility.Lines

/-! The program that puts lines in order. -/
namespace ToolHost.Utility

namespace Sorting

/-- By what parts of lines are compared. -/
structure Manner where
  /-- Letters and digits only, with blanks between them. -/
  dictionary : Bool := false
  /-- What prints only. -/
  printing : Bool := false
  foldsCase : Bool := false
  general : Bool := false
  human : Bool := false
  month : Bool := false
  numeric : Bool := false
  version : Bool := false
  reverse : Bool := false
  /-- Whether blanks are left out in front of where a part begins, and of where it ends. -/
  skipsFirst : Bool := false
  skipsLast : Bool := false
  deriving DecidableEq

/-- The manner with what a letter says of it. -/
def Manner.add (m : Manner) (atEnd : Option Bool) (letter : Char) : Option Manner :=
  match letter with
  | 'b' => some
    { m with
      skipsFirst := m.skipsFirst || atEnd != some true
      skipsLast := m.skipsLast || atEnd != some false }
  | 'd' => some { m with dictionary := true, printing := false }
  | 'i' => some { m with printing := !m.dictionary }
  | 'f' => some { m with foldsCase := true }
  | 'g' => some { m with general := true }
  | 'h' => some { m with human := true }
  | 'M' => some { m with month := true }
  | 'n' => some { m with numeric := true }
  | 'V' => some { m with version := true }
  | 'r' => some { m with reverse := true }
  | 'R' => some m
  | _ => none

/-- The letters of a manner that cannot all be meant, if there are such. -/
def Manner.conflict? (m : Manner) : Option String :=
  let count := ([m.numeric, m.general, m.human, m.month,
    m.version || m.dictionary || m.printing].filter id).length
  if count ≤ 1 then none
  else
    let letters := [(m.dictionary, "d"), (m.foldsCase, "f"), (m.general, "g"), (m.human, "h"),
      (m.printing, "i"), (m.month, "M"), (m.numeric, "n"), (m.version, "V")]
    some ("".intercalate ((letters.filter Prod.fst).map Prod.snd))

/-- A part of lines by which they are compared. -/
structure Key where
  /-- The field where it begins, and how many characters of it are left out. -/
  field : Nat
  skipped : Nat
  /-- The field where it ends, and how many characters of it belong to it; all of them if none. -/
  last? : Option (Nat × Nat)
  manner : Manner

/-- Why nothing is put in order. -/
abbrev Refusal := String

def badSpec (spec problem : String) : Refusal :=
  s!"{problem}: invalid field specification {cited spec}"

/-- A number at the front of a text. -/
def readNumber (problem : String) (text : List Char) : Except Refusal (Nat × List Char) :=
  let (digits, rest) := text.span Char.isDigit
  match (String.ofList digits).toNat? with
  | some n => .ok (n, rest)
  | none => .error s!"{problem}: invalid count at start of {cited (String.ofList text)}"

/-- Adds letters to a manner. -/
def readLetters (atEnd : Bool) : List Char → Manner → Manner × List Char
  | [], m => (m, [])
  | c :: rest, m =>
    match m.add (some atEnd) c with
    | some m => readLetters atEnd rest m
    | none => (m, c :: rest)

/-- Reads a key. -/
def readKey (spec : String) : Except Refusal Key := do
  let (field, rest) ← readNumber "invalid number at field start" spec.toList
  if field = 0 then throw (badSpec spec "field number is zero")
  let (skipped, rest) ← match rest with
    | '.' :: rest => do
      let (n, rest) ← readNumber "invalid number after '.'" rest
      if n = 0 then throw (badSpec spec "character offset is zero")
      pure (n - 1, rest)
    | rest => pure (0, rest)
  let (manner, rest) := readLetters false rest {}
  match rest with
  | ',' :: rest =>
    let (last, rest) ← readNumber "invalid number after ','" rest
    if last = 0 then throw (badSpec spec "field number is zero")
    let (count, rest) ← match rest with
      | '.' :: rest => readNumber "invalid number after '.'" rest
      | rest => pure (0, rest)
    let (manner, rest) := readLetters true rest manner
    if !rest.isEmpty then throw (badSpec spec "stray character in field spec")
    return ⟨field - 1, skipped, some (last - 1, count), manner⟩
  | [] => return ⟨field - 1, skipped, none, manner⟩
  | _ => throw (badSpec spec "stray character in field spec")

def isBlank (b : UInt8) : Bool := b = 0x20 || b = 0x09 || b = 0x0a

/-- The rest of a line behind so many fields. With a mark between fields, the last mark is left out
too only if that is wanted. -/
def behindFields (mark? : Option UInt8) (withMark : Bool) : Nat → Bytes → Bytes
  | 0, line => line
  | n + 1, line =>
    match mark? with
    | some mark =>
      match line.dropWhile (· != mark) with
      | [] => []
      | b :: rest => if n = 0 && !withMark then b :: rest else behindFields mark? withMark n rest
    | none => behindFields mark? withMark n ((line.dropWhile isBlank).dropWhile (!isBlank ·))

/-- The part of a line that a key means. -/
def Key.part (key : Key) (mark? : Option UInt8) (line : Bytes) : Bytes :=
  let start := behindFields mark? true key.field line
  let start := if key.manner.skipsFirst then start.dropWhile isBlank else start
  let start := start.drop key.skipped
  match key.last? with
  | none => start
  | some (field, 0) =>
    start.take (start.length - (behindFields mark? false (field + 1) line).length)
  | some (field, count) =>
    let finish := behindFields mark? true field line
    let finish := if key.manner.skipsLast then finish.dropWhile isBlank else finish
    start.take (start.length - (finish.drop count).length)

/-- Compares digits in front of points and behind them. -/
def compareDigits (a b : Bytes × Bytes) : Ordering :=
  let whole (digits : Bytes) : Bytes := digits.dropWhile (· == 0x30)
  let (x, y) := (whole a.1, whole b.1)
  ((compare x.length y.length).then (compareBytes x y)).then
    (let length := max a.2.length b.2.length
     let filled (digits : Bytes) : Bytes := digits ++ List.replicate (length - digits.length) 0x30
     compareBytes (filled a.2) (filled b.2))

/-- The sign of the number at the front of bytes, its digits before the point and behind it, and what
follows. -/
def spanNumber (bytes : Bytes) : Bool × (Bytes × Bytes) × Bytes :=
  let (negative, rest) := match bytes with
    | 0x2d :: rest => (true, rest)
    | rest => (false, rest)
  let (whole, rest) := rest.span Text.Version.isDigit
  match rest with
  | 0x2e :: rest =>
    let (behind, rest) := rest.span Text.Version.isDigit
    (negative, (whole, behind), rest)
  | rest => (negative, (whole, []), rest)

def isZero (digits : Bytes × Bytes) : Bool := digits.1.all (· == 0x30) && digits.2.all (· == 0x30)

/-- Compares the numbers at the front of bytes. -/
def compareNumeric (a b : Bytes) : Ordering :=
  let (negative, x, _) := spanNumber (a.dropWhile isBlank)
  let (otherNegative, y, _) := spanNumber (b.dropWhile isBlank)
  let below := negative && !isZero x
  let otherBelow := otherNegative && !isZero y
  if below && !otherBelow then .lt
  else if otherBelow && !below then .gt
  else if below then compareDigits y x
  else compareDigits x y

/-- The order of the unit behind a number, with the sign of the number. -/
def unitOrder (bytes : Bytes) : Int :=
  let (negative, digits, rest) := spanNumber (bytes.dropWhile isBlank)
  let units : List Char := ['K', 'M', 'G', 'T', 'P', 'E', 'Z', 'Y', 'R', 'Q']
  let order : Nat := match rest with
    | b :: _ =>
      let c := Char.ofNat b.toNat
      ((units.findIdx? (· == (if c = 'k' then 'K' else c))).map (· + 1)).getD 0
    | [] => 0
  if isZero digits then 0 else if negative then -(order : Int) else order

/-- The month at the front of bytes, zero if there is none. -/
def monthOrder (bytes : Bytes) : Nat :=
  let name := (((bytes.dropWhile isBlank).take 3).map fun b => (Char.ofNat b.toNat).toUpper)
  let names := ["JAN", "FEB", "MAR", "APR", "MAY", "JUN", "JUL", "AUG", "SEP", "OCT", "NOV", "DEC"]
  ((names.findIdx? (·.toList == name)).map (· + 1)).getD 0

/-- A number as it is read most generally. -/
inductive General where
  | noNumber
  | notANumber
  | negativeInfinite
  | finite (negative : Bool) (size : Decimal.Fraction)
  | infinite

/-- The number at the front of bytes, read most generally. -/
def readGeneral (bytes : Bytes) : General :=
  let text := (Bytes.units bytes).dropWhile isSpace
  let (negative, rest) := spanSign text
  let word := (rest.take 3).map Char.toLower
  if word = ['i', 'n', 'f'] then if negative then .negativeInfinite else .infinite
  else if word = ['n', 'a', 'n'] then .notANumber
  else
    match rest with
    | '0' :: x :: more =>
      let digits := more.takeWhile fun c => (digitIn? 16 c).isSome
      if (x = 'x' || x = 'X') && !digits.isEmpty then .finite negative ⟨valueIn 16 digits, 1⟩
      else decimal text
    | _ => decimal text
where
  /-- A number in decimal digits. -/
  decimal (text : List Char) : General :=
    match spanFraction text with
    | some (negative, f, _) => .finite negative f
    | none => .noNumber

/-- Where sorts of numbers stand to each other. -/
def General.rank : General → Nat
  | noNumber => 0
  | notANumber => 1
  | negativeInfinite => 2
  | finite .. => 3
  | infinite => 4

/-- Compares the numbers at the front of bytes, read most generally. -/
def compareGeneral (a b : Bytes) : Ordering :=
  let (x, y) := (readGeneral a, readGeneral b)
  (compare x.rank y.rank).then <|
    match x, y with
    | .finite below f, .finite otherBelow g =>
      let sized (negative : Bool) (f : Decimal.Fraction) (den : Nat) : Int :=
        if negative then -((f.top * den : Nat) : Int) else ((f.top * den : Nat) : Int)
      compare (sized below f g.bottom) (sized otherBelow g f.bottom)
    | _, _ => .eq

/-- Compares parts of lines. -/
def Manner.compare (m : Manner) (a b : Bytes) : Ordering :=
  let upper (b : UInt8) : UInt8 := if 0x61 ≤ b && b ≤ 0x7a then b - 0x20 else b
  let prepare (part : Bytes) : Bytes :=
    let part := if m.dictionary then
        part.filter fun b => isBlank b || Text.Version.isDigit b || Text.Version.isLetter b
      else if m.printing then part.filter fun b => 0x20 ≤ b && b < 0x7f
      else part
    if m.foldsCase then part.map upper else part
  let order :=
    if m.numeric then compareNumeric a b
    else if m.general then compareGeneral a b
    else if m.human then
      (Ord.compare (unitOrder a) (unitOrder b)).then (compareNumeric a b)
    else if m.month then Ord.compare (monthOrder a) (monthOrder b)
    else if m.version then Text.Version.compareNames (prepare a) (prepare b)
    else compareBytes (prepare a) (prepare b)
  if m.reverse then order.swap else order

/-- How lines are put in order. -/
structure Task where
  keys : List Key
  mark? : Option UInt8
  stable : Bool
  unique : Bool
  reverse : Bool
  ending : UInt8

/-- Compares lines by the keys. -/
def Task.compareKeys (t : Task) (a b : Bytes) : Ordering :=
  t.keys.foldl (fun order key =>
    order.then (key.manner.compare (key.part t.mark? a) (key.part t.mark? b))) .eq

/-- Compares lines. -/
def Task.compareLines (t : Task) (a b : Bytes) : Ordering :=
  let byKeys := t.compareKeys a b
  if !t.keys.isEmpty && (t.stable || t.unique) then byKeys
  else
    let last := compareBytes a b
    byKeys.then (if t.reverse then last.swap else last)

/-- The letters for what a word orders by. -/
def orderWords : List (String × Char) :=
  [("general-numeric", 'g'), ("human-numeric", 'h'), ("month", 'M'), ("numeric", 'n'),
    ("random", 'R'), ("version", 'V')]

/-- What options ask for; a word may say by what lines are ordered. -/
def readTask (o : Options) (word? : Option Char) : Except Refusal Task := do
  let specs := o.options.filterMap fun (c, value) => if c = 'k' then some value else none
  let keys ← specs.mapM readKey
  let all : Manner := o.options.foldl (fun m (c, _) =>
    let letter := if c = 'w' then word?.getD ' ' else c
    (m.add none letter).getD m) {}
  let plain : Manner := {}
  let keys := keys.map fun key => if key.manner = plain then { key with manner := all } else key
  let whole : Key := { field := 0, skipped := 0, last? := none, manner := all }
  let unmarked := { all with reverse := false }
  let keys := if keys.isEmpty && unmarked != plain then [whole] else keys
  match keys.findSome? fun key => key.manner.conflict? with
  | some letters => throw s!"options '-{letters}' are incompatible"
  | none => pure ()
  let mark (text : String) : Except Refusal UInt8 :=
    match text.toUTF8.toList with
    | [] => .error "empty tab"
    | [b] => .ok b
    | [0x5c, 0x30] => .ok 0
    | _ => .error s!"multi-character tab {cited text}"
  let marks ← ((o.options.filter fun (c, _) => c = 't').map Prod.snd).mapM mark
  if 1 < marks.eraseDups.length then throw "incompatible tabs"
  return {
    keys := keys
    mark? := marks.head?
    stable := o.has 's'
    unique := o.has 'u'
    reverse := all.reverse
    ending := o.mark }

/-- Puts lines in order, and leaves one of those that count as equal if that is wanted. -/
def Task.sorted (t : Task) (merges : Bool) (texts : List (List Bytes)) : List Bytes :=
  let precedes (a b : Bytes) : Bool := t.compareLines a b != .gt
  let sorted := if merges then texts.foldl (fun all lines => all.merge lines precedes) []
    else texts.flatten.mergeSort precedes
  if t.unique then
    (sorted.foldl (fun kept line =>
      match kept with
      | last :: _ => if t.compareLines last line = .eq then kept else line :: kept
      | [] => [line]) []).reverse
  else sorted

/-- The first line that is not in order, with its number. -/
def Task.disorder? (t : Task) (lines : List Bytes) : Option (Nat × Bytes) :=
  ((lines.zip lines.tail).zipIdx.find? fun ((a, b), _) =>
    let order := t.compareLines a b
    order = .gt || (t.unique && order = .eq)).map fun ((_, b), n) => (n + 2, b)

end Sorting

/-- Puts lines in order. -/
def sort : Program := fun _ => withOptions
  { letters := "bcCdfghik:mMno:rRsS:t:T:uVz"
    optional := "K"
    inner := "Kp:DF:a:w:N:P:"
    words := [("ignore-leading-blanks", 'b'), ("check", 'K'), ("compress-program", 'p'),
      ("debug", 'D'), ("dictionary-order", 'd'), ("ignore-case", 'f'), ("files0-from", 'F'),
      ("general-numeric-sort", 'g'), ("ignore-nonprinting", 'i'), ("key", 'k'), ("merge", 'm'),
      ("month-sort", 'M'), ("numeric-sort", 'n'), ("human-numeric-sort", 'h'),
      ("version-sort", 'V'), ("random-sort", 'R'), ("random-source", 'a'), ("sort", 'w'),
      ("output", 'o'), ("reverse", 'r'), ("stable", 's'), ("batch-size", 'N'),
      ("buffer-size", 'S'), ("field-separator", 't'), ("temporary-directory", 'T'),
      ("unique", 'u'), ("zero-terminated", 'z'), ("parallel", 'P')]
    failure := 2 } fun o => do
    let refuse (problem : String) : Doing Nat := do
      Doing.complain problem
      return 2
    let word? ← match o.last? 'w' with
      | none => pure none
      | some word =>
        match ← choiceOf? "--sort" Sorting.orderWords word with
        | none => return 1
        | some letter => pure (some letter)
    match Sorting.readTask o word? with
    | .error problem => refuse problem
    | .ok task =>
      let quietly := o.has 'C' || (o.last? 'K').any fun value => value ∈ ["quiet", "silent"]
      let loudly := o.has 'c' || (o.last? 'K').any fun value => value ∉ ["quiet", "silent"]
      let letter := if quietly then "C" else "c"
      if quietly && loudly then return ← refuse "options '-cC' are incompatible"
      if (quietly || loudly) && o.has 'o' then
        return ← refuse s!"options '-{letter}o' are incompatible"
      match quietly || loudly, o.operands with
      | true, _ :: extra :: _ =>
        return ← refuse s!"extra operand {cited extra} not allowed with -{letter}"
      | _, _ => pure ()
      let mut texts := []
      for name in (if o.operands.isEmpty then ["-"] else o.operands) do
        match ← Doing.readNamed name with
        | .ok bytes => texts := texts ++ [(partsOf task.ending bytes).1]
        | .error e =>
          if e matches .isADirectory then blame s!"read failed: {named name}" e
          else if quietly || loudly then blame s!"open failed: {named name}" e
          else blame s!"cannot read: {named name}" e
          return 2
      if quietly || loudly then
        match task.disorder? texts.flatten with
        | some (number, line) =>
          if !quietly then
            let name := (o.operands.head?).getD "-"
            Doing.complain s!"{name}:{number}: disorder: {Bytes.text line}"
          return 1
        | none => return 0
      else
        let output := ofParts task.ending (task.sorted (o.has 'm') texts)
        match o.last? 'o' with
        | none =>
          Doing.printBytes output
          return 0
        | some name =>
          match (← get).openToWrite Doing.ownDescriptor name false false with
          | .ok opened =>
            set ((opened.write Doing.ownDescriptor output).close Doing.ownDescriptor)
            return 0
          | .error e =>
            blame s!"open failed: {named name}" e
            return 2

end ToolHost.Utility
