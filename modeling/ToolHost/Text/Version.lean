/-! The order of names with versions: runs of digits count as numbers, and what is behind a point
counts only if all else is equal. -/
namespace ToolHost.Text.Version

def isDigit (b : UInt8) : Bool := 0x30 ≤ b && b ≤ 0x39

def isLetter (b : UInt8) : Bool := (0x41 ≤ b && b ≤ 0x5a) || (0x61 ≤ b && b ≤ 0x7a)

/-- Where a byte that is no digit stands in the order: a tilde comes before the end of the text, and
letters come before other signs. -/
def rank : List UInt8 → Int
  | [] => -1
  | b :: _ =>
    if isDigit b then 0
    else if isLetter b then b.toNat
    else if b = 0x7e then -2
    else b.toNat + 256

/-- Compares what stands in front of digits, and answers what is left of both texts. -/
def compareSigns : Nat → List UInt8 → List UInt8 → Ordering × List UInt8 × List UInt8
  | 0, a, b => (.eq, a, b)
  | fuel + 1, a, b =>
    if a.head?.any (!isDigit ·) || b.head?.any (!isDigit ·) then
      match compare (rank a) (rank b) with
      | .eq => compareSigns fuel a.tail b.tail
      | order => (order, a, b)
    else (.eq, a, b)

/-- Compares the numbers at the front of two texts. -/
def compareNumbers (a b : List UInt8) : Ordering :=
  let a := (a.takeWhile isDigit).dropWhile (· == 0x30)
  let b := (b.takeWhile isDigit).dropWhile (· == 0x30)
  (compare a.length b.length).then
    ((a.zip b).foldl (fun order (x, y) => order.then (compare x.toNat y.toNat)) .eq)

/-- Compares texts in which signs and numbers take turns. -/
def compareTexts : Nat → List UInt8 → List UInt8 → Ordering
  | 0, _, _ => .eq
  | fuel + 1, a, b =>
    if a.isEmpty && b.isEmpty then .eq
    else
      match compareSigns (a.length + b.length) a b with
      | (.eq, a, b) =>
        match compareNumbers a b with
        | .eq => compareTexts fuel (a.dropWhile isDigit) (b.dropWhile isDigit)
        | order => order
      | (order, _, _) => order

/-- How long a stretch of suffixes is at the front of a text. A suffix is a point, a letter or a tilde,
and more letters, digits and tildes. -/
def suffixLength : Nat → List UInt8 → Nat
  | 0, _ => 0
  | fuel + 1, text =>
    match text with
    | 0x2e :: b :: rest =>
      if isLetter b || b = 0x7e then
        let more := (rest.takeWhile fun b => isLetter b || isDigit b || b = 0x7e).length
        more + 2 + suffixLength fuel (rest.drop more)
      else 0
    | _ => 0

/-- The length of a text without the suffixes at its end. -/
def stemLength : Nat → List UInt8 → Nat
  | 0, _ => 0
  | fuel + 1, text =>
    match text with
    | [] => 0
    | _ :: rest =>
      let suffix := suffixLength rest.length rest
      if suffix = rest.length then 1 else 1 + suffix + stemLength fuel (rest.drop suffix)

/-- Compares two names. Those that begin with a point come first. -/
def compareNames (a b : List UInt8) : Ordering :=
  let hidden (text : List UInt8) : Nat :=
    match text with
    | [] => 0
    | [0x2e] => 1
    | [0x2e, 0x2e] => 2
    | 0x2e :: _ => 3
    | _ => 4
  match compare (hidden a) (hidden b) with
  | .eq =>
    if hidden a < 3 then .eq
    else
      let fuel := a.length + b.length + 1
      let (stem, other) := (a.take (stemLength a.length a), b.take (stemLength b.length b))
      (compareTexts fuel stem other).then (compareTexts fuel a b)
  | order => order

end ToolHost.Text.Version
