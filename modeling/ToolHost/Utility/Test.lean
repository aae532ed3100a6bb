import ToolHost.Utility.Format

/-! Tests: conditions on texts, numbers and files. The two makes read the same words by different
rules. -/
namespace ToolHost.Utility.Test

/-- The operators in front of one operand. -/
def unaryOperators : List String :=
  ["-r", "-w", "-x", "-e", "-f", "-d", "-c", "-b", "-p", "-u", "-g", "-k", "-s", "-t", "-z", "-n",
    "-h", "-O", "-G", "-L", "-S"]

/-- The operators between two numbers. -/
def countingOperators : List String := ["-eq", "-ne", "-ge", "-gt", "-le", "-lt"]

/-- The operators between two operands. -/
def binaryOperators (make : Make) : List String :=
  ["=", "!="] ++ countingOperators ++ ["-nt", "-ot", "-ef"] ++
    (match make with | .builtin => ["<", ">"] | .program => ["=="])

/-- The operators in front of one operand that is no path. -/
def pathlessOperators : List String := ["-t", "-z", "-n"]

/-- The paths that are looked at for a condition. -/
def paths (words : List String) : List Path :=
  (words.zip words.tail).filterMap fun (operator, operand) =>
    if operator ∈ unaryOperators ∧ operator ∉ pathlessOperators then some operand else none

/-- Whether a file is of the kind that a letter stands for. -/
def fileHolds (p : Process) (letter : Char) (path : Path) : Bool :=
  let node? := (p.world.files.find p.cwd path).toOption.map Prod.snd
  let isNode (f : Node → Bool) : Bool := (node?.map f).getD false
  match letter with
  | 'e' | 'r' | 'w' | 'O' | 'G' => node?.isSome
  | 'f' => isNode Node.isFile
  | 'd' => isNode fun node => (node matches .directory ..)
  | 'c' => isNode fun node => (node matches .sink)
  | 'x' => isNode fun node => (node matches .directory ..) || node.status.executable
  | 'u' => isNode fun node => node.status.mode &&& 0o4000 != 0
  | 'g' => isNode fun node => node.status.mode &&& 0o2000 != 0
  | 'k' => isNode fun node => node.status.mode &&& 0o1000 != 0
  | 's' => isNode fun
    | .directory .. | .program _ => true
    | .file content _ => !content.isEmpty
    | _ => false
  | 'h' | 'L' =>
    match (p.world.files.locateEntry p.cwd path).toOption.bind p.world.files.node? with
    | some (.link _) => true
    | _ => false
  | _ => false

/-- The whole number that an operand is. -/
def number (make : Make) (text : String) : Except String Int :=
  let bad : Except String Int :=
    .error (match make with
      | .builtin => s!"Illegal number: {text}"
      | .program => s!"invalid integer {cited text}")
  let (negative, rest) := spanSign (text.toList.dropWhile isSpace)
  let (digits, rest) := spanDigits 10 rest.length rest
  if digits.isEmpty || !rest.all isSpace then bad
  else
    let value := valueIn 10 digits
    if make = .builtin && greatestInt < value then bad
    else .ok (if negative then -(value : Int) else value)

/-- The truth of an operator in front of an operand. -/
def unary (make : Make) (p : Process) (operator operand : String) : Except String Bool :=
  match operator with
  | "-z" => .ok (operand == "")
  | "-n" => .ok (operand != "")
  | "-t" => (number make operand).map fun _ => false
  | operator =>
    match operator.toList with
    | [_, letter] => .ok (fileHolds p letter operand)
    | _ => .ok false

/-- The truth of an operator between two operands. -/
def binary (make : Make) (p : Process) (a operator b : String) : Except String Bool := do
  let found? (path : Path) := (p.world.files.find p.cwd path).toOption
  -- one file may have several names
  let identity? (path : Path) := (found? path).map fun (place, _) =>
    (p.world.files.fileAt? place, if (p.world.files.fileAt? place).isSome then [] else place)
  let modified? (path : Path) := (found? path).map fun (_, node) => node.status.modified
  let newer (a b : Path) : Bool :=
    match modified? a, modified? b with
    | some a, some b => b < a
    | some _, none => make = .program
    | none, _ => false
  let compared (f : Int → Int → Bool) : Except String Bool := do
    let a ← number make a
    let b ← number make b
    return f a b
  match operator with
  | "=" | "==" => return a == b
  | "!=" => return a != b
  | "<" => return a < b
  | ">" => return b < a
  | "-eq" => compared (· == ·)
  | "-ne" => compared (· != ·)
  | "-lt" => compared (decide <| · < ·)
  | "-le" => compared (decide <| · ≤ ·)
  | "-gt" => compared (decide <| · > ·)
  | "-ge" => compared (decide <| · ≥ ·)
  | "-ef" => return (identity? a).isSome && identity? a == identity? b
  | "-nt" => return newer a b
  | "-ot" => return newer b a
  | _ => return false

/-- The truth of words together with those that are left. -/
abbrev Reading := Except String (Bool × List String)

namespace Builtin

/-- What the first word is read as. -/
inductive Token where
  | finish
  | operand
  | unary
  | binary
  | other (text : String)
  deriving DecidableEq

/-- What a word is read as in front of others. -/
def tokenAt : List String → Token
  | [] => .finish
  | word :: rest =>
    if word ∈ unaryOperators then
      match rest with
      | [] => .operand
      | [_] => .unary
      | next :: _ => if next ∈ binaryOperators .builtin then .operand else .unary
    else if word ∈ binaryOperators .builtin then .binary
    else if word = "(" && rest.isEmpty then .operand
    else if word ∈ ["!", "-a", "-o", "(", ")"] then .other word
    else .operand

/-- Reads a condition at the front, given what the first word is read as: with level 0 alternatives,
with level 1 what is tied by `-a`, with level 2 what may be negated, and with level 3 a primary. The
last word that was read stays at the front. -/
def read (p : Process) : Nat → Nat → Token → List String → Reading
  | 0, _, _, words => .ok (false, words)
  | fuel + 1, 0, token, words => do
    let (a, words) ← read p fuel 1 token words
    if tokenAt words.tail = .other "-o" then
      let words := words.drop 2
      let (b, words) ← read p fuel 0 (tokenAt words) words
      return (a || b, words)
    else return (a, words)
  | fuel + 1, 1, token, words => do
    let (a, words) ← read p fuel 2 token words
    if tokenAt words.tail = .other "-a" then
      let words := words.drop 2
      let (b, words) ← read p fuel 1 (tokenAt words) words
      return (a && b, words)
    else return (a, words)
  | fuel + 1, 2, token, words =>
    if token = .other "!" then
      let next := tokenAt words.tail
      (read p fuel 2 next (if next = .finish then words else words.tail)).map fun (a, words) =>
        (!a, words)
    else read p fuel 3 token words
  | fuel + 1, _, token, words =>
    match token, words with
    | .finish, _ | _, [] => .ok (false, words)
    | .other "(", _ :: rest =>
      if tokenAt rest = .other ")" then .ok (false, rest)
      else do
        let (a, words) ← read p fuel 0 (tokenAt rest) rest
        if tokenAt words.tail = .other ")" then return (a, words.tail)
        else throw "closing paren expected"
    | .unary, operator :: rest =>
      match rest with
      | [] => .error s!"{operator}: argument expected"
      | operand :: _ => (unary .builtin p operator operand).map fun a => (a, rest)
    | _, word :: rest =>
      if tokenAt rest = .binary then
        match rest with
        | operator :: b :: after => (binary .builtin p word operator b).map fun a => (a, b :: after)
        | operator :: [] => .error s!"{operator}: argument expected"
        | [] => .ok (false, words)
      else .ok (word != "", words)

/-- The truth of words, with no word left. -/
def finish (p : Process) (token : Token) (words : List String) : Except String Bool := do
  match ← read p (8 * words.length + 8) 0 token words with
  | (_, word :: _ :: _) => throw s!"{word}: unexpected operator"
  | (a, _) => return a

/-- The truth of words. Three and four of them are read by rules of their own. -/
def holds (p : Process) : List String → Except String Bool
  | [] => .ok false
  | ["!", a, b, c] => (holds p [a, b, c]).map (!·)
  | [a, b, c] =>
    if b ∈ binaryOperators .builtin then finish p .operand [a, b, c]
    else if a = "(" && c = ")" then finish p (tokenAt [b]) [b]
    else if a = "!" then (finish p (tokenAt [b, c]) [b, c]).map (!·)
    else finish p (tokenAt [a, b, c]) [a, b, c]
  | ["(", a, b, ")"] => finish p (tokenAt [a, b]) [a, b]
  | words => finish p (tokenAt words) words

end Builtin

namespace Program

def isUnary (word : String) : Bool :=
  match word.toList with
  | ['-', _] => true
  | _ => false

def isBinary (words : List String) : Bool :=
  words[1]?.any (binaryOperators .program).contains

/-- Reads an operator in front of an operand. -/
def readUnary (p : Process) : List String → Reading
  | operator :: rest =>
    if operator ∈ unaryOperators || operator = "-N" then
      match rest with
      | operand :: rest => (unary .program p operator operand).map fun a => (a, rest)
      | [] => .error s!"missing argument after {cited operator}"
    else .error s!"{cited operator}: unary operator expected"
  | [] => .ok (false, [])

/-- Reads an operator between two operands. Between numbers, `-l` stands for the length of what
follows. -/
def readBinary (p : Process) (measured : Bool) : List String → Reading
  | a :: operator :: "-l" :: b :: rest =>
    let value (text : String) : String := toString text.utf8ByteSize
    let a := if measured && operator ∈ countingOperators then value a else a
    let b := if operator ∈ countingOperators then value b else b
    (binary .program p a operator b).map fun a => (a, rest)
  | a :: operator :: b :: rest =>
    let a := if measured && operator ∈ countingOperators then toString a.utf8ByteSize else a
    (binary .program p a operator b).map fun a => (a, rest)
  | words =>
    let last := words.getLastD ""
    .error s!"missing argument after {cited last}"

/-- Reads words by their number, as far as there are rules for it. Otherwise `general` reads them. -/
def readCounted (p : Process) (general : List String → Reading) (count : Nat)
    (words : List String) : Reading :=
  let two (words : List String) : Reading :=
    match words with
    | "!" :: a :: rest => .ok (a == "", rest)
    | a :: b :: rest =>
      if isUnary a then readUnary p (a :: b :: rest)
      else .error s!"missing argument after {cited b}"
    | words => .ok (false, words)
  let three (words : List String) : Reading :=
    match words with
    | a :: b :: c :: rest =>
      if isBinary words then readBinary p false words
      else if a = "!" then (two (b :: c :: rest)).map fun (x, rest) => (!x, rest)
      else if a = "(" && c = ")" then .ok (b != "", rest)
      else if b = "-a" || b = "-o" then general words
      else .error s!"{cited b}: binary operator expected"
    | words => .ok (false, words)
  match count, words with
  | 0, words => .ok (false, words)
  | 1, a :: rest => .ok (a != "", rest)
  | 2, words => two words
  | 3, words => three words
  | 4, "!" :: rest => (three rest).map fun (x, rest) => (!x, rest)
  | 4, a :: b :: c :: d :: rest =>
    if a = "(" && d = ")" then (two [b, c]).map fun (x, _) => (x, rest)
    else general words
  | _, words => general words

/-- Reads a condition at the front: with level 0 alternatives, with level 1 what is tied by `-a`, and
with level 2 what may be negated. -/
def read (p : Process) : Nat → Nat → List String → Reading
  | 0, _, words => .ok (false, words)
  | fuel + 1, 0, words => do
    match ← read p fuel 1 words with
    | (a, "-o" :: rest) =>
      let (b, rest) ← read p fuel 0 rest
      return (a || b, rest)
    | result => return result
  | fuel + 1, 1, words => do
    match ← read p fuel 2 words with
    | (a, "-a" :: rest) =>
      let (b, rest) ← read p fuel 1 rest
      return (a && b, rest)
    | result => return result
  | fuel + 1, _, words =>
    match words with
    | [] => .error "missing argument"
    | "!" :: rest =>
      match rest with
      | [] => .error "missing argument after '!'"
      | rest => (read p fuel 2 rest).map fun (a, rest) => (!a, rest)
    | "(" :: rest => do
      let inside := (rest.takeWhile (· != ")")).length
      let count := if inside < 4 then inside else rest.length
      match ← readCounted p (read p fuel 0) count rest with
      | (a, ")" :: rest) => return (a, rest)
      | (_, word :: _) => throw s!"')' expected, found {cited word}"
      | (_, []) => throw "')' expected"
    | word :: rest =>
      if word = "-l" && 3 ≤ rest.length && isBinary rest then readBinary p true rest
      else if isBinary words then readBinary p false words
      else if isUnary word then readUnary p words
      else .ok (word != "", rest)

/-- The truth of words. -/
def holds (p : Process) (words : List String) : Except String Bool := do
  match ← readCounted p (read p (8 * words.length + 8) 0) words.length words with
  | (a, []) => return a
  | (_, word :: _) => throw s!"extra argument {cited word}"

end Program

/-- The truth of words, as one of the makes reads them. -/
def holds (make : Make) (p : Process) (words : List String) : Except String Bool :=
  match make with
  | .builtin => Builtin.holds p words
  | .program => Program.holds p words

end ToolHost.Utility.Test
