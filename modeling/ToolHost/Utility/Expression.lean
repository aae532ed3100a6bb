import ToolHost.Text.Regex.Reading
import ToolHost.Utility.Format
import ToolHost.Utility.Names

/-! The program that evaluates expressions of words. -/
namespace ToolHost.Utility.Expression

/-- The value of words together with those that are left. -/
abbrev Reading := Except String (String × List String)

/-- The operators of each level, the loosest first. -/
def levels : List (List String) :=
  [["|"], ["&"], ["<", "<=", "=", "==", "!=", ">=", ">"], ["+", "-"], ["*", "/", "%"], [":"]]

/-- The whole number that a word is. -/
def int? (word : String) : Option Int :=
  match word.toList with
  | '-' :: digits => ((String.ofList digits).toNat?).map fun n => -(n : Int)
  | _ => word.toNat?.map fun n => (n : Int)

/-- Whether a value counts as nothing. -/
def isNull (value : String) : Bool :=
  value == "" || (value.toList.all (fun c => c == '0' || c == '-') && (int? value).isSome)

def ofBool (b : Bool) : String := if b then "1" else "0"

/-- What a text matches of an expression: its first group, or else how many characters. -/
def matched (text pattern : String) : Except String String :=
  match Text.Regex.read .comparing pattern.toList with
  | .error problem => .error problem.message
  | .ok (r, groups) =>
    let hasGroup := groups != 0
    match r.matchAt? (· == ·) text.toList 0 with
    | none => .ok (if hasGroup then "" else "0")
    | some found =>
      if hasGroup then
        match found.groups.lookup 1 with
        | some (start, finish) => .ok (String.ofList ((text.toList.take finish).drop start))
        | none => .ok ""
      else .ok (toString found.finish)

/-- The value of an operator between two values. -/
def apply (operator a b : String) : Except String String := do
  let compared (ints : Int → Int → Bool) (texts : String → String → Bool) : String :=
    match int? a, int? b with
    | some x, some y => ofBool (ints x y)
    | _, _ => ofBool (texts a b)
  let number (word : String) : Except String Int :=
    match int? word with
    | some n => .ok n
    | none => .error "non-integer argument"
  match operator with
  | "|" => return if !isNull a then a else if !isNull b then b else "0"
  | "&" => return if isNull a || isNull b then "0" else a
  | "<" => return compared (decide <| · < ·) (decide <| · < ·)
  | "<=" => return compared (decide <| · ≤ ·) (decide <| · ≤ ·)
  | "=" | "==" => return compared (· == ·) (· == ·)
  | "!=" => return compared (· != ·) (· != ·)
  | ">=" => return compared (decide <| · ≥ ·) (decide <| · ≥ ·)
  | ">" => return compared (decide <| · > ·) (decide <| · > ·)
  | ":" => matched a b
  | operator =>
    let x ← number a
    let y ← number b
    match operator with
    | "+" => return toString (x + y)
    | "-" => return toString (x - y)
    | "*" => return toString (x * y)
    | "/" => if y = 0 then throw "division by zero" else return toString (x.tdiv y)
    | _ => if y = 0 then throw "division by zero" else return toString (x.tmod y)

/-- What is said where a word is missing. -/
def missing (before? : Option String) : String :=
  match before? with
  | some word => s!"syntax error: missing argument after {cited word}"
  | none => "missing operand"

/-- Reads an expression at the front of words: an operand of the given levels, or, with `left?`, what
becomes of an operand when the operators of the first level are taken. `before?` is the word in
front. -/
def read : Nat → List (List String) → Option String → (before? : Option String) → List String → Reading
  | 0, _, _, _, _ => .error "syntax error"
  | fuel + 1, operators :: tighter, none, before?, words => do
    let (a, rest) ← read fuel tighter none before? words
    read fuel (operators :: tighter) (some a) before? rest
  | fuel + 1, operators :: tighter, some a, before?, word :: rest =>
    if word ∈ operators then do
      let (b, rest) ← read fuel tighter none (some word) rest
      read fuel (operators :: tighter) (some (← apply word a b)) before? rest
    else .ok (a, word :: rest)
  | _, _, some a, _, rest => .ok (a, rest)
  | _, [], none, before?, [] => .error (missing before?)
  | fuel + 1, [], none, _, word :: rest =>
    match word with
    | "(" => do
      let (a, rest) ← read fuel levels none (some "(") rest
      match rest with
      | ")" :: rest => return (a, rest)
      | [] => throw s!"syntax error: expecting ')' after {cited a}"
      | word :: _ => throw s!"syntax error: expecting ')' instead of {cited word}"
    | ")" => .error "syntax error: unexpected ')'"
    | "+" =>
      match rest with
      | word :: rest => .ok (word, rest)
      | [] => .error (missing (some "+"))
    | "length" => do
      let (a, rest) ← read fuel [] none (some word) rest
      return (toString a.length, rest)
    | "match" => do
      let (a, rest) ← read fuel [] none (some word) rest
      let (b, rest) ← read fuel [] none (some a) rest
      return (← matched a b, rest)
    | "index" => do
      let (a, rest) ← read fuel [] none (some word) rest
      let (b, rest) ← read fuel [] none (some a) rest
      let place := (a.toList.findIdx? (· ∈ b.toList)).map (· + 1)
      return (toString (place.getD 0), rest)
    | "substr" => do
      let (a, rest) ← read fuel [] none (some word) rest
      let (b, rest) ← read fuel [] none (some a) rest
      let (c, rest) ← read fuel [] none (some b) rest
      match int? b, int? c with
      | some start, some length =>
        if start ≤ 0 || length ≤ 0 then return ("", rest)
        else return (String.ofList ((a.toList.drop (start.toNat - 1)).take length.toNat), rest)
      | _, _ => return ("", rest)
    | word => .ok (word, rest)

end Expression

/-- Prints the value of an expression. The exit code tells whether it is something. -/
def expression : Program := fun _ words => do
  if words = ["--help"] || words = ["--version"] then
    Doing.print "Usage: expr EXPRESSION\n"
    return 0
  let words := if words.head? = some "--" then words.tail else words
  if words.isEmpty then misused 2 "missing operand"
  else
    match Expression.read (16 * words.length + 16) Expression.levels none none words with
    | .error problem =>
      Doing.complain problem
      return 2
    | .ok (_, word :: _) =>
      Doing.complain s!"syntax error: unexpected argument {cited word}"
      return 2
    | .ok (value, []) =>
      Doing.print (value ++ "\n")
      return if Expression.isNull value then 1 else 0

end ToolHost.Utility
