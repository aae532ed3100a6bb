import ToolHost.Shell.Task
import ToolHost.Utility.Format

/-! Sums in scripts: whole numbers of 64 bits with the operators of expressions. -/
namespace ToolHost.Shell

/-- An expression. -/
inductive Sum where
  | number (value : Int64)
  | named (name : String)
  | unary (operator : String) (a : Sum)
  | binary (operator : String) (a b : Sum)
  | choice (condition yes no : Sum)
  /-- Sets a variable, to what an operator makes of its old value if there is one. -/
  | assign (name : String) (operator? : Option String) (value : Sum)
  deriving DecidableEq, Repr

namespace Sum

inductive Token where
  | number (value : Int64)
  | name (name : String)
  | operator (text : String)
  deriving DecidableEq

/-- The binary operators of each level, the loosest first; those of one level are taken from the
left. -/
def levels : List (List String) :=
  [["||"], ["&&"], ["|"], ["^"], ["&"], ["==", "!="], ["<=", ">=", "<", ">"], ["<<", ">>"],
    ["+", "-"], ["*", "/", "%"]]

/-- The operators that set a variable. -/
def settingOperators : List String :=
  ["=", "+=", "-=", "*=", "/=", "%=", "<<=", ">>=", "&=", "^=", "|="]

/-- All operators, the longer ones first. -/
def operators : List String :=
  ["<<=", ">>=", "||", "&&", "==", "!=", "<=", ">=", "<<", ">>", "+=", "-=", "*=", "/=", "%=", "&=",
    "^=", "|=", "|", "^", "&", "<", ">", "+", "-", "*", "/", "%", "!", "~", "?", ":", "(", ")", "="]

/-- The greatest number there is. -/
def greatest : Nat := 9223372036854775807

/-- The words and marks of an expression. -/
def lex : Nat → List Char → Except String (List Token)
  | 0, _ => .error "expecting EOF"
  | _, [] => .ok []
  | fuel + 1, c :: rest =>
    if Utility.isSpace c then lex fuel rest
    else if isNameStart c then
      let (name, rest) := (c :: rest).span isNameChar
      (lex fuel rest).map (.name (String.ofList name) :: ·)
    else
      match Utility.spanWhole (c :: rest) with
      | some (n, rest) => (lex fuel rest).map (.number (Int64.ofNat (min n greatest)) :: ·)
      | none =>
        match operators.find? fun operator => operator.toList.isPrefixOf (c :: rest) with
        | some operator =>
          (lex fuel ((c :: rest).drop operator.length)).map (.operator operator :: ·)
        -- what no expression holds ends it
        | none => .ok [.operator (String.singleton c)]

mutual

/-- An expression that may set a variable, at the front of tokens. -/
def readWhole : Nat → List Token → Except String (Sum × List Token)
  | 0, _ => .error "expecting EOF"
  | fuel + 1, .name name :: .operator operator :: rest =>
    if operator ∈ settingOperators then do
      let (value, rest) ← readWhole fuel rest
      let operator := String.ofList operator.toList.dropLast
      return (.assign name (if operator = "" then none else some operator) value, rest)
    else readChoice fuel (.name name :: .operator operator :: rest)
  | fuel + 1, tokens => readChoice fuel tokens

def readChoice : Nat → List Token → Except String (Sum × List Token)
  | 0, _ => .error "expecting EOF"
  | fuel + 1, tokens => do
    let (condition, rest) ← readLevel fuel levels tokens
    match rest with
    | .operator "?" :: rest =>
      let (yes, rest) ← readWhole fuel rest
      match rest with
      | .operator ":" :: rest =>
        let (no, rest) ← readChoice fuel rest
        return (.choice condition yes no, rest)
      | _ => throw "expecting ':'"
    | rest => return (condition, rest)

/-- Operands tied by the operators of the given levels. -/
def readLevel : Nat → List (List String) → List Token → Except String (Sum × List Token)
  | 0, _, _ => .error "expecting EOF"
  | fuel + 1, operators :: tighter, tokens => do
    let (a, rest) ← readLevel fuel tighter tokens
    readOperands fuel operators tighter a rest
  | fuel + 1, [], tokens => readPrimary fuel tokens

/-- What is tied to an operand by the operators of one level. -/
def readOperands :
    Nat → List String → List (List String) → Sum → List Token → Except String (Sum × List Token)
  | 0, _, _, _, _ => .error "expecting EOF"
  | fuel + 1, operators, tighter, a, .operator operator :: rest =>
    if operator ∈ operators then do
      let (b, rest) ← readLevel fuel tighter rest
      readOperands fuel operators tighter (.binary operator a b) rest
    else .ok (a, .operator operator :: rest)
  | _, _, _, a, rest => .ok (a, rest)

def readPrimary : Nat → List Token → Except String (Sum × List Token)
  | _, .number value :: rest => .ok (.number value, rest)
  | _, .name name :: rest => .ok (.named name, rest)
  | fuel + 1, .operator "(" :: rest => do
    let (a, rest) ← readWhole fuel rest
    match rest with
    | .operator ")" :: rest => return (a, rest)
    | _ => throw "expecting ')'"
  | fuel + 1, .operator operator :: rest =>
    if operator ∈ ["+", "-", "!", "~"] then
      (readPrimary fuel rest).map fun (a, rest) => (.unary operator a, rest)
    else .error "expecting primary"
  | _, _ => .error "expecting primary"

end

/-- The expression that a text is. -/
def ofText (text : List Char) : Except String Sum := do
  let tokens ← lex (text.length + 1) text
  match ← readWhole (16 * (tokens.length + 2)) tokens with
  | (sum, []) => return sum
  | _ => throw "expecting EOF"

def ofBool (b : Bool) : Int64 := if b then 1 else 0

/-- The value of two operands; dividing by zero has none. -/
def apply (operator : String) (a b : Int64) : Option Int64 :=
  match operator with
  | "|" => some (a ||| b)
  | "^" => some (a ^^^ b)
  | "&" => some (a &&& b)
  | "==" => some (ofBool (a == b))
  | "!=" => some (ofBool (a != b))
  | "<=" => some (ofBool (a ≤ b))
  | ">=" => some (ofBool (b ≤ a))
  | "<" => some (ofBool (a < b))
  | ">" => some (ofBool (b < a))
  | "<<" => some (a <<< b)
  | ">>" => some (a >>> b)
  | "+" => some (a + b)
  | "-" => some (a - b)
  | "*" => some (a * b)
  | "/" => if b = 0 then none else some (a / b)
  | "%" => if b = 0 then none else some (a % b)
  | _ => none

/-- The number that a variable holds. -/
def valueOf (name : String) : Act Int64 := do
  let text := ((← get).parameter? name).getD ""
  let chars := text.toList.dropWhile Utility.isSpace
  if chars.isEmpty then return 0
  let (negative, digits) := Utility.spanSign chars
  match Utility.spanWhole digits with
  | some (n, rest) =>
    if !(rest.dropWhile Utility.isSpace).isEmpty || greatest < n then
      failWith s!"Illegal number: {text}"
    else return if negative then 0 - Int64.ofNat n else Int64.ofNat n
  | none => failWith s!"Illegal number: {text}"

/-- The value of an expression; `fail` says what it fails with. -/
def evaluate (fail : String → Act Int64) : Sum → Act Int64
  | number value => return value
  | .named name => valueOf name
  | unary operator a => do
    let a ← evaluate fail a
    return match operator with
      | "-" => 0 - a
      | "!" => ofBool (a == 0)
      | "~" => ~~~a
      | _ => a
  | binary operator a b => do
    let a ← evaluate fail a
    if operator = "&&" then
      if a = 0 then return 0 else return ofBool ((← evaluate fail b) != 0)
    else if operator = "||" then
      if a = 0 then return ofBool ((← evaluate fail b) != 0) else return 1
    else
      match apply operator a (← evaluate fail b) with
      | some value => return value
      | none => fail "division by zero"
  | choice condition yes no => do
    if (← evaluate fail condition) = 0 then evaluate fail no else evaluate fail yes
  | assign name operator? a => do
    let a ← evaluate fail a
    let value ← match operator? with
      | none => pure a
      | some operator =>
        match apply operator (← valueOf name) a with
        | some value => pure value
        | none => fail "division by zero"
    Shell.assign name (toString value.toInt)
    return value

/-- The value of an expression that is given as text. -/
def valueOfText (text : List Char) : Act Int64 := do
  let fail (problem : String) : Act Int64 :=
    failWith s!"arithmetic expression: {problem}: \"{String.ofList text}\""
  match ofText text with
  | .ok sum => evaluate fail sum
  | .error problem => fail problem

end Sum
end ToolHost.Shell
