import ToolHost.Text.Regex.Basic

/-! Regular expressions as texts, in the basic and the extended notation of POSIX and with the marks
that are usual beside them. -/
namespace ToolHost.Text.Regex

/-- How texts are read as expressions. -/
structure Dialect where
  /-- Whether brackets, braces, bars and the like are marks where no backslash stands before them. -/
  extended : Bool := false
  /-- Whether at least the plus sign and the question mark are. -/
  bareRepeats : Bool := false
  /-- Whether there has to be something that a mark repeats. -/
  repeatsSomething : Bool := false
  /-- Whether what a mark repeats cannot be repeated by another mark. -/
  repeatsOnce : Bool := false
  /-- Whether braces that count nothing stand for themselves. -/
  looseBraces : Bool := false
  /-- Whether a bracket that closes nothing stands for itself. -/
  looseBrackets : Bool := false
  /-- Whether the ends of lines separate alternatives. -/
  linesApart : Bool := false
  /-- Whether a range of characters may be empty. -/
  emptyRanges : Bool := false
  /-- Whether the marks for the beginning and the end stand for those of each line. -/
  eachLine : Bool := false

namespace Dialect

/-- The notation in which lines are looked for. -/
def searching (extended : Bool) : Dialect :=
  { extended := extended, looseBraces := extended, looseBrackets := extended, linesApart := true }

/-- The notation in which lines are edited. -/
def editing (extended eachLine : Bool) : Dialect :=
  { extended := extended, repeatsSomething := extended, repeatsOnce := !extended
    eachLine := eachLine }

/-- The notation of paths in the manner of an editor. -/
def paths : Dialect := { bareRepeats := true }

/-- The notation in which words are compared. -/
def comparing : Dialect := { emptyRanges := true }

end Dialect

/-- Why a text is no expression. -/
inductive Problem where
  | malformed
  | collation
  | className
  | backslash
  | reference
  | openSet
  | openGroup
  | openBrace
  | braceContent
  | range
  | nothingToRepeat
  | tooBig
  | closedGroup
  | outerClass
  deriving DecidableEq, Repr

def Problem.message : Problem → String
  | malformed => "Invalid regular expression"
  | collation => "Invalid collation character"
  | className => "Invalid character class name"
  | backslash => "Trailing backslash"
  | reference => "Invalid back reference"
  | openSet => "Unmatched [, [^, [:, [., or [="
  | openGroup => "Unmatched ( or \\("
  | openBrace => "Unmatched \\\x7b"
  | braceContent => "Invalid content of \\\x7b\\\x7d"
  | range => "Invalid range end"
  | nothingToRepeat => "Invalid preceding regular expression"
  | tooBig => "Regular expression too big"
  | closedGroup => "Unmatched ) or \\)"
  | outerClass => "character class syntax is [[:space:]], not [:space:]"

/-- What stands for itself in a set, or begins or ends something. -/
inductive SetToken where
  | char (c : Char)
  /-- A hyphen between the ends of a range. -/
  | hyphen
  | close
  /-- What opens a class, a collating symbol or an equivalence class. -/
  | named (kind : Char)
  | finish

/-- Takes a part of a set. -/
def setToken : List Char → SetToken × List Char
  | [] => (.finish, [])
  | '[' :: ':' :: rest => (.named ':', rest)
  | '[' :: '.' :: rest => (.named '.', rest)
  | '[' :: '=' :: rest => (.named '=', rest)
  | ']' :: rest => (.close, rest)
  | '-' :: '-' :: '-' :: rest => (.char '-', rest)
  | '-' :: rest => (.hyphen, rest)
  | c :: rest => (.char c, rest)

/-- One member of a set, or one end of a range. -/
inductive Member where
  | char (c : Char)
  | class (holds : Char → Bool)
  /-- The characters that count as one. -/
  | equivalent (c : Char)

/-- Takes the name of a class or the like up to its closing marks. -/
def spanName (kind : Char) : Nat → List Char → Option (List Char × List Char)
  | 0, _ => none
  | _, [] => none
  | _, [_] => none
  | fuel + 1, c :: d :: rest =>
    if c = kind && d = ']' then some ([], rest)
    else (spanName kind fuel (d :: rest)).map fun (name, rest) => (c :: name, rest)

/-- The longest name in a set. -/
def longestName : Nat := 32

/-- The member that a part of a set begins; a hyphen may be one only where that is said. -/
def readMember (hyphenCounts : Bool) (token : SetToken) (rest : List Char) :
    Except Problem (Member × List Char) :=
  match token with
  | .char c => .ok (.char c, rest)
  | .close => .ok (.char ']', rest)
  | .finish => .error .openSet
  | .hyphen =>
    if hyphenCounts then .ok (.char '-', rest)
    else
      match rest with
      | ']' :: _ => .ok (.char '-', rest)
      | _ => .error .range
  | .named kind =>
    match spanName kind (longestName + 1) rest with
    | none => .error .openSet
    | some (name, rest) =>
      match kind, name with
      | ':', name =>
        match CharSet.class? (String.ofList name) with
        | some holds => .ok (.class holds, rest)
        | none => .error .className
      | '=', [c] => .ok (.equivalent c, rest)
      | '.', [c] => .ok (.char c, rest)
      | _, _ => .error (if rest.isEmpty then .openSet else .collation)

/-- Reads the members of a set up to its closing bracket. -/
def readMembers (d : Dialect) (s : CharSet) (first : Bool) :
    Nat → SetToken → List Char → Except Problem (CharSet × List Char)
  | 0, _, _ => .error .openSet
  | fuel + 1, token, rest => do
    let goOn (s : CharSet) (rest : List Char) : Except Problem (CharSet × List Char) :=
      match setToken rest with
      | (.finish, _) => .error .openSet
      | (.close, rest) => .ok (s, rest)
      | (token, rest) => readMembers d s false fuel token rest
    let (member, rest) ← readMember first token rest
    let ranged : Option (Char × SetToken × List Char) := match member, setToken rest with
      | .char c, (.hyphen, behind) =>
        match setToken behind with
        | (.close, _) => none
        | (token, behind) => some (c, token, behind)
      | _, _ => none
    match ranged with
    | some (least, token, behind) =>
      let (final, rest) ← readMember true token behind
      match final with
      | .char greatest =>
        if !d.emptyRanges && greatest < least then throw .range
        goOn { s with ranges := (least, greatest) :: s.ranges } rest
      | _ => throw .range
    | none =>
      let (token, behind) := setToken rest
      match member, token with
      | .char c, .hyphen =>
        -- the last hyphen before the closing bracket is a member
        let s := { s with ranges := (c, c) :: s.ranges }
        readMembers d s true fuel (.char '-') behind
      | .char c, _ => goOn { s with ranges := (c, c) :: s.ranges } rest
      | .equivalent c, _ => goOn { s with ranges := (c, c) :: s.ranges } rest
      | .class holds, _ => goOn { s with classes := holds :: s.classes } rest

/-- Reads a set behind its opening bracket. -/
def readSet (d : Dialect) (text : List Char) : Except Problem (CharSet × List Char) :=
  let (complement, text) := match text with
    | '^' :: rest => (true, rest)
    | text => (false, text)
  let start : CharSet := ⟨if complement && d.eachLine then [('\n', '\n')] else [], [], complement⟩
  match setToken text with
  | (.finish, _) => .error .malformed
  | (token, rest) => readMembers d start true (text.length + 1) token rest

/-- A part of an expression. -/
inductive Token where
  | char (c : Char)
  | openGroup
  | closeGroup
  | openBrace
  | closeBrace
  | star
  | plus
  | optional
  | bar
  | any
  | openSet
  /-- A place between characters. -/
  | place (r : Regex)
  | set (s : CharSet)
  | again (number : Nat)
  | backslash
  | finish

/-- Whether a part ends an alternative, inside a group or outside of all. -/
def Token.ends (inside : Bool) : Token → Bool
  | bar | finish => true
  | closeGroup => inside
  | _ => false

/-- Whether a part says how often something is repeated. -/
def Token.isRepeat : Token → Bool
  | star | plus | optional | openBrace => true
  | _ => false

/-- The marks that stand for themselves without a backslash in one notation and with it in the
other. -/
def Token.ofMark? : Char → Option Token
  | '(' => some openGroup
  | ')' => some closeGroup
  | '\x7b' => some openBrace
  | '\x7d' => some closeBrace
  | '+' => some plus
  | '?' => some optional
  | '|' => some bar
  | _ => none

def wordSet (complement : Bool) : CharSet := ⟨[('_', '_')], [Char.isAlphanum], complement⟩

def spaceSet (complement : Bool) : CharSet :=
  ⟨[], [(· == ' '), fun c => 9 ≤ c.toNat && c.toNat ≤ 13], complement⟩

/-- What a letter behind a backslash means. -/
def Token.ofEscaped (d : Dialect) (c : Char) : Token :=
  match c with
  | 'w' => .set (wordSet false)
  | 'W' => .set (wordSet true)
  | 's' => .set (spaceSet false)
  | 'S' => .set (spaceSet true)
  | 'b' => .place (.border true true)
  | 'B' => .place .noBorder
  | '<' => .place (.border true false)
  | '>' => .place (.border false true)
  | '\x60' => .place (.start false)
  | '\'' => .place (.finish false)
  | c =>
    if c.isDigit && c != '0' then .again (c.toNat - 48)
    else if d.extended || (d.bareRepeats && (c = '+' || c = '?')) then .char c
    else (Token.ofMark? c).getD (.char c)

/-- Takes the first part of a text. The mark for the beginning counts as one where `atStart`. -/
def token (d : Dialect) (atStart : Bool) : List Char → Token × List Char
  | [] => (.finish, [])
  | ['\\'] => (.backslash, [])
  | '\\' :: c :: rest => (Token.ofEscaped d c, rest)
  | '*' :: rest => (.star, rest)
  | '.' :: rest => (.any, rest)
  | '[' :: rest => (.openSet, rest)
  | '\n' :: rest => (if d.linesApart then .bar else .char '\n', rest)
  | '^' :: rest =>
    (if d.extended || atStart then .place (.start d.eachLine) else .char '^', rest)
  | '$' :: rest =>
    let counts := d.extended || (match rest with
      | [] => true
      | '\\' :: c :: _ => c = '|' || c = ')'
      | '\n' :: _ => d.linesApart
      | _ => false)
    (if counts then .place (.finish d.eachLine) else .char '$', rest)
  | c :: rest =>
    let isMark := d.extended || (d.bareRepeats && (c = '+' || c = '?'))
    (if isMark then (Token.ofMark? c).getD (.char c) else .char c, rest)

/-- How far an expression is read: its present part and what is behind it, how many groups have
begun, and which ones are complete. -/
structure Reader where
  token : Token
  rest : List Char
  groups : Nat
  complete : List Nat

def Reader.next (s : Reader) (d : Dialect) (atStart : Bool) : Reader :=
  let (first, rest) := Regex.token d atStart s.rest
  { s with token := first, rest := rest }

/-- The number of repetitions that is read where there is none. -/
inductive Count where
  | absent
  | wrong
  | some (n : Nat)

/-- The greatest number of repetitions. -/
def mostRepeats : Nat := 32767

/-- Reads a number between braces. -/
def readCount (d : Dialect) : Nat → Count → Reader → Count × Reader
  | 0, count, s => (count, s)
  | fuel + 1, count, s =>
    let s := s.next d false
    match s.token with
    | .finish => (.wrong, s)
    | .closeBrace | .char ',' => (count, s)
    | .char c =>
      let digit := c.toNat - 48
      let count := match c.isDigit, count with
        | true, .absent => .some digit
        | true, .some n => .some (min (mostRepeats + 1) (n * 10 + digit))
        | _, _ => .wrong
      readCount d fuel count s
    | _ => readCount d fuel .wrong s

/-- Reads the numbers between braces: how often something is repeated at least and at most. Without
an answer the braces stand for themselves. -/
def readBraces (d : Dialect) (s : Reader) :
    Except Problem (Option (Nat × Option Nat × Reader)) := do
  let fuel := s.rest.length + 1
  let isComma (s : Reader) : Bool := match s.token with
    | .char ',' => true
    | _ => false
  let (first, after) := readCount d fuel .absent s
  let first ← match first with
    | .absent => if isComma after then pure (Count.some 0) else throw .braceContent
    | count => pure count
  let closes (s : Reader) : Bool := match s.token with
    | .closeBrace => true
    | _ => false
  let (second, after) := match first with
    | .wrong => (Count.wrong, after)
    | first =>
      if closes after then (first, after)
      else if isComma after then readCount d fuel .absent after
      else (.wrong, after)
  match first, second with
  | .some least, .some greatest =>
    if greatest < least || !closes after then throw .braceContent
    if mostRepeats < greatest then throw .tooBig
    return some (least, some greatest, after)
  | .some least, .absent =>
    if !closes after then throw .braceContent
    if mostRepeats < least then throw .tooBig
    return some (least, none, after)
  | _, _ =>
    if d.looseBraces then return none
    match after.token with
    | .finish => throw .openBrace
    | _ => throw .braceContent

/-- Reads the repetitions behind an expression. -/
def readRepeats (d : Dialect) : Nat → Regex → Reader → Except Problem (Regex × Reader)
  | 0, r, s => .ok (r, s)
  | fuel + 1, r, s => do
    let again (r : Regex) (s : Reader) : Except Problem (Regex × Reader) := do
      let s := s.next d false
      match s.token with
      | .star | .openBrace => if d.repeatsOnce then throw .nothingToRepeat
      | _ => pure ()
      readRepeats d fuel r s
    match s.token with
    | .star => again (.times r 0 none) s
    | .plus => again (.times r 1 none) s
    | .optional => again (.times r 0 (some 1)) s
    | .openBrace =>
      match ← readBraces d s with
      | some (least, greatest?, after) =>
        again (if greatest? = some 0 then .nothing else .times r least greatest?) after
      | none => return (r, { s with token := .char '\x7b' })
    | _ => return (r, s)

mutual

/-- Reads alternatives, inside a group or outside of all. -/
def readAlternatives (d : Dialect) (inside : Bool) : Nat → Reader → Except Problem (Regex × Reader)
  | 0, _ => .error .tooBig
  | fuel + 1, s => do
    let (first, s) ← readSequence d inside fuel none s
    readMore d inside fuel first s

/-- Reads the alternatives behind others. -/
def readMore (d : Dialect) (inside : Bool) :
    Nat → Regex → Reader → Except Problem (Regex × Reader)
  | 0, _, _ => .error .tooBig
  | fuel + 1, before, s => do
    match s.token with
    | .bar =>
      let s := s.next d true
      if s.token.ends inside then readMore d inside fuel (.either before .nothing) s
      else
        let (r, s) ← readSequence d inside fuel none s
        readMore d inside fuel (.either before r) s
    | _ => return (before, s)

/-- Reads one alternative. -/
def readSequence (d : Dialect) (inside : Bool) :
    Nat → Option Regex → Reader → Except Problem (Regex × Reader)
  | 0, _, _ => .error .tooBig
  | fuel + 1, before?, s => do
    match before?, s.token.ends inside with
    | some before, true => return (before, s)
    | none, true => return (.nothing, s)
    | before?, false =>
      let (r, s) ← readSingle d fuel s
      let r := before?.elim r fun before => .both before r
      readSequence d inside fuel (some r) s

/-- Reads one part with its repetitions. -/
def readSingle (d : Dialect) : Nat → Reader → Except Problem (Regex × Reader)
  | 0, _ => .error .tooBig
  | fuel + 1, s => do
    let repeated (r : Regex) (s : Reader) : Except Problem (Regex × Reader) :=
      readRepeats d (s.rest.length + 2) r (s.next d false)
    let plain (c : Char) : Except Problem (Regex × Reader) := do
      match s.token with
      | .openBrace => if d.repeatsOnce then throw .nothingToRepeat
      | _ => pure ()
      if s.token.isRepeat && d.repeatsSomething then throw .nothingToRepeat
      if s.token.isRepeat && d.extended then readSingle d fuel (s.next d false)
      else repeated (.char c) s
    match s.token with
    | .char c => repeated (.char c) s
    | .any => repeated (if d.eachLine then .set ⟨[('\n', '\n')], [], true⟩ else .any) s
    | .set members => repeated (.set members) s
    | .place r => return (r, s.next d false)
    | .again number =>
      if number ∈ s.complete then repeated (.again number) s else throw .reference
    | .openSet =>
      let (members, rest) ← readSet d s.rest
      repeated (.set members) { s with rest := rest }
    | .openGroup =>
      let number := s.groups + 1
      let inner := { s with groups := number }.next d true
      let (body, after) ← match inner.token with
        | .closeGroup => pure (.nothing, inner)
        | _ => readAlternatives d true fuel inner
      match after.token with
      | .closeGroup =>
        repeated (.group number body) { after with complete := number :: after.complete }
      | _ => throw .openGroup
    | .star => plain '*'
    | .plus => plain '+'
    | .optional => plain '?'
    | .openBrace => plain '\x7b'
    | .closeBrace => repeated (.char '\x7d') s
    | .closeGroup => if d.looseBrackets then repeated (.char ')') s else throw .closedGroup
    | .backslash => throw .backslash
    | .bar | .finish => return (.nothing, s)

end

/-- The expression that a text is, and the number of its groups. -/
def read (d : Dialect) (text : List Char) : Except Problem (Regex × Nat) := do
  let start : Reader := ⟨.finish, text, 0, []⟩
  let (r, s) ← readAlternatives d false (4 * text.length + 8) (start.next d true)
  return (r, s.groups)

/-- Whether a set stands where a class was meant: one colon begins it and one ends it. -/
def isOuterClass : List Char → Bool
  | '[' :: text =>
    let inner := (if text.head? = some '^' then text.drop 1 else text).takeWhile (· != ']')
    3 ≤ inner.length && inner.length < text.length && inner.head? = some ':'
      && inner.getLast? = some ':' && '[' ∉ inner
      && !((inner.drop 1).dropLast.dropLast.contains '-')
  | _ => false

/-- Whether one of the sets of an expression stands where a class was meant. -/
def hasOuterClass : Nat → List Char → Bool
  | 0, _ => false
  | _, [] => false
  | fuel + 1, '\\' :: _ :: rest => hasOuterClass fuel rest
  | fuel + 1, '[' :: rest =>
    isOuterClass ('[' :: rest) || (match readSet {} rest with
      | .ok (_, rest) => hasOuterClass fuel rest
      | .error _ => false)
  | fuel + 1, _ :: rest => hasOuterClass fuel rest

/-- The expression that a text is; sets that stand where a class was meant are refused. -/
def readStrictly (d : Dialect) (text : List Char) : Except Problem (Regex × Nat) := do
  let result ← read d text
  if hasOuterClass (text.length + 1) text then throw .outerClass
  return result

end ToolHost.Text.Regex
