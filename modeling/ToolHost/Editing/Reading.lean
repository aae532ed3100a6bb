import ToolHost.Editing.Script
import ToolHost.Text.Regex.Reading

/-! Scripts as texts. A script is read character by character, so that it can be said how much of it
had been read where something was wrong. -/
namespace ToolHost.Editing

/-- Why a script cannot be read, and how many of its characters were not looked at by then. -/
inductive Refusal where
  | at (problem : String) (left : Nat)
  /-- The complaint is about no place. -/
  | outright (problem : String)

/-- A way to take something from the front of a script. -/
abbrev Scan := StateT (List Char) (Except Refusal)

namespace Scan

def fail (problem : String) : Scan α := do throw (.at problem (← get).length)

/-- Takes a character. -/
def next : Scan (Option Char) := do
  match ← get with
  | c :: rest =>
    set rest
    return some c
  | [] => return none

/-- Puts a character back. -/
def back (c? : Option Char) : Scan Unit := modify fun rest => c?.toList ++ rest

/-- Takes what holds, as far as it goes. -/
def takeWhile (holds : Char → Bool) : Scan (List Char) := do
  let rest ← get
  let taken := rest.takeWhile holds
  set (rest.drop taken.length)
  return taken

def isBlank (c : Char) : Bool := c == ' ' || c == '\t'

def isSpace (c : Char) : Bool := c == ' ' || (9 ≤ c.toNat && c.toNat ≤ 13)

/-- Takes the next character that is no blank. -/
def nextVisible : Scan (Option Char) := do
  let _ ← takeWhile isBlank
  next

/-- Takes a number, whose first digit may have been taken. -/
def number (first? : Option Char) : Scan Nat := do
  match first? with
  | some c =>
    if c.isDigit then
      let digits ← takeWhile Char.isDigit
      return ((String.ofList (c :: digits)).toNat?).getD 0
    else
      back (some c)
      return 0
  | none => return 0

/-- Whether a set in a pattern is open, and what closes the name in it, if there is one. -/
inductive SetPlace where
  | outside
  /-- Nothing of the set has been taken yet; it may be turned round. -/
  | begun (turned : Bool)
  | inside
  | named (kind : Char)
  /-- The bracket behind a name comes next. -/
  | closing

/-- Where one is behind a member of a set. -/
def SetPlace.behindMember (c : Char) (rest : List Char) : SetPlace :=
  match c, rest with
  | '[', d :: _ => if d = ':' || d = '.' || d = '=' then named d else inside
  | _, _ => inside

/-- Where one is in a pattern behind another character. -/
def SetPlace.after (place : SetPlace) (c : Char) (rest : List Char) : SetPlace :=
  match place with
  | outside => if c = '[' then begun false else outside
  | begun turned =>
    if c = '^' && !turned then begun true
    else if c = ']' then inside
    else behindMember c rest
  | inside => if c = ']' then outside else behindMember c rest
  | named kind => if c = kind && rest.head? = some ']' then closing else named kind
  | closing => inside

/-- Takes what stands before a mark, which is taken too; without an answer there is no mark. A
backslash before the mark is left out, and behind it the mark stands for itself. In a pattern a mark
in a set is a character like others, and `\n` is the end of a line. -/
def upTo (mark : Char) (pattern : Bool) : Nat → SetPlace → List Char →
    Option (List Char) × List Char
  | 0, _, text => (none, text)
  | _, _, [] => (none, [])
  | fuel + 1, place, c :: rest =>
    let put (front : List Char) (place : SetPlace) (rest : List Char) :
        Option (List Char) × List Char :=
      let (text?, rest) := upTo mark pattern fuel place rest
      (text?.map (front ++ ·), rest)
    match place, c, rest with
    | .outside, '\\', d :: rest =>
      if d = mark && !(d = '&' && !pattern) then put [d] .outside rest
      else if d = 'n' && pattern then put ['\n'] .outside rest
      else if d = '\n' then put (if pattern then ['\n'] else ['\\', '\n']) .outside rest
      else put ['\\', d] .outside rest
    | .outside, c, rest =>
      if c = mark then (some [], rest)
      else if c = '\n' && pattern then (none, '\n' :: rest)
      else put [c] (if pattern then place.after c rest else .outside) rest
    | _, '\\', 'n' :: rest => put ['\n'] .inside rest
    | place, c, rest =>
      if c = '\n' then (none, '\n' :: rest) else put [c] (place.after c rest) rest

/-- Takes what stands before a mark. -/
def delimited (mark : Char) (pattern : Bool) : Scan (Option (List Char)) := do
  let text ← get
  let (text?, rest) := upTo mark pattern (text.length + 1) .outside text
  set rest
  return text?

end Scan

/-- The value of a digit in some base. -/
def digitIn? (base : Nat) (c : Char) : Option Nat :=
  let value :=
    if c.isDigit then c.toNat - 48
    else if 'a' ≤ c && c ≤ 'f' then c.toNat - 87
    else if 'A' ≤ c && c ≤ 'F' then c.toNat - 55
    else base
  if value < base then some value else none

/-- The character with a code of at most so many digits, and what follows it. -/
def coded? (base most : Nat) (text : List Char) : Option (Char × List Char) :=
  let digits := (text.take most).takeWhile fun c => (digitIn? base c).isSome
  let value := digits.foldl (fun n c => n * base + (digitIn? base c).getD 0) 0
  if digits.isEmpty then none
  else some (Char.ofNat (value % 256), text.drop digits.length)

/-- The character that an escape stands for, behind its backslash, if it is one of those that stand
for the same everywhere. -/
def escaped? : List Char → Option (Char × List Char)
  | 'a' :: rest => some ('\x07', rest)
  | 'f' :: rest => some ('\x0c', rest)
  | 'r' :: rest => some ('\r', rest)
  | 't' :: rest => some ('\t', rest)
  | 'v' :: rest => some ('\x0b', rest)
  | 'c' :: c :: rest => some (Char.ofNat (c.toUpper.toNat ^^^ 0x40), rest)
  | 'd' :: rest => coded? 10 3 rest
  | 'o' :: rest => coded? 8 3 rest
  | 'x' :: rest => coded? 16 2 rest
  | _ => none

/-- A pattern with the characters that its escapes stand for. -/
def plainPattern : Nat → List Char → List Char
  | 0, _ => []
  | _, [] => []
  | fuel + 1, '\\' :: rest =>
    match escaped? rest, rest with
    | some (c, after), first :: _ =>
      let coded := first = 'd' || first = 'o' || first = 'x'
      let special := c ∈ ['$', '*', '.', '[', '\\', ']', '^', '\n']
      (if coded && special then ['\\', c] else [c]) ++ plainPattern fuel after
    | none, c :: rest => '\\' :: c :: plainPattern fuel rest
    | _, [] => ['\\']
  | fuel + 1, c :: rest => c :: plainPattern fuel rest

/-- The parts of a replacement. -/
def partsOf : Nat → List Char → List Part
  | 0, _ => []
  | _, [] => []
  | fuel + 1, '&' :: rest => .group 0 :: partsOf fuel rest
  | fuel + 1, '\\' :: c :: rest =>
    let letters : Option Part := match c with
      | 'L' => some (.letters .lower)
      | 'U' => some (.letters .upper)
      | 'E' => some (.letters .asTheyAre)
      | 'l' => some (.nextLetter .lower)
      | 'u' => some (.nextLetter .upper)
      | 'n' => some (.text '\n')
      | c => if c.isDigit then some (.group (c.toNat - 48)) else none
    match letters, escaped? (c :: rest) with
    | some part, _ => part :: partsOf fuel rest
    | none, some (c, after) => .text c :: partsOf fuel after
    | none, none => .text c :: partsOf fuel rest
  | fuel + 1, c :: rest => .text c :: partsOf fuel rest

/-- The characters of a list that are put one for the other. -/
def exchanged : Nat → List Char → List Char
  | 0, _ => []
  | _, [] => []
  | fuel + 1, '\\' :: '\\' :: rest => '\\' :: exchanged fuel rest
  | fuel + 1, '\\' :: 'n' :: rest => '\n' :: exchanged fuel rest
  | fuel + 1, '\\' :: '\n' :: rest => '\n' :: exchanged fuel rest
  | fuel + 1, '\\' :: rest =>
    match escaped? rest with
    | some (c, after) => c :: exchanged fuel after
    | none => '\\' :: exchanged fuel rest
  | fuel + 1, c :: rest => c :: exchanged fuel rest

/-- The text that lines are made of, without its backslashes. -/
def plainText : Nat → List Char → List Char
  | 0, _ => []
  | _, [] => []
  | fuel + 1, '\\' :: 'n' :: rest => '\n' :: plainText fuel rest
  | fuel + 1, '\\' :: rest =>
    match escaped? rest, rest with
    | some (c, after), _ => c :: plainText fuel after
    | none, c :: rest => c :: plainText fuel rest
    | none, [] => []
  | fuel + 1, c :: rest => c :: plainText fuel rest

/-- How scripts are read. -/
structure Manner where
  extended : Bool
  /-- Whether the script is the first one, so that its first line may say that nothing is printed
  unasked. -/
  first : Bool
  /-- Whether ends of lines are characters like others. -/
  zero : Bool

/-- The expression of a pattern; an empty one stands for the one used last. -/
def patternOf (m : Manner) (eachLine : Bool) (text : List Char) : Scan (Option Text.Regex × Nat) := do
  if text.isEmpty then return (none, 9)
  else
    match Text.Regex.readStrictly (.editing m.extended (eachLine && !m.zero))
        (plainPattern (text.length + 1) text) with
    | .ok (r, groups) => return (some r, groups)
    | .error .outerClass => throw (.outright Text.Regex.Problem.outerClass.message)
    | .error problem => Scan.fail problem.message

/-- Takes the letters behind the pattern of an address. -/
def readPatternFlags : Nat → Bool → Bool → Scan (Bool × Bool)
  | 0, fold, eachLine => return (fold, eachLine)
  | fuel + 1, fold, eachLine => do
    match ← Scan.nextVisible with
    | some 'I' => readPatternFlags fuel true eachLine
    | some 'M' => readPatternFlags fuel fold true
    | c? =>
      Scan.back c?
      return (fold, eachLine)

/-- Takes an address that begins with a character, if it begins one. -/
def readAddress (m : Manner) (c? : Option Char) : Scan (Option Address) := do
  let pattern (mark? : Option Char) : Scan (Option Address) := do
    let some mark := mark? | Scan.fail "unterminated address regex"
    match ← Scan.delimited mark true with
    | none => Scan.fail "unterminated address regex"
    | some text =>
      let (fold, eachLine) ← readPatternFlags ((← get).length + 1) false false
      if text.isEmpty && (fold || eachLine) then
        Scan.fail "cannot specify modifiers on empty regexp"
      let (r?, _) ← patternOf m eachLine text
      return some (.matching r? fold)
  match c? with
  | some '/' => pattern (some '/')
  | some '\\' => pattern (← Scan.next)
  | some '$' => return some .last
  | some '+' => return some (.behind (← Scan.number (← Scan.nextVisible)))
  | some '~' => return some (.multiple (← Scan.number (← Scan.nextVisible)))
  | some c =>
    if c.isDigit then
      let n ← Scan.number (some c)
      match ← Scan.nextVisible with
      | some '~' =>
        let size ← Scan.number (← Scan.nextVisible)
        return some (if size = 0 then .line n else .step n size)
      | after? =>
        Scan.back after?
        return some (.line n)
    else return none
  | none => return none

/-- Sees to it that nothing else belongs to a command. -/
def readEnd : Scan Unit := do
  match ← Scan.nextVisible with
  | none | some '\n' | some ';' => return
  | some c =>
    if c = '\x7d' || c = '#' then Scan.back (some c)
    else Scan.fail "extra characters after command"

/-- Takes the name of a label. -/
def readLabel (ends : Char → Bool) : Scan (List Char) := do
  let _ ← Scan.takeWhile Scan.isBlank
  Scan.takeWhile fun c => !ends c

/-- Takes the name of a file, up to the end of the line. -/
def readName : Scan String := do
  let _ ← Scan.takeWhile Scan.isBlank
  let name ← Scan.takeWhile (· != '\n')
  if name.isEmpty then Scan.fail "missing filename in r/R/w/W commands"
  return (String.fromUTF8? ⟨(name.map fun c => UInt8.ofNat c.toNat).toArray⟩).getD
    (String.ofList name)

/-- The flags of a substitution. -/
structure Flags where
  everywhere : Bool := false
  nth? : Option Nat := none
  print : Bool := false
  foldCase : Bool := false
  eachLine : Bool := false
  file? : Option String := none

/-- Takes the flags of a substitution. -/
def readFlags : Nat → Flags → Scan Flags
  | 0, f => return f
  | fuel + 1, f => do
    match ← Scan.next with
    | some 'i' | some 'I' => readFlags fuel { f with foldCase := true }
    | some 'm' | some 'M' => readFlags fuel { f with eachLine := true }
    | some 'g' =>
      if f.everywhere then Scan.fail "multiple \x60g' options to \x60s' command"
      readFlags fuel { f with everywhere := true }
    | some 'p' =>
      if f.print then Scan.fail "multiple \x60p' options to \x60s' command"
      readFlags fuel { f with print := true }
    | some 'w' => return { f with file? := some (← readName) }
    | none | some '\n' | some ';' => return f
    | some c =>
      if c.isDigit then
        if f.nth?.isSome then Scan.fail "multiple number options to \x60s' command"
        let n ← Scan.number (some c)
        if n = 0 then Scan.fail "number option to \x60s' command may not be zero"
        readFlags fuel { f with nth? := some n }
      else if c = '\x7d' || c = '#' then
        Scan.back (some c)
        return f
      else if Scan.isBlank c then readFlags fuel f
      else Scan.fail "unknown option to \x60s'"

/-- Takes a substitution behind its letter. -/
def readSubstitution (m : Manner) : Scan Action := do
  let lacking : Scan Action := Scan.fail "unterminated \x60s' command"
  let some mark ← Scan.next | lacking
  let some pattern ← Scan.delimited mark true | lacking
  let some replacement ← Scan.delimited mark false | lacking
  let f ← readFlags ((← get).length + 1) {}
  let parts := partsOf (replacement.length + 1) replacement
  if pattern.isEmpty && (f.foldCase || f.eachLine) then
    Scan.fail "cannot specify modifiers on empty regexp"
  let (r?, groups) ← patternOf m f.eachLine pattern
  let highest := parts.foldl (fun n part => match part with
    | .group k => max n k
    | _ => n) 0
  if groups < highest then
    Scan.fail ("invalid reference \\" ++ toString highest ++ " on \x60s' command's RHS")
  return .substitute ⟨r?, f.foldCase, parts, f.everywhere, f.nth?.getD 1, f.print, f.file?⟩

/-- Takes characters that are put for others behind their letter. -/
def readExchange : Scan Action := do
  let lacking : Scan Action := Scan.fail "unterminated \x60y' command"
  let some mark ← Scan.next | lacking
  let some old ← Scan.delimited mark false | lacking
  let some new ← Scan.delimited mark false | lacking
  let old := exchanged (old.length + 1) old
  let new := exchanged (new.length + 1) new
  if old.length != new.length then
    Scan.fail "strings for \x60y' command are different lengths"
  readEnd
  return .exchange old new

/-- Takes lines of text, each but the last one with a backslash at its end. -/
def takeText : List Char → List Char × List Char
  | [] => ([], [])
  | '\\' :: c :: rest =>
    let (text, after) := takeText rest
    ('\\' :: c :: text, after)
  | ['\\'] => ([], [])
  | '\n' :: rest => ([], rest)
  | c :: rest =>
    let (text, after) := takeText rest
    (c :: text, after)

/-- Takes the text of a command behind its letter. -/
def readText : Scan (List Char) := do
  let finish : Scan (List Char) := do
    let (text, rest) := takeText (← get)
    set rest
    return plainText (text.length + 1) text ++ ['\n']
  match ← Scan.nextVisible with
  | none => Scan.fail "expected \\ after \x60a', \x60c' or \x60i'"
  | some '\\' =>
    match ← get with
    | [] => return []
    | '\n' :: rest =>
      set rest
      finish
    | text =>
      match text.dropWhile Scan.isBlank with
      | '\n' :: rest =>
        set rest
        finish
      | _ => finish
  | some c =>
    Scan.back (some c)
    finish

/-- How far scripts have been read. -/
structure Reading where
  instructions : List Instruction := []
  /-- How many blocks are open. -/
  depth : Nat := 0
  /-- Whether the first line says that nothing is printed unasked. -/
  silent : Bool := false

/-- Takes an action that begins with a letter. -/
def readAction (m : Manner) (single addressed : Bool) (depth : Nat) (letter : Char) :
    Scan Action := do
  let ended (action : Action) : Scan Action := do
    readEnd
    return action
  match letter with
  | '\x7b' => return .openBlock
  | '\x7d' =>
    if depth = 0 then Scan.fail "unexpected \x60\x7d'"
    if addressed then Scan.fail "\x7d doesn't want any addresses"
    ended .closeBlock
  | 's' => readSubstitution m
  | 'y' => readExchange
  | 'a' => return .append (← readText)
  | 'i' => return .insert (← readText)
  | 'c' => return .change (← readText)
  | ':' =>
    if addressed then Scan.fail ": doesn't want any addresses"
    let name ← readLabel ends
    if name.isEmpty then Scan.fail "\":\" lacks a label"
    return .label name
  | 'b' => return .jump (← readLabel ends)
  | 't' => return .jumpIf (← readLabel ends) true
  | 'T' => return .jumpIf (← readLabel ends) false
  | 'r' => return .readFile (← readName)
  | 'R' => return .readLine (← readName)
  | 'w' => return .writeFile (← readName)
  | 'W' => return .writeFirst (← readName)
  | 'q' | 'Q' =>
    if !single then Scan.fail "command only uses one address"
    let code ← Scan.number (← Scan.nextVisible)
    ended (.quit code (letter = 'Q'))
  | 'l' =>
    match ← Scan.nextVisible with
    | some c =>
      if c.isDigit then
        let width ← Scan.number (some c)
        ended (.list (some width))
      else
        Scan.back (some c)
        ended (.list none)
    | none => return .list none
  | 'v' =>
    let version ← readLabel fun c => Scan.isSpace c || c = ';'
    match version.span Char.isDigit with
    | (digits, _) =>
      if 4 < ((String.ofList digits).toNat?).getD 0 then
        Scan.fail "expected newer version of sed"
      return .nothing
  | '=' => ended .number
  | 'd' => ended .delete
  | 'D' => ended .deleteFirst
  | 'F' => ended .printName
  | 'g' => ended (.recall false)
  | 'G' => ended (.recall true)
  | 'h' => ended (.keep false)
  | 'H' => ended (.keep true)
  | 'n' => ended .next
  | 'N' => ended .nextJoined
  | 'p' => ended .print
  | 'P' => ended .printFirst
  | 'x' => ended .swap
  | 'z' => ended .clear
  | c => Scan.fail s!"unknown command: \x60{c}'"
where
  /-- What the name of a label to go to ends before. -/
  ends (c : Char) : Bool := Scan.isSpace c || c = ';' || c = '\x7d'

/-- Takes one instruction that begins with a character. -/
def readInstruction (m : Manner) (depth : Nat) (c : Char) : Scan Instruction := do
  let first? ← readAddress m (some c)
  match first? with
  | some (.behind _) | some (.multiple _) =>
    Scan.fail "invalid usage of +N or ~N as first address"
  | _ => pure ()
  let c? ← if first?.isSome then Scan.nextVisible else pure (some c)
  let (final?, c?) ← match first?, c? with
    | some _, some ',' => do
      match ← readAddress m (← Scan.nextVisible) with
      | none => Scan.fail "unexpected \x60,'"
      | final? => pure (final?, ← Scan.nextVisible)
    | _, c? => pure (none, c?)
  match first?, final? with
  | some (.line 0), some (.matching ..) => pure ()
  | some (.line 0), _ => Scan.fail "invalid usage of line address 0"
  | _, _ => pure ()
  let negated := c? = some '!'
  let c? ← if negated then Scan.nextVisible else pure c?
  match c? with
  | none => Scan.fail "missing command"
  | some '!' => Scan.fail (if negated then "multiple \x60!'s" else "missing command")
  | some '#' =>
    if first?.isSome then Scan.fail "comments don't accept any addresses"
    let _ ← Scan.takeWhile (· != '\n')
    return ⟨none, none, false, .nothing⟩
  | some letter =>
    if letter = '\n' || letter = ';' then Scan.fail "missing command"
    return ⟨first?, final?, negated,
      ← readAction m final?.isNone first?.isSome depth letter⟩

/-- Takes instructions up to the end of a script. -/
def readInstructions (m : Manner) : Nat → Reading → Scan Reading
  | 0, r => return r
  | fuel + 1, r => do
    let _ ← Scan.takeWhile fun c => Scan.isSpace c || c = ';'
    match ← Scan.next with
    | none => return r
    | some '#' =>
      let _ ← Scan.takeWhile (· != '\n')
      readInstructions m fuel r
    | some c =>
      let i ← readInstruction m r.depth c
      let depth := match i.action with
        | .openBlock => r.depth + 1
        | .closeBlock => r.depth - 1
        | _ => r.depth
      readInstructions m fuel
        { r with instructions := r.instructions ++ [i], depth := depth }

/-- Goes on with another script. -/
def Reading.add (r : Reading) (m : Manner) (script : List Char) : Except Refusal Reading := do
  let silent := m.first && ['#', 'n'].isPrefixOf script
  let (r, _) ← (readInstructions m (script.length + 1) { r with silent := r.silent || silent }).run
    script
  return r

end ToolHost.Editing
