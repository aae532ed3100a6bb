import ToolHost.Shell.Syntax

/-! Script texts as words and operators. A word may hold commands, so the reader of commands is
given to all that reads words. -/
namespace ToolHost.Shell

/-- Why a script cannot be read, and the line where that shows. -/
structure SyntaxFault where
  line : Nat
  text : String

inductive Token where
  | word (pieces : Word)
  | redirect (descriptor? : Option Nat) (operator : String)
  | operator (text : String)
  | finish

/-- The words that have a meaning of their own where a command may begin. -/
def reservedWords : List String :=
  ["!", "\x7b", "\x7d", "case", "do", "done", "elif", "else", "esac", "fi", "for", "if", "in",
    "then", "until", "while"]

/-- The operator that a token is, or the reserved word. -/
def Token.mark? : Token → Option String
  | .operator text => some text
  | .word pieces => (Word.bare? pieces).filter (· ∈ reservedWords)
  | _ => none

def Token.isMark (token : Token) (mark : String) : Bool := token.mark? = some mark

/-- What a message calls a token. -/
def Token.title : Token → String
  | .finish => "end of file"
  | .redirect .. => "redirection"
  | .operator "\n" => "newline"
  | token =>
    match token.mark? with
    | some mark => s!"\"{mark}\""
    | none => "word"

/-- A text of the script that a redirection has announced, and that follows behind the line. -/
structure Announced where
  number : Nat
  /-- The line that ends it. -/
  mark : List Char
  /-- Whether it is taken as it is. -/
  literal : Bool
  withoutTabs : Bool

/-- How far a script has been read. -/
structure Scan where
  rest : List Char
  /-- A bound on how many characters are left. -/
  size : Nat
  line : Nat
  /-- A token that was looked at and not taken. -/
  ahead? : Option Token
  announced : List Announced
  /-- The texts that were announced, by their numbers. -/
  documents : Array Word
  /-- The texts that stand for names of commands. -/
  aliases : List (String × String)
  /-- The names whose texts are being read, with how much is left behind each text. -/
  replaced : List (String × Nat)

abbrev Scanning := StateT Scan (Except SyntaxFault)

/-- The readers of commands that the reader of words needs. -/
structure Grammar where
  /-- Reads commands up to a word or an operator that ends them; there may have to be one. -/
  list : (mayBeEmpty : Bool) → Scanning Command
  /-- Reads one command. -/
  command : Scanning Command

/-- Gives up at the present line. -/
def fault (text : String) : Scanning α := do throw ⟨(← get).line, text⟩

/-- Gives up because of a token that was taken. -/
def unexpected (token : Token) (expected? : Option String) : Scanning α :=
  match expected? with
  | some expected => fault s!"{token.title} unexpected (expecting \"{expected}\")"
  | none => fault s!"{token.title} unexpected"

def setRest (rest : List Char) : Scanning Unit := modify fun s => { s with rest := rest }

def countLines (n : Nat) : Scanning Unit := modify fun s => { s with line := s.line + n }

def newlinesIn (text : List Char) : Nat := text.count '\n'

/-- Reads an inner text by itself, whose lines are counted from the given one on. -/
def within (text : List Char) (line : Nat) (read : Scanning α) : Scanning α := do
  let outer ← get
  set { outer with
    rest := text
    size := text.length
    line := line
    ahead? := none
    announced := []
    replaced := [] }
  let a ← read
  modify fun inner => { outer with documents := inner.documents }
  return a

/-- Whether a character ends a word outside quotes. -/
def endsWord (c : Char) : Bool :=
  c ∈ [' ', '\t', '\n', ';', '&', '|', '<', '>', '(', ')']

/-- The parameters that have a mark for a name. -/
def isSpecial (c : Char) : Bool := c.isDigit || c ∈ ['@', '*', '#', '?', '$', '!', '-']

/-- What the pieces of a word are read for. -/
inductive Context where
  | word
  | double
  /-- Behind the name of a parameter in braces. -/
  | brace (inQuotes : Bool)
  /-- In a text between lines of the script. -/
  | document
  /-- In a sum, with brackets that are open. -/
  | sum (depth : Nat)

/-- Whether text counts as quoted. -/
def Context.quotes : Context → Bool
  | word | brace false => false
  | _ => true

/-- Whether a backslash takes the special meaning of a character away where text is quoted. -/
def Context.escapes (context : Context) (c : Char) : Bool :=
  c ∈ ['\\', '\x60', '$'] ||
    match context with
    | document => false
    | brace _ => c == '"' || c == '\x7d'
    | _ => c == '"'

/-- Drops backslashes at ends of lines, by which lines are joined. -/
def joinLines : Nat → Scanning Unit
  | 0 => pure ()
  | fuel + 1 => do
    match (← get).rest with
    | '\\' :: '\n' :: rest =>
      setRest rest
      countLines 1
      joinLines fuel
    | _ => pure ()

/-- Splits off the text of a substitution between backquotes. -/
def spanBackquoted (inQuotes : Bool) : List Char → Option (List Char × List Char)
  | [] => none
  | '\x60' :: rest => some ([], rest)
  | '\\' :: c :: rest =>
    (spanBackquoted inQuotes rest).map fun (text, after) =>
      if c = '\n' then (text, after)
      else if c ∈ ['\\', '\x60', '$'] || (inQuotes && c == '"') then (c :: text, after)
      else ('\\' :: c :: text, after)
  | c :: rest => (spanBackquoted inQuotes rest).map fun (text, after) => (c :: text, after)

/-- Reads the use of a parameter in braces, behind its name. -/
def scanUse (pieces : Context → Scanning Word) (inQuotes : Bool) : Scanning Use := do
  let worded (nullToo : Bool) (c : Char) (rest : List Char) : Scanning Use := do
    setRest rest
    let word ← pieces (.brace inQuotes)
    return match c with
      | '-' => .orElse nullToo word
      | '=' => .orSet nullToo word
      | '?' => .orFail nullToo word
      | _ => .replacement nullToo word
  let without (atEnd longest : Bool) (rest : List Char) : Scanning Use := do
    setRest rest
    return .without atEnd longest (← pieces (.brace false))
  match (← get).rest with
  | '\x7d' :: rest =>
    setRest rest
    return .value
  | '%' :: '%' :: rest => without true true rest
  | '%' :: rest => without true false rest
  | '#' :: '#' :: rest => without false true rest
  | '#' :: rest => without false false rest
  | ':' :: c :: rest =>
    if c ∈ ['-', '=', '?', '+'] then worded true c rest
    else
      let _ ← pieces (.brace inQuotes)
      return .malformed
  | c :: rest =>
    if c ∈ ['-', '=', '?', '+'] then worded false c rest
    else
      let _ ← pieces (.brace inQuotes)
      return .malformed
  | [] => fault "Missing '\x7d'"

/-- The name of a parameter at the front of a text, and what follows. -/
def spanName? (text : List Char) : Option (String × List Char) :=
  match text with
  | c :: rest =>
    if isNameStart c then
      let (name, rest) := text.span isNameChar
      some (String.ofList name, rest)
    else if c.isDigit then
      let (name, rest) := text.span Char.isDigit
      some (String.ofList name, rest)
    else if isSpecial c then some (String.singleton c, rest)
    else none
  | [] => none

/-- Reads a parameter in braces, behind the opening one. -/
def scanBraces (pieces : Context → Scanning Word) (inQuotes : Bool) : Scanning Piece := do
  let used (name : String) (rest : List Char) : Scanning Piece := do
    setRest rest
    return .parameter name (← scanUse pieces inQuotes) inQuotes
  let malformed : Scanning Piece := do
    let _ ← pieces (.brace inQuotes)
    return .parameter "" .malformed inQuotes
  let plain (text : List Char) : Scanning Piece :=
    match spanName? text with
    | some (name, rest) => used name rest
    | none => malformed
  let text := (← get).rest
  match text with
  | '#' :: rest =>
    match spanName? rest, rest with
    | some (name, after), c :: _ =>
      if isNameChar c || after.head? = some '\x7d' then
        setRest after
        let _ ← pieces (.brace inQuotes)
        return .parameter name .length inQuotes
      else plain text
    | _, _ => plain text
  | _ => plain text

/-- Reads what follows a dollar sign. -/
def scanDollar (g : Grammar) (pieces : Context → Scanning Word) (inQuotes : Bool) :
    Scanning Piece := do
  joinLines (← get).size
  match (← get).rest with
  | '(' :: '(' :: rest =>
    setRest rest
    return .sum (← pieces (.sum 0)) inQuotes
  | '(' :: rest =>
    let announced := (← get).announced
    modify fun s => { s with rest := rest, announced := [] }
    let body ← g.list true
    match (← get).ahead? with
    | some (.operator ")") =>
      modify fun s => { s with announced := announced, ahead? := none }
      return .output body inQuotes
    | token? => unexpected (token?.getD .finish) (some ")")
  | '\x7b' :: rest =>
    setRest rest
    joinLines (← get).size
    scanBraces pieces inQuotes
  | text =>
    match text.head?, spanName? text with
    | some c, some (name, rest) =>
      -- without braces only the first digit counts
      if c.isDigit then
        setRest text.tail
        return .parameter (String.singleton c) .value inQuotes
      else
        setRest rest
        return .parameter name .value inQuotes
    | _, _ => return if inQuotes then .quoted ['$'] else .plain '$'

/-- Reads what follows a backquote. -/
def scanBackquoted (g : Grammar) (inQuotes : Bool) : Scanning Piece := do
  let s ← get
  match spanBackquoted inQuotes s.rest with
  | none => fault "EOF in backquote substitution"
  | some (text, rest) =>
    let body ← within text 1 do
      let body ← g.list true
      match (← get).ahead? with
      | some .finish | none => return body
      | some token => unexpected token none
    setRest rest
    countLines (newlinesIn s.rest - newlinesIn rest)
    return .output body inQuotes

/-- Takes the text up to a closing quote. -/
def scanSingle (rest : List Char) : Scanning (List Char) := do
  let (text, rest) := rest.span (· != '\'')
  countLines (newlinesIn text)
  match rest with
  | _ :: rest =>
    setRest rest
    return text
  | [] => fault "Unterminated quoted string"

/-- Reads the pieces of a word up to the end that their context gives them, and that end as well
unless it belongs to what follows. -/
def scanPieces (g : Grammar) : Nat → Context → Scanning Word
  | 0, _ => fault "word too long"
  | fuel + 1, context => do
    let quotes := context.quotes
    let more (pieces : List Piece) (rest : List Char) (context : Context) : Scanning Word := do
      setRest rest
      return pieces ++ (← scanPieces g fuel context)
    let self (c : Char) (rest : List Char) (context : Context) : Scanning Word :=
      more [if quotes then .quoted [c] else .plain c] rest context
    match (← get).rest with
    | [] =>
      match context with
      | .word | .document => return []
      | .double => fault "Unterminated quoted string"
      | .brace _ => fault "Missing '\x7d'"
      | .sum _ => fault "Missing '))'"
    | '\\' :: '\n' :: rest =>
      countLines 1
      more [] rest context
    | '\\' :: c :: rest =>
      more [.quoted (if quotes && !context.escapes c then ['\\', c] else [c])] rest context
    | '$' :: rest =>
      setRest rest
      let piece ← scanDollar g (scanPieces g fuel) quotes
      return piece :: (← scanPieces g fuel context)
    | '\x60' :: rest =>
      setRest rest
      let piece ← scanBackquoted g quotes
      return piece :: (← scanPieces g fuel context)
    | c :: rest =>
      if c = '\n' && !(context matches .word) then countLines 1
      match context, c with
      | .double, '"' =>
        setRest rest
        return []
      | .word, '"' | .brace _, '"' =>
        setRest rest
        let inner ← scanPieces g fuel .double
        return (if inner.isEmpty then [.quoted []] else inner) ++ (← scanPieces g fuel context)
      | .word, '\'' | .brace false, '\'' =>
        let text ← scanSingle rest
        return .quoted text :: (← scanPieces g fuel context)
      | .brace _, '\x7d' =>
        setRest rest
        return []
      | .sum depth, '(' => self c rest (.sum (depth + 1))
      | .sum (depth + 1), ')' => self c rest (.sum depth)
      | .sum 0, ')' =>
        match rest with
        | ')' :: rest =>
          setRest rest
          return []
        | rest => self c rest (.sum 0)
      | .sum depth, '"' => more [] rest (.sum depth)
      | .word, c => if endsWord c then return [] else self c rest .word
      | context, c => self c rest context

/-- Takes the lines of an announced text off the front, up to the line that ends it. A line that
joins the next one is no end. -/
def spanDocument (a : Announced) (joined : Bool) : Nat → List Char → List Char × List Char
  | 0, text => ([], text)
  | _, [] => ([], [])
  | fuel + 1, text =>
    let (line, rest) := text.span (· != '\n')
    let line := if a.withoutTabs then line.dropWhile (· == '\t') else line
    if line = a.mark && !joined then ([], rest.tail)
    else
      let joins := !a.literal && (line.reverse.takeWhile (· == '\\')).length % 2 == 1
      let (more, after) := spanDocument a joins fuel rest.tail
      (line ++ rest.take 1 ++ more, after)

/-- Reads the texts that were announced. -/
def scanDocuments (g : Grammar) : Scanning Unit := do
  let announced := (← get).announced
  modify fun s => { s with announced := [] }
  announced.forM fun a => do
    let s ← get
    let (text, rest) := spanDocument a false (s.size + 1) s.rest
    let word ← if a.literal then pure [Piece.quoted text]
      else within text s.line (scanPieces g (text.length + 2) .document)
    countLines (newlinesIn s.rest - newlinesIn rest)
    modify fun s => { s with rest := rest, documents := s.documents.set! a.number word }

/-- The operator of a redirection at the front. -/
def spanRedirect? : List Char → Option (String × List Char)
  | '<' :: '<' :: '-' :: rest => some ("<<-", rest)
  | '<' :: '<' :: rest => some ("<<", rest)
  | '<' :: '&' :: rest => some ("<&", rest)
  | '<' :: '>' :: rest => some ("<>", rest)
  | '<' :: rest => some ("<", rest)
  | '>' :: '>' :: rest => some (">>", rest)
  | '>' :: '&' :: rest => some (">&", rest)
  | '>' :: '|' :: rest => some (">|", rest)
  | '>' :: rest => some (">", rest)
  | _ => none

/-- The operator at the front, if it is none of a redirection. -/
def spanOperator? : List Char → Option (String × List Char)
  | '&' :: '&' :: rest => some ("&&", rest)
  | '&' :: rest => some ("&", rest)
  | '|' :: '|' :: rest => some ("||", rest)
  | '|' :: rest => some ("|", rest)
  | ';' :: ';' :: rest => some (";;", rest)
  | ';' :: rest => some (";", rest)
  | '(' :: rest => some ("(", rest)
  | ')' :: rest => some (")", rest)
  | _ => none

/-- Reads one token. -/
def scanToken (g : Grammar) : Nat → Scanning Token
  | 0 => return .finish
  | fuel + 1 => do
    let text := (← get).rest
    match text with
    | [] =>
      scanDocuments g
      return .finish
    | ' ' :: rest | '\t' :: rest =>
      setRest rest
      scanToken g fuel
    | '\\' :: '\n' :: rest =>
      setRest rest
      countLines 1
      scanToken g fuel
    | '#' :: rest =>
      setRest (rest.dropWhile (· != '\n'))
      scanToken g fuel
    | '\n' :: rest =>
      setRest rest
      countLines 1
      scanDocuments g
      return .operator "\n"
    | c :: rest =>
      match spanOperator? text, spanRedirect? text with
      | some (operator, rest), _ =>
        setRest rest
        return .operator operator
      | none, some (operator, rest) =>
        setRest rest
        return .redirect none operator
      | none, none =>
        match (if c.isDigit then spanRedirect? rest else none) with
        | some (operator, rest) =>
          setRest rest
          return .redirect (some (c.toNat - '0'.toNat)) operator
        | none => return .word (← scanPieces g ((← get).size + 2) .word)

/-- Takes the next token. -/
def next (g : Grammar) : Scanning Token := do
  let s ← get
  match s.ahead? with
  | some token =>
    set { s with ahead? := none }
    return token
  | none => scanToken g (s.size + 1)

/-- Puts the text in place of a word just read that stands for it; answers whether there is one.
The text of a name does not stand for itself again. -/
def replaceAlias (token : Token) : Scanning Bool := do
  let s ← get
  if s.aliases.isEmpty then return false
  let left := s.rest.length
  let replaced := s.replaced.filter fun (_, behind) => behind ≤ left
  let name? := match token with
    | .word word =>
      (Word.bare? word).filter fun name =>
        name ∉ reservedWords && (replaced.lookup name).isNone
    | _ => none
  match name?.bind fun name => (s.aliases.lookup name).map fun text => (name, text) with
  | some (name, text) =>
    set { s with
      rest := text.toList ++ s.rest
      size := text.length + s.size
      replaced := (name, left) :: replaced }
    return true
  | none => return false

/-- Takes the next token where a command may begin. -/
def nextCommand (g : Grammar) : Nat → Scanning Token
  | 0 => next g
  | fuel + 1 => do
    let token ← next g
    if ← replaceAlias token then nextCommand g fuel else return token

/-- Whether a text ends with a blank. -/
def endsBlank (text : String) : Bool :=
  match text.toList.reverse with
  | c :: _ => c == ' ' || c == '\t'
  | [] => false

/-- Takes the next token behind the name of a command. It may stand for a text as well if it comes
first behind a text that ends with a blank. -/
def nextArgument (g : Grammar) : Scanning Token := do
  if (← get).replaced.isEmpty then return ← next g
  let before := (← get).rest.length
  let token ← next g
  let s ← get
  let chained := s.replaced.any fun (name, behind) =>
    behind ≤ before && s.rest.length < behind && (s.aliases.lookup name).any endsBlank
  if chained then
    if ← replaceAlias token then next g else return token
  else return token

/-- Puts a token back that was looked at. -/
def putBack (token : Token) : Scanning Unit := modify fun s => { s with ahead? := some token }

end ToolHost.Shell
