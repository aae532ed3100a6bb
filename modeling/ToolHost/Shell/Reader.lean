import ToolHost.Shell.Lexer

/-! Script texts as commands. A script is read one line of commands at a time, so that what stands
behind a fault does not keep what stands before it from running. -/
namespace ToolHost.Shell

/-- The tokens that end a list of commands. -/
def closingWords : List String :=
  [")", ";;", "\x7d", "do", "done", "elif", "else", "esac", "fi", "then"]

/-- The commands that a function cannot be named like. -/
def specialCommands : List String :=
  [".", ":", "break", "continue", "eval", "exec", "exit", "export", "local", "readonly", "return",
    "set", "shift", "times", "trap", "unset"]

/-- Takes a token that has to be the given one. -/
def expect (g : Grammar) (mark : String) : Scanning Unit := do
  let token ← next g
  if token.isMark mark then pure () else unexpected token (some mark)

/-- Takes the next token that does not end a line. -/
def nextPastNewlines (g : Grammar) : Nat → Scanning Token
  | 0 => next g
  | fuel + 1 => do
    let token ← next g
    if token.isMark "\n" then nextPastNewlines g fuel else return token

/-- A bound on how often something can be read from what is left. -/
def most : Scanning Nat := do
  let s ← get
  let texts := s.aliases.foldl (fun n (_, text) => n + text.length) 0
  return (s.size + 2) * (texts + 1)

def skipNewlines (g : Grammar) : Scanning Unit := do putBack (← nextPastNewlines g (← most))

/-- The text of a word without its quotes, and whether it has any. -/
def markOf (word : Word) : List Char × Bool :=
  word.foldl (fun (text, literal) piece =>
    match piece with
    | .plain c => (text ++ [c], literal)
    | .quoted cs => (text ++ cs, true)
    | .parameter name _ _ => (text ++ '$' :: name.toList, literal)
    | _ => (text, literal)) ([], false)

/-- Reads where a redirection turns to, behind its operator. -/
def readTarget (g : Grammar) (descriptor? : Option Nat) (operator : String) :
    Scanning Redirect := do
  match ← next g with
  | .word word =>
    match operator with
    | "<" => return .turn (descriptor?.getD 0) (.readFrom word)
    | ">" => return .turn (descriptor?.getD 1) (.writeTo false word)
    | ">|" => return .turn (descriptor?.getD 1) (.writeTo true word)
    | ">>" => return .turn (descriptor?.getD 1) (.appendTo word)
    | "<>" => return .turn (descriptor?.getD 0) (.readWrite word)
    | "<&" => return .turn (descriptor?.getD 0) (.sameAs word)
    | ">&" => return .turn (descriptor?.getD 1) (.sameAs word)
    | _ =>
      let number := (← get).documents.size
      let (mark, literal) := markOf word
      modify fun s => { s with
        documents := s.documents.push []
        announced := s.announced ++ [⟨number, mark, literal, operator = "<<-"⟩] }
      return .turn (descriptor?.getD 0) (.document number)
  | token => unexpected token none

/-- The redirections at the front. -/
def readRedirects (g : Grammar) : Nat → Scanning (List Redirect)
  | 0 => return []
  | fuel + 1 => do
    match ← next g with
    | .redirect descriptor? operator =>
      let redirect ← readTarget g descriptor? operator
      return redirect :: (← readRedirects g fuel)
    | token =>
      putBack token
      return []

/-- A command that begins with a word or a redirection, as far as it has been read. What was read
last stands first. -/
structure Draft where
  line : Nat
  assignments : List (String × Word)
  words : List Word
  redirects : List Redirect

/-- Reads the rest of a simple command. A single word before a bracket is a function's name. -/
def readSimple (g : Grammar) (draft : Draft) : Nat → Scanning Command
  | 0 => fault "command too long"
  | fuel + 1 => do
    match ← (if draft.words.isEmpty then nextCommand g fuel else nextArgument g) with
    | .word word =>
      match (if draft.words.isEmpty then word.assignment? else none) with
      | some a => readSimple g { draft with assignments := a :: draft.assignments } fuel
      | none => readSimple g { draft with words := word :: draft.words } fuel
    | .redirect descriptor? operator =>
      let redirect ← readTarget g descriptor? operator
      readSimple g { draft with redirects := redirect :: draft.redirects } fuel
    | token =>
      match token.mark?, draft with
      | some "(", ⟨_, [], [word], []⟩ =>
        match ← next g with
        | .word _ => fault "word unexpected (expecting \")\")"
        | token => if !token.isMark ")" then unexpected token (some ")")
        match (Word.bare? word).filter fun name => isName name && name ∉ specialCommands with
        | none => fault "Bad function name"
        | some name =>
          skipNewlines g
          return .define name (← g.command)
      | _, _ =>
        putBack token
        return .simple draft.line draft.assignments.reverse draft.words.reverse
          draft.redirects.reverse

/-- Takes words as long as there are any, and the token behind them. -/
def readWords (g : Grammar) : Nat → Scanning (List Word × Token)
  | 0 => return ([], .finish)
  | fuel + 1 => do
    match ← next g with
    | .word word =>
      let (words, token) ← readWords g fuel
      return (word :: words, token)
    | token => return ([], token)

/-- Reads what follows `for`. -/
def readFor (g : Grammar) (line : Nat) : Scanning Command := do
  let name ← match ← next g with
    | .word word =>
      match (Word.bare? word).filter isName with
      | some name => pure name
      | none => fault "Bad for loop variable"
    | _ => fault "Bad for loop variable"
  let token ← nextPastNewlines g (← most)
  let words ← if token.isMark "in" then do
      let (words, token) ← readWords g (← most)
      if !(token.isMark "\n" || token.isMark ";") then unexpected token none
      pure words
    else do
      if !token.isMark ";" then putBack token
      pure [[Piece.parameter "@" .value true]]
  skipNewlines g
  expect g "do"
  let body ← g.list false
  expect g "done"
  return .forEach line name words body

/-- Reads the patterns of a case, the first of which has been taken, with the bracket behind. -/
def readPatterns (g : Grammar) : Nat → Token → Scanning (List Word)
  | 0, token => unexpected token none
  | fuel + 1, first => do
    let word := match first with
      | .word word => word
      | _ => []
    let token ← next g
    if token.isMark "|" then return word :: (← readPatterns g fuel (← next g))
    else if token.isMark ")" then return [word]
    else unexpected token (some ")")

/-- Reads the cases of a selection up to its end. -/
def readCases (g : Grammar) : Nat → Scanning (List (List Word × Command))
  | 0 => fault "command too long"
  | fuel + 1 => do
    let token ← nextPastNewlines g (← most)
    if token.isMark "esac" then return []
    let first ← if token.isMark "(" then next g else pure token
    let patterns ← readPatterns g (← most) first
    let body ← g.list true
    let token ← nextPastNewlines g (← most)
    if token.isMark "esac" then return [(patterns, body)]
    else if token.isMark ";;" then return (patterns, body) :: (← readCases g fuel)
    else unexpected token (some ";;")

/-- Reads what follows `if` or `elif`, with the end of the command. -/
def readBranches (g : Grammar) : Nat → Scanning Command
  | 0 => fault "command too long"
  | fuel + 1 => do
    let condition ← g.list false
    expect g "then"
    let yes ← g.list false
    let token ← next g
    if token.isMark "elif" then return .choose condition yes (← readBranches g fuel)
    else if token.isMark "else" then
      let no ← g.list false
      expect g "fi"
      return .choose condition yes no
    else if token.isMark "fi" then return .choose condition yes .nothing
    else unexpected token (some "fi")

/-- Reads one command with its redirections. -/
def readCommand (g : Grammar) : Scanning Command := do
  let token ← nextCommand g (← most)
  let line := (← get).line
  let closed (body : Command) : Scanning Command := do
    let redirects ← readRedirects g (← most)
    return if redirects.isEmpty then body else .redirected line body redirects
  match token.mark?, token with
  | some "if", _ => closed (← readBranches g (← most))
  | some "while", _ | some "until", _ =>
    let condition ← g.list false
    expect g "do"
    let body ← g.list false
    expect g "done"
    closed (.loop (token.isMark "until") condition body)
  | some "for", _ => closed (← readFor g line)
  | some "case", _ =>
    match ← next g with
    | .word subject =>
      skipNewlines g
      expect g "in"
      closed (.select line subject (← readCases g (← most)))
    | token => fault s!"{token.title} unexpected (expecting word)"
  | some "(", _ =>
    let body ← g.list false
    expect g ")"
    closed (.subshell line body)
  | some "\x7b", _ =>
    let body ← g.list false
    expect g "\x7d"
    closed body
  | none, .word _ | none, .redirect .. =>
    putBack token
    readSimple g ⟨line, [], [], []⟩ (← most)
  | _, _ => unexpected token none

/-- Reads the commands that are piped to what was read last. -/
def readPiped (g : Grammar) : Nat → Scanning (List Command)
  | 0 => return []
  | fuel + 1 => do
    let token ← next g
    if token.isMark "|" then
      skipNewlines g
      let command ← readCommand g
      return command :: (← readPiped g fuel)
    else
      putBack token
      return []

/-- Reads commands tied by pipes. -/
def readPipeline (g : Grammar) : Scanning Command := do
  let token ← nextCommand g (← most)
  let negated := token.isMark "!"
  if !negated then putBack token
  let first ← readCommand g
  let rest ← readPiped g (← most)
  let whole := if rest.isEmpty then first else .pipeline (first :: rest)
  return if negated then .negated whole else whole

/-- Reads what is tied to a command by `&&` and `||`. -/
def readLinks (g : Grammar) : Nat → Command → Scanning Command
  | 0, first => return first
  | fuel + 1, first => do
    let token ← next g
    if token.isMark "&&" then
      skipNewlines g
      readLinks g fuel (.andThen first (← readPipeline g))
    else if token.isMark "||" then
      skipNewlines g
      readLinks g fuel (.orElse first (← readPipeline g))
    else
      putBack token
      return first

/-- Commands one after the other. -/
def Command.ofList : List Command → Command
  | [] => .nothing
  | [command] => command
  | commands => .sequence commands

/-- Reads commands one after the other: those of one line, or else up to a token that ends them. -/
def readItems (g : Grammar) (oneLine : Bool) : Nat → Bool → Scanning (List Command)
  | 0, _ => fault "command too long"
  | fuel + 1, mayEnd => do
    let token ← if oneLine then nextCommand g fuel else nextPastNewlines g (← most)
    if token.isMark "\n" then return []
    putBack token
    if token matches .finish then return []
    if mayEnd && !oneLine && (token.mark?.map (closingWords.contains ·)).getD false then return []
    let item ← readLinks g (← most) (← readPipeline g)
    let token ← next g
    match token.mark?, token with
    | some "&", _ => return .background item :: (← readItems g oneLine fuel true)
    | some ";", _ => return item :: (← readItems g oneLine fuel true)
    | some "\n", _ | none, .finish =>
      putBack token
      return item :: (← readItems g oneLine fuel true)
    | _, _ =>
      if oneLine then unexpected token none
      putBack token
      return [item]

/-- The readers of commands that are nested at most so deep. -/
def grammar : Nat → Grammar
  | 0 => ⟨fun _ => fault "commands nested too deep", fault "commands nested too deep"⟩
  | depth + 1 =>
    let g := grammar depth
    ⟨fun mayBeEmpty => do return .ofList (← readItems g false (← most) mayBeEmpty), readCommand g⟩

/-- How deep commands may be nested. -/
def deepestNesting : Nat := 1000

/-- Reads the commands of the next line, as far as they go; nothing at the end of the script. -/
def readLine : Scanning (Option Command) := do
  let g := grammar deepestNesting
  let token ← next g
  if token matches .finish then return none
  putBack token
  return some (.ofList (← readItems g true (← most) true))

/-- A script of which nothing has been read. -/
def Scan.ofText (text : List Char) : Scan :=
  { rest := text, size := text.length, line := 1, ahead? := none, announced := [], documents := #[]
    aliases := [], replaced := [] }

end ToolHost.Shell
