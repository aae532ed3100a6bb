import ToolHost.Shell.Arithmetic
import ToolHost.Shell.Engine

/-! Words of a script with what stands for something else replaced. -/
namespace ToolHost.Shell

/-- The cells of a value. -/
def Cell.ofText (inQuotes : Bool) (text : List Char) : List Cell :=
  if inQuotes then ofQuoted text else ofValue text

/-- Arguments without a part that matches. At the front, that is the beginning of the first one, but
if the longest match is all of it, none is left. At the back it is the end of an argument, with all
arguments behind it: for the longest match that argument is the first one, for the shortest match the
last one that ends so. -/
def withoutMatch (glob : Text.Glob) (atEnd longest : Bool) (args : List (List Char)) :
    List (List Char) :=
  match atEnd, longest, args with
  | _, _, [] => []
  | false, false, arg :: rest => glob.dropFront false arg :: rest
  | false, true, arg :: rest =>
    if glob.holds arg then [[]] else glob.dropFront true arg :: rest
  | true, false, args => (cutLast args).getD args
  | true, true, arg :: rest => (cut? true arg).elim (arg :: rest) fun cut => [cut]
where
  /-- An argument without the end that matches, if it has one. -/
  cut? (longest : Bool) (arg : List Char) : Option (List Char) :=
    let cut := glob.dropBack longest arg
    if cut.length < arg.length || glob.holds [] then some cut else none
  /-- The arguments up to the last one that has an end to cut off. -/
  cutLast : List (List Char) → Option (List (List Char))
    | [] => none
    | arg :: rest => ((cutLast rest).map (arg :: ·)).or ((cut? false arg).map ([·]))

/-- The descriptor from which a shell reads what commands print. -/
def pipeDescriptor : Nat := 1001

/-- What commands print, without the newlines at its end. -/
def outputOf (e : Engine) (body : Command) : Act String := do
  let t ← get
  let (input, output, p) := t.toProcess.addPipe
  set { t with toProcess := p.connect pipeDescriptor input }
  let descriptors := Keyed.put 1 output t.toProcess.descriptors
  let number ← startCopy e descriptors (t.copy body) (e.command false body)
  let bytes ← asProcess (Doing.readAll pipeDescriptor)
  modify fun t => { t with toProcess := t.toProcess.close pipeDescriptor }
  let status ← settle (← awaitForeground number)
  modify fun t => { t with inner := status }
  return Bytes.text ((bytes.filter (· != 0)).reverse.dropWhile (· == 0x0a)).reverse

/-- Fails because a parameter has no value. -/
def missing (name : String) : Act α := failWith s!"{name}: parameter not set"

/-- The cells of a parameter, which may be used in place of its value. -/
def expandParameter (e : Engine) (apart : Bool) (name : String) (use : Use) (inQuotes : Bool) :
    Act (List Cell) := do
  let t ← get
  let value? := t.parameter? name
  let strict := t.hasOption 'u'
  let several := apart && (name = "@" || name = "*" && !inQuotes)
  let known : Act String :=
    match value? with
    | some value => pure value
    | none => if strict then missing name else pure ""
  let lacks (nullToo : Bool) : Bool :=
    match value? with
    | some value => nullToo && value == "" && !(several && 1 < t.args.length)
    | none => true
  let quotedAtLeast (cells : List Cell) : List Cell :=
    if inQuotes && cells.isEmpty then [.quotes] else cells
  let inner (word : Word) : Act (List Cell) := quotedAtLeast <$> e.word apart word
  let cellsOf (value : String) : List Cell :=
    if several then Cell.ofArguments (Cell.ofText inQuotes) t.args
    else Cell.ofText inQuotes value.toList
  match use with
  | .value => return cellsOf (← known)
  | .length => return Cell.ofText inQuotes (toString (← known).utf8ByteSize).toList
  | .orElse nullToo word =>
    if lacks nullToo then inner word else return quotedAtLeast (cellsOf (value?.getD ""))
  | .orSet nullToo word =>
    if lacks nullToo then
      let value := Cell.text (← e.word false word)
      if !isName name then failWith s!"{name}: bad variable name"
      assign name value
      return Cell.ofText inQuotes value.toList
    else return quotedAtLeast (cellsOf (value?.getD ""))
  | .orFail nullToo word =>
    if lacks nullToo then
      let text ← Cell.text <$> e.word false word
      if !text.isEmpty then failWith s!"{name}: {text}"
      else if nullToo then failWith s!"{name}: parameter not set or null"
      else missing name
    else return quotedAtLeast (cellsOf (value?.getD ""))
  | .replacement nullToo word => if lacks nullToo then inner [] else inner word
  | .without atEnd longest pattern =>
    let value ← known
    let glob := Text.Glob.ofMarked (Cell.marked (← e.word false pattern))
    let values := if several then t.args.map String.toList else [value.toList]
    let left := (withoutMatch glob atEnd longest values).map String.ofList
    return quotedAtLeast (Cell.ofArguments (Cell.ofText inQuotes) left)
  | .malformed => failWith "Bad substitution"

/-- The cells of a piece; `splits` says whether a plain character may separate arguments. -/
def expandPiece (e : Engine) (splits apart : Bool) : Piece → Act (List Cell)
  | .plain c => return [.char c false splits]
  | .quoted text => return Cell.ofQuoted text
  | .parameter name use inQuotes => expandParameter e apart name use inQuotes
  | .output body inQuotes => do return Cell.ofText inQuotes (← outputOf e body).toList
  | .sum expression inQuotes => do
    let text ← Cell.text <$> e.word false expression
    let value ← Sum.valueOfText text.toList
    return Cell.ofText inQuotes (toString value.toInt).toList

/-- The directory that belongs to a name behind a tilde. -/
def Task.homeOf? (t : Task) (name : String) : Option String :=
  if name = "" then t.valueIn? "HOME" else if name = "root" then some "/root" else none

/-- Replaces a tilde at the beginning of a word, and with `colons` behind each colon as well. -/
def expandTilde (t : Task) (colons start : Bool) : Word → Word
  | [] => []
  | .plain '~' :: rest =>
    let name := rest.takeWhile fun piece =>
      match piece with
      | .plain c => c != '/' && !(colons && c == ':')
      | _ => false
    let bounded := match rest.drop name.length with
      | [] | .plain _ :: _ => true
      | _ => false
    match (if start && bounded then (Word.bare? name).bind t.homeOf? else none) with
    | some home => .quoted home.toList :: (expandTilde t colons false rest).drop name.length
    | none => .plain '~' :: expandTilde t colons false rest
  | .plain c :: rest => .plain c :: expandTilde t colons (colons && c == ':') rest
  | piece :: rest => piece :: expandTilde t colons false rest

/-- The cells of a word, in which the arguments of the shell may stay apart. -/
def expandWord (e : Engine) (splits colons apart : Bool) (word : Word) : Act (List Cell) := do
  let pieces := expandTilde (← get) colons true word
  return (← pieces.mapM (expandPiece e splits apart)).flatten

/-- The one text that a word stands for. -/
def textOf (e : Engine) (word : Word) : Act String :=
  Cell.text <$> expandWord e false false false word

/-- The value that a word gives to a variable. -/
def assignedText (e : Engine) (word : Word) : Act String :=
  Cell.text <$> expandWord e false true false word

/-- The arguments that words stand for. -/
def argumentsFor (e : Engine) (words : List Word) : Act (List String) := do
  let arguments ← words.mapM fun word => do
    let cells ← expandWord e false false true word
    let t ← get
    return argumentsOf t.world.files t.cwd t.separators (t.hasOption 'f') cells
  return arguments.flatten

/-- The pattern that a word is. -/
def patternOf (e : Engine) (word : Word) : Act Text.Glob := do
  return Text.Glob.ofMarked (Cell.marked (← expandWord e false false false word))

end ToolHost.Shell
