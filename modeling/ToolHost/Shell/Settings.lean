import ToolHost.Shell.Engine
import ToolHost.Utility.Format

/-! The commands that set variables, arguments and options of the shell. -/
namespace ToolHost.Shell

/-- A command that the shell carries out itself. It answers its status. -/
abbrev Builtin := List String → Act Nat

/-- The number that a word is. -/
def numberOf (text : String) : Act Nat := do
  let (negative, rest) := Utility.spanSign (text.toList.dropWhile Utility.isSpace)
  let (digits, rest) := Utility.spanDigits 10 rest.length rest
  let value := Utility.valueIn 10 digits
  if digits.isEmpty || !rest.all Utility.isSpace || 2147483647 < value || (negative && value != 0) then
    failWith s!"Illegal number: {text}"
  else return value

/-- Splits off the options at the front of words, each with the argument it takes. The letters that
take one stand before a colon. -/
def takeOptions (letters : String) : Nat → List String → Act (List (Char × String) × List String)
  | 0, words => return ([], words)
  | fuel + 1, word :: rest => do
    match word.toList with
    | ['-', '-'] => return ([], rest)
    | '-' :: c :: more =>
      match letters.toList.dropWhile (· != c) with
      | [] => failWith s!"Illegal option -{c}"
      | _ :: ':' :: _ =>
        match more, rest with
        | [], [] => failWith s!"No arg for -{c} option"
        | [], value :: rest =>
          let (options, words) ← takeOptions letters fuel rest
          return ((c, value) :: options, words)
        | more, rest =>
          let (options, words) ← takeOptions letters fuel rest
          return ((c, String.ofList more) :: options, words)
      | _ =>
        let rest := if more.isEmpty then rest else String.ofList ('-' :: more) :: rest
        let (options, words) ← takeOptions letters fuel rest
        return ((c, "") :: options, words)
    | _ => return ([], word :: rest)
  | _, [] => return ([], [])

/-- The options at the front of words. -/
def options (letters : String) (words : List String) : Act (List (Char × String) × List String) :=
  takeOptions letters ((words.map String.length).foldl (· + ·) 1 + words.length) words

/-- A text in quotes, as a shell reads it back. -/
def quotedText (text : String) : String :=
  let mark (c : Char) : Bool := c == '\''
  let runs := text.toList.splitBy fun a b => mark a == mark b
  if runs.isEmpty then "''"
  else
    "".intercalate <| runs.map fun run =>
      if run.head?.any mark then "\"" ++ String.ofList run ++ "\""
      else "'" ++ String.ofList run ++ "'"

/-- Prints variables in order, each behind a text. -/
def printVariables (front : String) (chosen : Variable → Bool) (all : Bool) : Act Unit := do
  let vars := (← get).vars.filter fun (_, v) => chosen v && (all || v.value?.isSome)
  (vars.mergeSort fun a b => a.1 ≤ b.1).forM fun (name, v) =>
    match v.value? with
    | some value => print s!"{front}{name}={quotedText value}\n"
    | none => print s!"{front}{name}\n"

/-- Splits a word at the first equals sign. -/
def splitSetting (word : String) : String × Option String :=
  let (name, rest) := word.toList.span (· != '=')
  (String.ofList name, if rest.isEmpty then none else some (String.ofList rest.tail))

/-- Sets a variable as a word says that may give it a value. -/
def setFromWord (word : String) (mark : Variable → Variable) : Act Unit := do
  let (name, value?) := splitSetting word
  if !isName name then failWith s!"{name}: bad variable name"
  match value? with
  | some value => assign name value
  | none => pure ()
  changeVariable name mark

/-- Marks variables as exported or as not to be changed. -/
def markVariables (front : String) (chosen : Variable → Bool) (mark : Variable → Variable) : Builtin :=
  fun words => do
    let (options, names) ← options "p" words
    if names.isEmpty || !options.isEmpty then printVariables front chosen true
    else names.forM fun word => setFromWord word mark
    return 0

def exportVariables : Builtin :=
  markVariables "export " Variable.exported fun v => { v with exported := true }

def freezeVariables : Builtin :=
  markVariables "readonly " Variable.readonly fun v => { v with readonly := true }

/-- Makes variables known to the running function alone. They keep their values. -/
def localVariables : Builtin := fun words => do
  if (← get).hidden.isEmpty then failWith "not in a function"
  words.forM fun word => do
    let (name, _) := splitSetting word
    let t ← get
    match t.hidden with
    | top :: rest =>
      if (top.lookup name).isNone then
        set { t with hidden := ((name, t.vars.lookup name) :: top) :: rest }
    | [] => pure ()
    setFromWord word id
  return 0

/-- Takes variables or functions away. -/
def unset : Builtin := fun words => do
  let (options, names) ← options "vf" words
  names.forM fun name =>
    if options.any fun (c, _) => c = 'f' then
      modify fun t => { t with functions := Keyed.erase name t.functions }
    else do
      if !isName name then failWith s!"{name}: bad variable name"
      unassign name
  return 0

/-- The options of a shell that have long names. -/
def optionNames : List (String × Char) :=
  [("errexit", 'e'), ("noglob", 'f'), ("ignoreeof", 'I'), ("interactive", 'i'), ("monitor", 'm'),
    ("noexec", 'n'), ("stdin", 's'), ("xtrace", 'x'), ("verbose", 'v'), ("vi", 'V'), ("emacs", 'E'),
    ("noclobber", 'C'), ("allexport", 'a'), ("notify", 'b'), ("nounset", 'u'), ("nolog", 'N'),
    ("debug", 'D')]

/-- Turns an option on or off. -/
def setOption (letter : Char) (on : Bool) : Act Unit := modify fun t =>
  let others := t.options.filter (· != letter)
  { t with options := if on then others ++ [letter] else others }

/-- Turns the options of one word on or off; answers whether the next word is the name of one. -/
def setOptions (on : Bool) (letters : List Char) : Act Bool := do
  let mut named := false
  for c in letters do
    if c = 'o' then named := true
    else if optionNames.any fun (_, letter) => letter = c then setOption c on
    else failWith s!"Illegal option -{c}"
  return named

/-- Prints which options are on. -/
def printOptions (on : Bool) : Act Unit := do
  let t ← get
  if on then
    print "Current option settings\n"
    optionNames.forM fun (name, letter) =>
      let state := if t.hasOption letter then "on" else "off"
      print (name ++ "".pushn ' ' (16 - name.length) ++ state ++ "\n")
  else
    optionNames.forM fun (name, letter) =>
      let sign := if t.hasOption letter then "-" else "+"
      print s!"set {sign}o {name}\n"

/-- Takes the options at the front of words and answers what is left, if anything stands there that
is no option. A single hyphen ends the options. -/
def applyOptions : Nat → List String → Act (Option (List String))
  | 0, _ => return none
  | _, [] => return none
  | fuel + 1, word :: rest => do
    match word.toList with
    | ['-', '-'] => return some rest
    | ['-'] =>
      setOption 'x' false
      setOption 'v' false
      return if rest.isEmpty then none else some rest
    | sign :: letters =>
      if sign = '-' || sign = '+' then
        let on := sign = '-'
        if ← setOptions on letters then
          match rest with
          | [] =>
            printOptions on
            return none
          | name :: rest =>
            match optionNames.lookup name with
            | some letter =>
              setOption letter on
              applyOptions fuel rest
            | none => failWith s!"Illegal option -o {name}"
        else applyOptions fuel rest
      else return some (word :: rest)
    | [] => return some (word :: rest)

/-- Sets options and arguments, or prints all variables. -/
def setAll : Builtin := fun words => do
  if words.isEmpty then printVariables "" (fun _ => true) false
  else
    match ← applyOptions (words.length + 1) words with
    | some args => modify fun t => { t with args := args, optionPlace := (1, 0) }
    | none => pure ()
  return 0

/-- Drops arguments. -/
def shift : Builtin := fun words => do
  let n ← match words with
    | [] => pure 1
    | word :: _ => numberOf word
  let t ← get
  if t.args.length < n then failWith "can't shift that many"
  set { t with args := t.args.drop n, optionPlace := (1, 0) }
  return 0

/-- Writes a line to standard error as it is. -/
def tell (text : String) : Act Unit := modify fun t =>
  { t with toProcess := t.toProcess.write 2 (text ++ "\n").toUTF8.toList }

/-- Whether a letter is one of those that may be given, and if so whether an argument belongs to it,
which a colon behind it says. -/
def optionKind? (letter : Char) : List Char → Option Bool
  | [] => none
  | c :: ':' :: rest => if c = letter then some true else optionKind? letter rest
  | c :: rest => if c = letter then some false else optionKind? letter rest

/-- Looks at the next option letter among arguments. A colon in front of the letters keeps it from
complaining. -/
def nextOption : Builtin := fun words => do
  let (letters, name, args?) ← match words with
    | letters :: name :: rest => pure (letters.toList, name, if rest.isEmpty then none else some rest)
    | _ => failWith "Usage: getopts optstring var [arg...]"
  let t ← get
  let args := args?.getD t.args
  let word (number : Nat) : List Char := (args[number]?.getD "").toList
  -- fewer arguments than have been looked at are new ones
  let (index, place) := if args.length + 1 < t.optionPlace.1 then (1, 0) else t.optionPlace
  let finish (index place : Nat) (found : Char) (status : Nat) : Act Nat := do
    assign "OPTIND" (toString index)
    modify fun t => { t with optionPlace := (index, place) }
    assign name (String.singleton found)
    return status
  -- the letters that are left of the word that was begun, or else those of the next word
  let left := if index ≤ 1 || place = 0 then [] else (word (index - 2)).drop place
  let (index, place) := if left.isEmpty then (index + 1, 1) else (index, place)
  match (word (index - 2)).drop place with
  | [] => finish (index - 1) 0 '?' 1
  | c :: rest =>
    if place = 1 && (word (index - 2)).head? != some '-' then finish (index - 1) 0 '?' 1
    else if word (index - 2) = ['-', '-'] then finish index 0 '?' 1
    else
      let quiet := letters.head? = some ':'
      match optionKind? c letters with
      | none =>
        if quiet then assign "OPTARG" (String.singleton c)
        else
          tell s!"Illegal option -{c}"
          unassign "OPTARG"
        finish index (place + 1) '?' 0
      | some false =>
        assign "OPTARG" ""
        finish index (place + 1) c 0
      | some true =>
        if !rest.isEmpty then
          assign "OPTARG" (String.ofList rest)
          finish index 0 c 0
        else
          match args[index - 1]? with
          | some argument =>
            assign "OPTARG" argument
            finish (index + 1) 0 c 0
          | none =>
            if quiet then
              assign "OPTARG" (String.singleton c)
              finish index 0 ':' 0
            else
              tell s!"No arg for -{c} option"
              unassign "OPTARG"
              finish index 0 '?' 0

end ToolHost.Shell
