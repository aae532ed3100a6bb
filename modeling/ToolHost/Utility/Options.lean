import ToolHost.Utility.Quotation

/-! The options of the programs of a machine: letters behind one hyphen, words behind two. -/
namespace ToolHost.Utility

/-- A program of the machine: given its words it answers its exit code. The first argument starts
other programs. -/
abbrev Program := Starter → List String → Doing Nat

/-- The options that a program knows. -/
structure OptionTable where
  /-- The letters; one that takes an argument stands before a colon. -/
  letters : String
  /-- The letters that take what stands behind them in the same word, if there is anything. -/
  optional : String := ""
  /-- More letters, which only words stand for. -/
  inner : String := ""
  /-- The words, each with the letter that it stands for. -/
  words : List (String × Char) := []
  /-- Whether options end where the first other word stands. -/
  leading : Bool := false
  /-- The exit code for a wrong option. -/
  failure : Nat := 1
  /-- What points the user of a program with the given name to more help. -/
  hint : String → String := fun name => s!"Try '{name} --help' for more information.\n"

/-- The options of a program, each with its argument, and the words that are none. -/
structure Options where
  options : List (Char × String)
  operands : List String

namespace Options

def has (o : Options) (letter : Char) : Bool := o.options.any fun (c, _) => c = letter

/-- The argument of the last option with a letter. -/
def last? (o : Options) (letter : Char) : Option String :=
  ((o.options.filter fun (c, _) => c = letter).getLast?).map Prod.snd

/-- The last given one of some letters. -/
def lastOf? (o : Options) (letters : List Char) : Option Char :=
  ((o.options.filter fun (c, _) => c ∈ letters).getLast?).map Prod.fst

def add (letter : Char) (value : String) (o : Options) : Options :=
  { o with options := (letter, value) :: o.options }

end Options

/-- What a long option asks for. -/
inductive LongOption where
  | letter (c : Char)
  | help
  | version
  deriving DecidableEq

/-- Why a program does not do its work. -/
inductive OptionStop where
  | wrong (problem : String)
  /-- It only says what it is, or how it is used. -/
  | told (wanted : LongOption)

/-- Whether a letter is among letters, and whether it takes an argument. -/
def takesArgument? (letters : String) (letter : Char) : Option Bool :=
  match letters.toList.dropWhile (· != letter) with
  | [] => none
  | _ :: ':' :: _ => if letter = ':' then none else some true
  | _ => if letter = ':' then none else some false

namespace OptionTable

/-- The long options, with those that every program has. -/
def longOptions (t : OptionTable) : List (String × LongOption) :=
  t.words.map (fun (word, c) => (word, .letter c)) ++ [("help", .help), ("version", .version)]

/-- The known option that a word is or begins. -/
def longOption (t : OptionTable) (word name : String) : Except OptionStop (String × LongOption) :=
  match t.longOptions.find? fun (known, _) => known = name with
  | some found => .ok found
  | none =>
    match t.longOptions.filter fun (known, _) => known.startsWith name with
    | [] => .error (.wrong s!"unrecognized option '{word}'")
    | found :: others =>
      if others.all fun (_, wanted) => wanted = found.2 then .ok found
      else
        let known := (found :: others).map fun (known, _) => s!" '--{known}'"
        let all := "".intercalate known
        .error (.wrong s!"option '{word}' is ambiguous; possibilities:{all}")

/-- Reads the options among words. -/
def read (t : OptionTable) : Nat → List String → Except OptionStop Options
  | 0, words => .ok ⟨[], words⟩
  | _, [] => .ok ⟨[], []⟩
  | fuel + 1, word :: rest =>
    match word.toList with
    | ['-', '-'] => .ok ⟨[], rest⟩
    | '-' :: '-' :: chars => do
      let (name, value) := chars.span (· != '=')
      let (name, wanted) ← t.longOption word (String.ofList name)
      match wanted with
      | .letter c =>
        let takes := (takesArgument? (t.letters ++ t.inner) c).getD false
        let mayTake := c ∈ t.optional.toList
        match takes, value, rest with
        | true, [], value :: rest => (read t fuel rest).map (Options.add c value)
        | true, [], [] => throw (.wrong s!"option '--{name}' requires an argument")
        | _, [], rest => (read t fuel rest).map (Options.add c "")
        | takes, _ :: value, rest =>
          if takes || mayTake then (read t fuel rest).map (Options.add c (String.ofList value))
          else throw (.wrong s!"option '--{name}' doesn't allow an argument")
      | wanted =>
        if value.isEmpty then throw (.told wanted)
        else throw (.wrong s!"option '--{name}' doesn't allow an argument")
    | '-' :: c :: more =>
      match takesArgument? t.letters c, more, rest with
      | none, _, _ =>
        if c ∈ t.optional.toList && c ∉ t.inner.toList then
          (read t fuel rest).map (Options.add c (String.ofList more))
        else .error (.wrong s!"invalid option -- '{c}'")
      | some true, [], value :: rest => (read t fuel rest).map (Options.add c value)
      | some true, [], [] => .error (.wrong s!"option requires an argument -- '{c}'")
      | some true, more, rest => (read t fuel rest).map (Options.add c (String.ofList more))
      | some false, [], rest => (read t fuel rest).map (Options.add c "")
      | some false, more, rest =>
        (read t fuel (String.ofList ('-' :: more) :: rest)).map (Options.add c "")
    | _ =>
      if t.leading then .ok ⟨[], word :: rest⟩
      else (read t fuel rest).map fun o => { o with operands := word :: o.operands }

/-- Points to where more is said about a program. -/
def pointToHelp (t : OptionTable) : Doing Unit := do
  let p ← get
  set (p.write 2 (t.hint p.name).toUTF8.toList)

/-- Answers a user whose options keep the program from its work. -/
def stop (t : OptionTable) : OptionStop → Doing Nat
  | .wrong problem => do
    Doing.complain problem
    t.pointToHelp
    return t.failure
  | .told wanted => do
    let name := (← get).name
    Doing.print (if wanted = .help then s!"Usage: {name} [OPTION]...\n" else name ++ "\n")
    return 0

/-- A bound on how many options words can hold. -/
def mostOptions (words : List String) : Nat :=
  words.foldl (fun n word => n + word.length) 1 + words.length

end OptionTable

/-- Runs a program that takes options. -/
def withOptions (t : OptionTable) (body : Options → Doing Nat) (words : List String) : Doing Nat :=
  match t.read (OptionTable.mostOptions words) words with
  | .ok options => body options
  | .error reason => t.stop reason

/-- Points to where more is said about a program. -/
def pointToHelp : Doing Unit := OptionTable.pointToHelp { letters := "" }

/-- What a word chooses that is or begins one of some words, if it does so. -/
def choiceOf? [BEq α] (option : String) (words : List (String × α)) (word : String) :
    Doing (Option α) := do
  let begun := words.filter fun (name, _) => name.startsWith word
  match words.lookup word, begun with
  | some choice, _ => return some choice
  | none, (_, choice) :: others =>
    if others.all fun (_, other) => other == choice then return some choice
    else refuse "ambiguous"
  | none, [] => refuse "invalid"
where
  /-- Complains about the word. -/
  refuse (problem : String) : Doing (Option α) := do
    Doing.complain s!"{problem} argument {cited word} for {cited option}"
    let lines := words.map fun (name, _) => s!"  - {cited name}\n"
    modify fun p => p.write 2 ("Valid arguments are:\n" ++ "".intercalate lines).toUTF8.toList
    pointToHelp
    return none

/-- Complains that words are missing or too many. -/
def misused (failure : Nat) (problem : String) : Doing Nat :=
  OptionTable.stop { letters := "", failure := failure } (.wrong problem)

end ToolHost.Utility
