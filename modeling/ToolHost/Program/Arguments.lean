import ToolHost.Program.Options
import ToolHost.Program.Usage

/-! Reading the words of the program's own command line. A word is looked at when it comes, but its
value is only checked when the next word or the end shows that it is complete. -/
namespace ToolHost.Program

/-- What the words so far have said. -/
structure Draft where
  config? : Option Path := none
  baseDir? : Option Path := none
  timeoutSecs? : Option UInt64 := none
  chdirToTool : Bool := false
  line? : Option String := none
  tool? : Option ToolId := none
  deriving DecidableEq, Repr

/-- What the last word leaves to be settled. -/
inductive Pending where
  | nothing
  /-- An option whose value must come next. -/
  | awaiting (option : Valued)
  | given (option : Valued) (value : String)
  | tool (text : String)
  deriving DecidableEq, Repr

namespace Draft

/-- Whether an option has been given. -/
def has (d : Draft) : Valued → Bool
  | .config => d.config?.isSome
  | .baseDir => d.baseDir?.isSome
  | .timeoutSecs => d.timeoutSecs?.isSome
  | .line => d.line?.isSome

/-- Takes the value of an option. -/
def give (d : Draft) (option : Valued) (value : String) : Except Refusal Draft :=
  if d.has option then .error (.repeatedOption option)
  else
    match option with
    | .config =>
      if value = "" then .error (.missingValue .config) else .ok { d with config? := some value }
    | .baseDir =>
      if value = "" then .error (.missingValue .baseDir) else .ok { d with baseDir? := some value }
    | .timeoutSecs =>
      match readSeconds value with
      | .ok n => .ok { d with timeoutSecs? := some n }
      | .error fault => .error (.invalidSeconds value fault)
    | .line => .ok { d with line? := some value }

/-- Takes what is complete. -/
def settle (d : Draft) : Pending → Except Refusal Draft
  | .nothing => .ok d
  | .awaiting option => .error (.missingValue option)
  | .given option value => d.give option value
  | .tool text =>
    match ToolId.ofText? text with
    | some id => .ok { d with tool? := some id }
    | none => .error (.emptyTool text)

/-- Takes a flag. -/
def raise (d : Draft) : Flag → Except Refusal Draft
  | .help => .error .help
  | .version => .error .version
  | .chdirToTool =>
    if d.chdirToTool then .error (.repeatedFlag .chdirToTool) else .ok { d with chdirToTool := true }

/-- All that the words have said, with the arguments for the tool. -/
def finish (d : Draft) (args : List String) : Except Refusal Options :=
  if d.line?.isSome && !args.isEmpty then .error .lineWithArgs
  else
    match d.tool? with
    | none => .error .missingTool
    | some tool =>
      .ok ⟨d.config?, d.baseDir?, d.timeoutSecs?, d.chdirToTool, d.line?, tool, args⟩

end Draft

/-- What a word looks like. -/
inductive Shape where
  /-- Two hyphens alone. -/
  | separator
  | valued (option : Valued) (value? : Option String)
  | flag (flag : Flag) (value? : Option String)
  /-- Two hyphens and a name that no option has. -/
  | unknown (name : String)
  /-- One hyphen and letters. -/
  | letters (letters : List Char)
  | plain
  deriving DecidableEq, Repr

/-- The part of a word before the first equals sign, and the part behind it. -/
def splitAtEquals (word : List Char) : String × Option String :=
  (String.ofList (word.takeWhile (· != '=')), match word.dropWhile (· != '=') with
    | [] => none
    | _ :: value => some (String.ofList value))

/-- What two hyphens and a name are. -/
def longShape (name : String) (value? : Option String) : Shape :=
  match [Valued.config, .baseDir, .timeoutSecs, .line].find? fun v => v.name == name with
  | some option => .valued option value?
  | none =>
    match [Flag.chdirToTool, .help, .version].find? fun f => f.name == name with
    | some flag => .flag flag value?
    | none => .unknown name

def shape (word : String) : Shape :=
  match word.toList with
  | ['-', '-'] => .separator
  | '-' :: '-' :: rest =>
    let (name, value?) := splitAtEquals rest
    longShape name value?
  | '-' :: c :: rest => .letters (c :: rest)
  | _ => .plain

/-- The flag that a letter is short for. -/
def letterFlag? : Char → Option Flag
  | 'h' => some .help
  | 'V' => some .version
  | _ => none

/-- Reads words behind the separator, where nothing is an option any more. -/
def readPlainly (d : Draft) (pending : Pending) (toolSeen : Bool) (words : List String) :
    Except Refusal Options :=
  match d.settle pending with
  | .error refusal => .error refusal
  | .ok d =>
    match toolSeen, words with
    | true, args => d.finish args
    | false, [] => d.finish []
    | false, tool :: args =>
      match d.settle (.tool tool) with
      | .error refusal => .error refusal
      | .ok d => d.finish args

/-- Reads words. `toolSeen` says whether the word that names the tool has come; from the next plain
word on everything is for the tool. -/
def readWords (d : Draft) (pending : Pending) (toolSeen : Bool) :
    List String → Except Refusal Options
  | [] =>
    match d.settle pending with
    | .error refusal => .error refusal
    | .ok d => d.finish []
  | word :: rest =>
    let plainly : Except Refusal Options :=
      match pending with
      | .awaiting option => readWords d (.given option word) toolSeen rest
      | _ =>
        match d.settle pending with
        | .error refusal => .error refusal
        | .ok d => if toolSeen then d.finish (word :: rest) else readWords d (.tool word) true rest
    match shape word with
    | .separator => readPlainly d pending toolSeen rest
    | .valued option value? =>
      match d.settle pending, value? with
      | .error refusal, _ => .error refusal
      | .ok d, none => readWords d (.awaiting option) toolSeen rest
      | .ok d, some value =>
        match d.give option value with
        | .error refusal => .error refusal
        | .ok d => readWords d .nothing toolSeen rest
    | .flag flag (some value) => .error (.unexpectedValue flag value)
    | .flag flag none =>
      match (d.settle pending).bind fun d => d.raise flag with
      | .error refusal => .error refusal
      | .ok d => readWords d .nothing toolSeen rest
    | .unknown name => if toolSeen then plainly else .error (.unexpectedArgument ("--" ++ name))
    | .letters letters =>
      if toolSeen && letters.any fun c => (letterFlag? c).isNone then plainly
      else
        match letters.head?.bind letterFlag? with
        | none => .error (.unexpectedArgument (String.ofList ('-' :: letters.take 1)))
        | some flag =>
          match (d.settle pending).bind fun d => d.raise flag with
          | .error refusal => .error refusal
          | .ok d => readWords d .nothing toolSeen rest
    | .plain => plainly

/-- The options that the words of a command line give. -/
def Options.ofWords (words : List String) : Except Refusal Options :=
  readWords {} .nothing false words

end ToolHost.Program
