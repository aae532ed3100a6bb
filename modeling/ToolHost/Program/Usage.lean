import ToolHost.Json.Number
import ToolHost.Text.Terminal

/-! What a host program says about its own command line. -/
namespace ToolHost.Program

def programName : String := "compare-host"

def version : String := "0.1.0"

/-- The options that take a value. -/
inductive Valued where
  | config
  | baseDir
  | timeoutSecs
  | line
  deriving DecidableEq, Repr

namespace Valued

def name : Valued → String
  | config => "config"
  | baseDir => "base-dir"
  | timeoutSecs => "timeout-secs"
  | line => "line"

/-- The word that stands for the value in messages. -/
def valueName : Valued → String
  | config => "FILE"
  | baseDir => "DIR"
  | timeoutSecs => "SECS"
  | line => "COMMAND_LINE"

def shown (v : Valued) : String := s!"--{v.name} <{v.valueName}>"

end Valued

/-- The options that take no value. -/
inductive Flag where
  | chdirToTool
  | help
  | version
  deriving DecidableEq, Repr

namespace Flag

def name : Flag → String
  | chdirToTool => "chdir-to-tool"
  | help => "help"
  | version => "version"

def shown (f : Flag) : String := s!"--{f.name}"

end Flag

/-- Why a text is no count of seconds. -/
inductive NumberFault where
  | empty
  | invalidDigit
  | tooLarge
  deriving DecidableEq, Repr

def NumberFault.message : NumberFault → String
  | empty => "cannot parse integer from empty string"
  | invalidDigit => "invalid digit found in string"
  | tooLarge => "number too large to fit in target type"

/-- Reads digits behind a number that is there already. The first thing wrong counts. -/
def readDigits (n : Nat) : List Char → Except NumberFault Nat
  | [] => .ok n
  | c :: rest =>
    if !c.isDigit then .error .invalidDigit
    else
      let next := n * 10 + Json.digitValue c
      if next < UInt64.size then readDigits next rest else .error .tooLarge

/-- Reads a count of seconds: digits, with a plus before them or not. -/
def readSeconds (text : String) : Except NumberFault UInt64 :=
  match text.toList with
  | [] => .error .empty
  | ['+'] => .error .invalidDigit
  | '+' :: digits | digits => (readDigits 0 digits).map UInt64.ofNat

/-- Why a program does nothing but say something. -/
inductive Refusal where
  | help
  | version
  | unexpectedArgument (argument : String)
  | missingValue (option : Valued)
  | invalidSeconds (text : String) (fault : NumberFault)
  | emptyTool (text : String)
  | repeatedOption (option : Valued)
  | repeatedFlag (flag : Flag)
  | lineWithArgs
  | unexpectedValue (flag : Flag) (value : String)
  | missingTool
  deriving DecidableEq, Repr

namespace Refusal

/-- A complaint in full. Of the words of the command line it shows what a terminal would. -/
def complaint (manner : Text.Terminal.Manner) : Refusal → String
  | help | version => ""
  | unexpectedArgument argument => s!"error: unexpected argument '{shown argument}' found"
  | missingValue option =>
    s!"error: a value is required for '{option.shown}' but none was supplied"
  | invalidSeconds text fault =>
    s!"error: invalid value '{shown text}' for '{Valued.timeoutSecs.shown}': " ++
      fault.message
  | emptyTool text =>
    s!"error: invalid value '{shown text}' for '<TOOL>': Tool id cannot be empty"
  | repeatedOption option => s!"error: the argument '{option.shown}' cannot be used multiple times"
  | repeatedFlag flag => s!"error: the argument '{flag.shown}' cannot be used multiple times"
  | lineWithArgs =>
    s!"error: the argument '{Valued.line.shown}' cannot be used with '[ARGS]...'"
  | unexpectedValue flag value =>
    s!"error: unexpected value '{shown value}' for '{flag.shown}' found; " ++
      "no more were expected"
  | missingTool => "error: the following required arguments were not provided:"
where
  /-- What is shown of a word. -/
  shown (word : String) : String := Text.Terminal.shown manner word

/-- The first line of a complaint. -/
def message (r : Refusal) : String :=
  let line := (r.complaint .whole).toList.takeWhile (· != '\n')
  String.ofList (if line.getLast? = some '\r' then line.dropLast else line)

/-- Whether a program that says no more than this has done what was asked of it. -/
def exitCode : Refusal → Nat
  | help | version => 0
  | _ => 2

end Refusal

def usageLine : String := s!"Usage: {programName} [OPTIONS] <TOOL> [ARGS]..."

def helpText : String :=
  "Run a hosted comparison tool and return its exit code\n\n" ++ usageLine ++ "\n\n" ++
  "Arguments:\n" ++
  "  <TOOL>     Tool to run (SQLiteCompare, ReoGridCompare, or a configured tool)\n" ++
  "  [ARGS]...  Arguments for the tool, each passed through as one argument\n\n" ++
  "Options:\n" ++
  "      --config <FILE>        JSON config file. Defaults to $COMPARE_HOST_CONFIG when set\n" ++
  "      --base-dir <DIR>       Directory the tool directories are resolved against\n" ++
  "      --timeout-secs <SECS>  Kill the tool if it runs longer than this\n" ++
  "      --chdir-to-tool        Run the tool from its own directory\n" ++
  "      --line <COMMAND_LINE>  Pass this raw command line to the tool instead of the trailing " ++
  "arguments\n" ++
  "  -h, --help                 Print help\n" ++
  "  -V, --version              Print version\n"

end ToolHost.Program
