import ToolHost.Config.Basic

/-! Configurations written as JSON without blanks. Fields that say nothing are left out. -/
namespace ToolHost.Config

/-- A character inside a written string. -/
def escapeChar (c : Char) : List Char :=
  match c with
  | '"' => ['\\', '"']
  | '\\' => ['\\', '\\']
  | '\x08' => ['\\', 'b']
  | '\x0c' => ['\\', 'f']
  | '\n' => ['\\', 'n']
  | '\r' => ['\\', 'r']
  | '\t' => ['\\', 't']
  | c =>
    if c.toNat < 0x20 then
      ['\\', 'u', '0', '0', Nat.digitChar (c.toNat / 16), Nat.digitChar (c.toNat % 16)]
    else [c]

/-- A string with its quotes. -/
def printString (s : String) : List Char := '"' :: s.toList.flatMap escapeChar ++ ['"']

/-- One member of an object. -/
def printMember (key : String) (value : List Char) : List Char := printString key ++ ':' :: value

/-- An object of members that are written already. -/
def printObject (members : List (List Char)) : List Char :=
  '\x7b' :: List.intercalate [','] members ++ ['\x7d']

def printLayout (layout : Layout) : List Char :=
  printObject [printMember "dir" (printString layout.dir),
    printMember "executable" (printString layout.executable)]

def printBool (b : Bool) : List Char := if b then ['t', 'r', 'u', 'e'] else ['f', 'a', 'l', 's', 'e']

/-- A configuration whose tools are written in the order of `entries`. -/
def printWith (entries : List (String × Layout)) (config : HostConfig) : List Char :=
  printObject <|
    (config.baseDir?.map fun dir => printMember "base_dir" (printString dir)).toList ++
    (config.timeoutSecs?.map fun n => printMember "timeout_secs" (Nat.toDigits 10 n.toNat)).toList ++
    [printMember "chdir_to_tool" (printBool config.chdirToTool)] ++
    if entries.isEmpty then []
    else [printMember "tools" (printObject (entries.map fun e => printMember e.1 (printLayout e.2)))]

end Config

/-- A configuration as JSON, its tools in the order of their names. -/
def HostConfig.toJson (config : HostConfig) : String :=
  String.ofList (Config.printWith config.tools.entries config)

end ToolHost
