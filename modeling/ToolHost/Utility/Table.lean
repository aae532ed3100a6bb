import ToolHost.Utility.Calls
import ToolHost.Utility.Checksums
import ToolHost.Utility.Columns
import ToolHost.Utility.Compare
import ToolHost.Utility.Copying
import ToolHost.Utility.Counts
import ToolHost.Utility.Differ
import ToolHost.Utility.Edit
import ToolHost.Utility.Expression
import ToolHost.Utility.Files
import ToolHost.Utility.Find
import ToolHost.Utility.Joining
import ToolHost.Utility.Lines
import ToolHost.Utility.Listing
import ToolHost.Utility.Making
import ToolHost.Utility.Print
import ToolHost.Utility.Search
import ToolHost.Utility.Sorting
import ToolHost.Utility.Test
import ToolHost.Utility.Threeway
import ToolHost.Utility.Translate
import ToolHost.Utility.Widths

/-! The programs that come with a machine, by their names. -/
namespace ToolHost.Utility

/-- Tells whether a condition in brackets holds. -/
def bracket : Program := fun start words => do
  if words = ["--help"] || words = ["--version"] then return 0
  else if words.getLast? = some "]" then test (Test.holds .program) start words.dropLast
  else
    Doing.complain "missing ']'"
    return 2

/-- Has everything written out, which is the case at any time. -/
def sync : Program := fun _ => withOptions { letters := "df" } fun _ => return 0

/-- The programs, apart from the shells. -/
def table : List (String × Program) :=
  [("[", bracket), ("b2sum", printDigests .blake2b), ("base64", base64),
    ("basename", printNames), ("cat", cat), ("chmod", changeMode), ("cksum", printChecksums),
    ("cmp", compareFiles), ("comm", compareSorted), ("cp", copy), ("cut", cut), ("date", printTime),
    ("diff", diff), ("diff3", compareThree), ("dirname", printDirectories), ("echo", echo), ("env", env),
    ("expr", expression), ("expand", expand), ("false", fun _ _ => return 1), ("find", findFiles), ("fold", fold),
    ("grep", searchLines), ("head", head), ("id", printUserNumbers), ("join", joinLines), ("kill", kill), ("ln", link),
    ("ls", list), ("md5sum", printDigests .md5), ("mkdir", makeDirectories), ("mktemp", makeTemporary), ("mv", move),
    ("nice", nice), ("nl", numberLines), ("nohup", nohup), ("paste", paste),
    ("printenv", printEnvironment), ("printf", printf), ("pwd", printDirectory),
    ("readlink", readLinks), ("realpath", realPaths), ("rev", reverseCharacters),
    ("rm", removeFiles), ("rmdir", removeDirectories), ("sdiff", compareInColumns), ("sed", edit), ("seq", printSequence),
    ("sha1sum", printDigests .sha1), ("sha224sum", printDigests .sha224),
    ("sha256sum", printDigests .sha256), ("sha384sum", printDigests .sha384),
    ("sha512sum", printDigests .sha512),
    ("sleep", sleep), ("sort", sort), ("stat", printStatus),
    ("sum", printSums), ("sync", sync), ("tac", reverseLines),
    ("tail", tail), ("tee", tee), ("test", test (Test.holds .program)), ("timeout", timeout),
    ("touch", touch), ("tr", translate), ("true", fun _ _ => return 0), ("truncate", truncate),
    ("tty", printTerminal), ("uname", printSystem), ("unexpand", unexpand), ("uniq", uniq), ("unlink", unlink),
    ("wc", countAll), ("which", printPrograms), ("whoami", printUser), ("xargs", callWithInput),
    ("yes", repeatLine)]

/-- The names of the shells. -/
def shells : List String := ["sh", "dash", "bash"]

/-- The names of all programs that come with a machine. -/
def programNames : List String := shells ++ table.map Prod.fst

end ToolHost.Utility
