import ToolHost.Text.AsciiCase
import ToolHost.Text.Blank

/-! Names of the hosted tools. Two tools are known to every host; any other is known only through
its configuration. -/
namespace ToolHost

/-- Identifies a hosted tool. -/
inductive ToolId where
  | sqliteCompare
  | reoGridCompare
  /-- A tool that only a configuration describes. -/
  | other (name : String)
  deriving DecidableEq, Repr

namespace ToolId

/-- The name under which a tool is shown and looked up. -/
def name : ToolId → String
  | sqliteCompare => "SQLiteCompare"
  | reoGridCompare => "ReoGridCompare"
  | other name => name

/-- Reads a tool's name: blanks around it do not count, nor does the case of a known tool's name.
Only a text without any visible character names no tool. -/
def ofText? (text : String) : Option ToolId :=
  let word := Text.trim text
  if word.isEmpty then none
  else if Text.sameIgnoringCase word sqliteCompare.name then some sqliteCompare
  else if Text.sameIgnoringCase word reoGridCompare.name then some reoGridCompare
  else some (other word)

theorem ofText?_blank {text : String} (h : Text.trim text = "") : ofText? text = none := by
  simp [ofText?, h]

end ToolId
end ToolHost
