import ToolHost.CommandLine.Tokens

/-! Building command lines. Quoting has no escape for a backslash, so an argument that needs quotes
and ends in a backslash does not come back: its closing quote then reads as an ordinary one. -/
namespace ToolHost.CommandLine

/-- Whether an argument has to stand between quotes: it is empty or holds a space. -/
def needsQuotes (arg : List Char) : Bool := arg.isEmpty || arg.contains ' '

/-- Puts a backslash before every quote. -/
def escapeQuotes : List Char → List Char
  | [] => []
  | c :: rest => if c = '"' then '\\' :: '"' :: escapeQuotes rest else c :: escapeQuotes rest

/-- An argument as it is written on a command line. -/
inductive Quoted where
  /-- The argument stands for itself. -/
  | bare (arg : String)
  /-- The argument had to be spelled with quotes or backslashes of its own. -/
  | spelled (text : String)
  deriving DecidableEq, Repr

namespace Quoted

def text : Quoted → String
  | bare arg => arg
  | spelled text => text

def isBare : Quoted → Bool
  | bare _ => true
  | spelled _ => false

end Quoted

/-- The characters between which and by which an argument is spelled. -/
def spell (arg : List Char) : List Char :=
  if needsQuotes arg then '"' :: escapeQuotes arg ++ ['"'] else escapeQuotes arg

/-- Quotes one argument, leaving it alone when it needs neither quotes nor backslashes. -/
def quote (arg : String) : Quoted :=
  if needsQuotes arg.toList || arg.toList.contains '"' then .spelled (String.ofList (spell arg.toList))
  else .bare arg

/-- One command line holding all arguments, each quoted as it needs. -/
def joinArgs (args : List String) : String := " ".intercalate (args.map fun arg => (quote arg).text)

theorem escapeQuotes_eq_self {arg : List Char} (h : '"' ∉ arg) : escapeQuotes arg = arg := by
  induction arg with
  | nil => rfl
  | cons c rest ih =>
    rw [List.mem_cons, not_or] at h
    simp [escapeQuotes, Ne.symm h.1, ih h.2]

/-- A bare argument is written as it is spelled. -/
theorem quote_text (arg : String) : (quote arg).text = String.ofList (spell arg.toList) := by
  unfold quote
  split
  · rfl
  · rename_i h
    simp only [Bool.or_eq_true, List.contains_iff_mem, not_or, Bool.not_eq_true] at h
    simp [Quoted.text, spell, h.1, escapeQuotes_eq_self h.2]

end ToolHost.CommandLine
