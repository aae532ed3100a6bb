/-! Splitting a raw command line into arguments. Only a space separates, double quotes group, and a
backslash directly before a quote makes that quote an ordinary character. -/
namespace ToolHost.CommandLine

/-- Splits the rest of a line. `quoted` says whether a quoted stretch is open, and `word` holds the
argument in progress, last character first. A closing quote ends the argument even when it is
empty; a space outside quotes and the end of the line end it only when it is not. -/
def scan (quoted : Bool) (word : List Char) : List Char → List (List Char)
  | [] => if word.isEmpty then [] else [word.reverse]
  | '\\' :: '"' :: rest => scan quoted ('"' :: word) rest
  | '"' :: rest => if quoted then word.reverse :: scan false [] rest else scan true word rest
  | ' ' :: rest =>
    if quoted then scan true (' ' :: word) rest
    else if word.isEmpty then scan false [] rest
    else word.reverse :: scan false [] rest
  | c :: rest => scan quoted (c :: word) rest

/-- The arguments of a command line. -/
def tokenize (line : String) : List String := (scan false [] line.toList).map String.ofList

@[simp] theorem tokenize_empty : tokenize "" = [] := rfl

/-- Spaces before the first argument are ignored. -/
theorem scan_space (rest : List Char) : scan false [] (' ' :: rest) = scan false [] rest := by
  simp [scan]

end ToolHost.CommandLine
