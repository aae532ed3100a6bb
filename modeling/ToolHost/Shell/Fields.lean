import ToolHost.Machine.Files
import ToolHost.Text.Glob

/-! What words of a script come to: characters, which fall apart into arguments, and of those that
are patterns the names that match. -/
namespace ToolHost.Shell

/-- A part of an expanded word. -/
inductive Cell where
  /-- A character. One that is not quoted may be a mark of a pattern, and one that came from a value
  may separate arguments. -/
  | char (c : Char) (quoted splits : Bool)
  /-- A pair of quotes around nothing, which makes an argument all the same. -/
  | quotes
  /-- The end of one argument and the beginning of the next one. -/
  | border
  deriving DecidableEq, Repr

namespace Cell

/-- The cells of a text in quotes. -/
def ofQuoted (text : List Char) : List Cell :=
  if text.isEmpty then [quotes] else text.map fun c => char c true false

/-- The cells of a value outside quotes. -/
def ofValue (text : List Char) : List Cell := text.map fun c => char c false true

/-- The cells of arguments with borders between them. -/
def ofArguments (cells : List Char → List Cell) : List String → List Cell
  | [] => []
  | [arg] => cells arg.toList
  | arg :: args => cells arg.toList ++ border :: ofArguments cells args

/-- The characters of cells, with the mark of those that are quoted. -/
def marked (cells : List Cell) : List (Char × Bool) :=
  cells.filterMap fun
    | char c quoted _ => some (c, quoted)
    | quotes | border => none

/-- The text of cells that do not fall apart. -/
def text (cells : List Cell) : String := String.ofList ((marked cells).map Prod.fst)

end Cell

/-- The arguments that are complete, the last one first, and what is there of the next one. -/
structure Fields where
  complete : List (List Cell)
  /-- The cells of the next argument, the last one first. -/
  present : List Cell
  /-- Whether a blank has just ended an argument. -/
  afterBlank : Bool

namespace Fields

/-- Ends the present argument, even if there is nothing to it. -/
def close (f : Fields) (afterBlank : Bool) : Fields :=
  ⟨f.present.reverse :: f.complete, [], afterBlank⟩

/-- Adds a cell. A separator that is no blank ends an argument in any case, but only once together
with the blanks around it. -/
def add (separators : List Char) (f : Fields) (cell : Cell) : Fields :=
  match cell with
  | .border => if f.present.isEmpty then f else f.close false
  | .char c _ true =>
    if c ∈ separators then
      if c ∈ [' ', '\t', '\n'] then
        if f.present.isEmpty then f else f.close true
      else if f.afterBlank then { f with afterBlank := false }
      else f.close false
    else { f with present := cell :: f.present, afterBlank := false }
  | cell => { f with present := cell :: f.present, afterBlank := false }

/-- The arguments into which cells fall apart. -/
def split (separators : List Char) (cells : List Cell) : List (List Cell) :=
  let f := cells.foldl (add separators) ⟨[], [], false⟩
  (if f.present.isEmpty then f else f.close false).complete.reverse

end Fields

/-- The paths that begin with one of the given ones and go on as the parts of a pattern say. -/
def matchingFrom (files : FileTree) (cwd : Place) :
    List (List (Char × Bool)) → List String → List String
  | [], paths => paths
  | part :: parts, paths =>
    let glob := Text.Glob.ofMarked part
    let goOn (path : String) : List String :=
      if glob.isLiteral then [path ++ String.ofList (part.map Prod.fst)]
      else
        match (files.find cwd (if path = "" then "." else path)).toOption with
        | some (place, .directory ..) =>
          let hidden := part.head?.any fun (c, _) => c = '.'
          let names := (if hidden then [".", ".."] else []) ++ files.namesIn place
          (names.filter fun name =>
            (hidden || name.toList.head? != some '.') && glob.holds name.toList).map (path ++ ·)
        | _ => []
    let found := paths.flatMap goOn
    matchingFrom files cwd parts (if parts.isEmpty then found else found.map (· ++ "/"))

/-- Splits a pattern into the parts between separators. -/
def patternParts : List (Char × Bool) → List (List (Char × Bool))
  | [] => [[]]
  | (c, quoted) :: rest =>
    match patternParts rest with
    | part :: parts => if c = '/' then [] :: part :: parts else ((c, quoted) :: part) :: parts
    | [] => [[(c, quoted)]]

/-- The paths of what there is that match a pattern, in order. -/
def matchingPaths (files : FileTree) (cwd : Place) (pattern : List (Char × Bool)) : List String :=
  let there (path : String) : Bool :=
    if Path.endsInSlash path then (files.find cwd path).isOk
    else ((files.locateEntry cwd path).toOption.bind files.node?).isSome
  ((matchingFrom files cwd (patternParts pattern) [""]).filter there).mergeSort (· ≤ ·)

/-- The arguments that cells stand for. -/
def argumentsOf (files : FileTree) (cwd : Place) (separators : List Char) (noPatterns : Bool)
    (cells : List Cell) : List String :=
  (Fields.split separators cells).flatMap fun field =>
    let marked := Cell.marked field
    let plain := String.ofList (marked.map Prod.fst)
    if noPatterns || (Text.Glob.ofMarked marked).isLiteral then [plain]
    else
      match matchingPaths files cwd marked with
      | [] => [plain]
      | paths => paths

end ToolHost.Shell
