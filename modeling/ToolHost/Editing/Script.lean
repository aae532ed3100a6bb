import ToolHost.Text.Regex.Basic

/-! Scripts that say how lines are edited. -/
namespace ToolHost.Editing

/-- What a line is known by. -/
inductive Address where
  | line (n : Nat)
  | last
  /-- Lines that match; without an expression the one that was used last. -/
  | matching (r? : Option Text.Regex) (foldCase : Bool)
  /-- Every so many lines from one on. -/
  | step (first size : Nat)
  /-- So many lines behind the beginning of a range. -/
  | behind (count : Nat)
  /-- The next line whose number is a multiple. -/
  | multiple (size : Nat)

/-- How letters that are put in are changed. -/
inductive Letters where
  | asTheyAre
  | upper
  | lower
  deriving DecidableEq

/-- A part of a replacement. -/
inductive Part where
  | text (c : Char)
  /-- What a group has matched; zero means the whole match. -/
  | group (n : Nat)
  /-- Changes the letters that follow. -/
  | letters (l : Letters)
  /-- Changes the next letter only. -/
  | nextLetter (l : Letters)

/-- What is put for what. -/
structure Substitution where
  r? : Option Text.Regex
  foldCase : Bool
  parts : List Part
  /-- Whether all matches are replaced, from one on. -/
  everywhere : Bool
  /-- Which match is the first one to be replaced. -/
  nth : Nat
  print : Bool
  file? : Option String

inductive Action where
  | substitute (s : Substitution)
  | exchange (old new : List Char)
  | print
  | printFirst
  | list (width? : Option Nat)
  | printName
  | delete
  | deleteFirst
  | clear
  | next
  | nextJoined
  | quit (code : Nat) (silent : Bool)
  | number
  | keep (joined : Bool)
  | recall (joined : Bool)
  | swap
  | append (text : List Char)
  | insert (text : List Char)
  | change (text : List Char)
  | label (name : List Char)
  | jump (name : List Char)
  | jumpIf (name : List Char) (expected : Bool)
  | openBlock
  | closeBlock
  | readFile (name : String)
  /-- Reads one more line of a file each time. -/
  | readLine (name : String)
  | writeFile (name : String)
  | writeFirst (name : String)
  | nothing

/-- An action, and the lines for which it is done. -/
structure Instruction where
  first? : Option Address
  final? : Option Address
  negated : Bool
  action : Action

/-- The files that a script writes. -/
def Action.target? : Action → Option String
  | substitute s => s.file?
  | writeFile name | writeFirst name => some name
  | _ => none

/-- The label where an action goes on. -/
def Action.goal? : Action → Option (List Char)
  | jump name | jumpIf name _ => if name.isEmpty then none else some name
  | _ => none

end ToolHost.Editing
