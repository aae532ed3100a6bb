import ToolHost.Utility.Options

/-! Names of files in messages and on the way to other names, and texts as lines. -/
namespace ToolHost.Utility

/-- Complains that something went wrong with a file. -/
def blame (text : String) (e : OsError) : Doing Unit := Doing.complain s!"{text}: {e.description}"

/-- A path without the separators at its end. -/
def withoutSlashes (path : Path) : Path :=
  let chars := (path.toList.reverse.dropWhile (· == '/')).reverse
  if chars.isEmpty && path != "" then "/" else String.ofList chars

/-- The last name along a path. -/
def lastName (path : Path) : String :=
  let path := withoutSlashes path
  if path = "/" then path
  else String.ofList (path.toList.reverse.takeWhile (· != '/')).reverse

/-- The path of what holds what a path names. -/
def directoryOf (path : Path) : Path :=
  let path := withoutSlashes path
  let above := path.toList.reverse.dropWhile (· != '/')
  if path = "/" then path
  else if above.isEmpty then "."
  else withoutSlashes (String.ofList above.reverse)

/-- The parts of bytes, each of which a mark ends, without these marks, and whether the last one has
one. -/
def partsOf (mark : UInt8) (bytes : Bytes) : List Bytes × Bool :=
  let parts := bytes.foldr (fun b parts =>
    match parts with
    | part :: rest => if b = mark then [] :: part :: rest else (b :: part) :: rest
    | [] => [[b]]) [[]]
  if parts.getLast? = some [] then (parts.dropLast, true) else (parts, false)

/-- The parts of bytes, each with its mark. -/
def markedParts (mark : UInt8) (bytes : Bytes) : List Bytes :=
  let (parts, ended) := partsOf mark bytes
  match parts.getLast?, ended with
  | some last, false => parts.dropLast.map (· ++ [mark]) ++ [last]
  | _, _ => parts.map (· ++ [mark])

/-- Parts as bytes, each with a mark behind it. -/
def ofParts (mark : UInt8) (parts : List Bytes) : Bytes := parts.flatMap fun part => part ++ [mark]

/-- The lines of bytes without their ends, and whether the last one has an end. -/
def linesOf (bytes : Bytes) : List Bytes × Bool := partsOf 0x0a bytes

/-- Lines as bytes, each with an end. -/
def ofLines (lines : List Bytes) : Bytes := ofParts 0x0a lines

/-- Lines as bytes, the last one with an end only if it is to have one. -/
def ofLinesEnding (lines : List Bytes) (ended : Bool) : Bytes :=
  let bytes := ofLines lines
  if ended then bytes else bytes.dropLast

/-- The contents of the files that words name, one after the other; a hyphen names the standard
input, and so does no word at all. A file that cannot be read is told of, and the answer says whether
there was one. -/
def readOperands (operands : List String) : Doing (List (String × Bytes) × Bool) := do
  let mut contents := []
  let mut failed := false
  for name in (if operands.isEmpty then ["-"] else operands) do
    match ← Doing.readNamed name with
    | .ok bytes => contents := contents ++ [(name, bytes)]
    | .error e =>
      blame (named name) e
      failed := true
  return (contents, failed)

/-- What is wrong with a count. -/
inductive CountProblem where
  | noCount
  | tooLarge
  deriving DecidableEq

/-- What is said behind a count that is wrong. -/
def CountProblem.ending : CountProblem → String
  | noCount => ""
  | tooLarge => ": Value too large for defined data type"

/-- How much letters behind a count stand for, where some letters are known. -/
def unitOf? (known : List Char) : List Char → Option Nat
  | [] => some 1
  | c :: rest =>
    if c ∉ known then none
    else if c = 'b' then if rest.isEmpty then some 512 else none
    else
      let letter := if c = 'K' then 'k' else if c = 'm' then 'M' else c
      match ['k', 'M', 'G', 'T', 'P', 'E', 'Z', 'Y', 'R', 'Q'].findIdx? (· == letter), rest with
      | some n, [] | some n, ['i', 'B'] => some (Nat.pow 1024 (n + 1))
      | some n, ['B'] => some (Nat.pow 1000 (n + 1))
      | _, _ => none

/-- The letters behind a count for thousands, millions and so on. -/
def unitLetters : List Char := ['k', 'K', 'm', 'M', 'G', 'T', 'P', 'E', 'Z', 'Y', 'R', 'Q']

/-- The greatest count. -/
def greatestCount : Nat := 18446744073709551615

/-- The count that a word gives, with letters behind it. -/
def readCount (known : List Char) (text : String) : Except CountProblem Nat :=
  let text := text.toList.dropWhile (· == ' ')
  let text := if text.head? = some '+' then text.tail else text
  let (digits, rest) := text.span Char.isDigit
  match (String.ofList digits).toNat?, unitOf? known rest with
  | some n, some unit => if greatestCount < n * unit then .error .tooLarge else .ok (n * unit)
  | _, _ => .error .noCount

/-- A count that a word gives, with a letter for thousands and the like. -/
def countOf? (text : String) : Option Nat := (readCount unitLetters text).toOption

end ToolHost.Utility
