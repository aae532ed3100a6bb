import ToolHost.Utility.LineReader
import ToolHost.Utility.Streams

/-! The programs that take columns out of lines, and put lines side by side. -/
namespace ToolHost.Utility

namespace Columns

/-- Places in a line, from one to another or to the end. They are counted from one. -/
structure Span where
  first : Nat
  last? : Option Nat
  deriving DecidableEq

def Span.holds (s : Span) (place : Nat) : Bool := s.first ≤ place && s.last?.all (place ≤ ·)

/-- Why a list of places cannot be read. -/
inductive Problem where
  | zero
  | decreasing
  | noEnds
  | badRange
  | tooLarge (digits : String)
  | bad (text : String)

/-- What is wrong with a list of fields, or of bytes. -/
def Problem.message (fields : Bool) : Problem → String
  | zero => (if fields then "fields" else "byte/character positions") ++ " are numbered from 1"
  | decreasing => "invalid decreasing range"
  | noEnds => "invalid range with no endpoint: -"
  | tooLarge digits =>
    (if fields then "field number " else "byte/character offset ") ++ cited digits ++ " is too large"
  | badRange => if fields then "invalid field range" else "invalid byte or character range"
  | bad text =>
    (if fields then "invalid field value " else "invalid byte/character position ") ++ cited text

/-- Reads one range of a list. -/
def readSpan (text : List Char) : Except Problem Span :=
  let (first, rest) := text.span Char.isDigit
  let number (digits : List Char) : Option Nat := (String.ofList digits).toNat?
  let large := [first, rest.drop 1].find? fun digits =>
    digits.all Char.isDigit && (number digits).any (greatestCount ≤ ·)
  match large, rest with
  | some digits, _ => .error (.tooLarge (String.ofList digits))
  | none, [] =>
    match number first with
    | some 0 => .error .zero
    | some n => .ok ⟨n, some n⟩
    | none => .error .zero
  | none, '-' :: rest =>
    let (last, rest) := rest.span Char.isDigit
    match rest with
    | [] =>
      match number first, number last with
      | none, none => .error .noEnds
      | some 0, _ => .error .zero
      | first?, last? =>
        if last?.any (· < first?.getD 1) then .error .decreasing else .ok ⟨first?.getD 1, last?⟩
    | '-' :: _ => .error .badRange
    | c :: rest => .error (.bad (String.ofList (c :: rest)))
  | none, c :: rest => .error (.bad (String.ofList (c :: rest)))

/-- Adds a span behind those that begin before it. -/
def addSpan (s : Span) : List Span → List Span
  | t :: done =>
    if t.last?.all (s.first ≤ ·) then
      let last? := match t.last?, s.last? with
        | some n, some m => some (max n m)
        | _, _ => none
      ⟨t.first, last?⟩ :: done
    else s :: t :: done
  | [] => [s]

/-- Reads a list of ranges, and puts them in order; those that overlap become one. -/
def readSpans (list : String) : Except Problem (List Span) := do
  let parts := Path.splitAt ',' (list.toList.map fun c => if c = ' ' || c = '\t' then ',' else c)
  let spans ← parts.mapM readSpan
  let sorted := spans.mergeSort fun a b => a.first ≤ b.first
  return (sorted.foldl (fun done s => addSpan s done) []).reverse

/-- The spans of all other places, from a place on. -/
def othersFrom (place : Nat) : List Span → List Span
  | [] => [⟨place, none⟩]
  | s :: rest =>
    let front : List Span := if place < s.first then [⟨place, some (s.first - 1)⟩] else []
    match s.last? with
    | none => front
    | some last => front ++ othersFrom (last + 1) rest

/-- What is asked for. -/
structure Task where
  fields : Bool
  spans : List Span
  delimiter : UInt8
  /-- What stands between parts of the output. -/
  between? : Option Bytes
  onlyDelimited : Bool
  ending : UInt8

/-- The bytes of a line in the spans, or its fields. -/
def Task.line (t : Task) (line : Bytes) : Option Bytes :=
  if t.fields then
    let (parts, ended) := partsOf t.delimiter line
    let parts := if ended then parts ++ [[]] else parts
    if parts.length ≤ 1 then if t.onlyDelimited then none else some line
    else
      let kept := parts.zipIdx.filter fun (_, n) => t.spans.any (·.holds (n + 1))
      some ((t.between?.getD [t.delimiter]).intercalate (kept.map Prod.fst))
  else
    let pieces := t.spans.map fun s =>
      ((match s.last? with
        | some last => line.take last
        | none => line).drop (s.first - 1))
    some ((t.between?.getD []).intercalate (pieces.filter (!·.isEmpty)))

end Columns

/-- Passes on parts of lines. -/
def cut : Program := fun _ => withOptions
  { letters := "b:c:d:f:nsz"
    inner := "o:C"
    words := [("bytes", 'b'), ("characters", 'c'), ("fields", 'f'), ("delimiter", 'd'),
      ("only-delimited", 's'), ("output-delimiter", 'o'), ("complement", 'C'),
      ("zero-terminated", 'z')] }
  fun o => do
    if 1 < (o.options.filter fun (c, _) => c ∈ ['b', 'c', 'f']).length then
      return ← misused 1 "only one list may be specified"
    let delimiter := ((o.last? 'd').getD "\t").toUTF8.toList
    if 1 < delimiter.length then return ← misused 1 "the delimiter must be a single character"
    match o.lastOf? ['b', 'c', 'f'] with
    | none => misused 1 "you must specify a list of bytes, characters, or fields"
    | some kind =>
      let fields := kind = 'f'
      if !fields && o.has 'd' then
        return ← misused 1 "an input delimiter may be specified only when operating on fields"
      if !fields && o.has 's' then
        return ← misused 1
          "suppressing non-delimited lines makes sense\n\tonly when operating on fields"
      match Columns.readSpans ((o.last? kind).getD "") with
      | .error problem => misused 1 (problem.message fields)
      | .ok spans =>
        let task : Columns.Task :=
          { fields := fields
            spans := if o.has 'C' then Columns.othersFrom 1 spans else spans
            delimiter := delimiter.headD 0
            between? := (o.last? 'o').map fun text => if text = "" then [0] else text.toUTF8.toList
            onlyDelimited := o.has 's'
            ending := o.mark }
        let mut status := 0
        for name in (if o.operands.isEmpty then ["-"] else o.operands) do
          match ← Doing.readNamed name with
          | .error e =>
            blame (named name) e
            status := 1
          | .ok bytes =>
            Doing.printBytes (ofParts task.ending ((partsOf task.ending bytes).1.filterMap task.line))
        return status

namespace Pasting

/-- The delimiters of a list, in which a backslash and a zero stand for none at all. -/
def readMarks : List Char → Option (List Bytes)
  | [] => some []
  | '\\' :: [] => none
  | '\\' :: '0' :: rest => (readMarks rest).map ([] :: ·)
  | '\\' :: c :: rest =>
    let byte := match c with
      | 'b' => '\x08'
      | 'f' => '\x0c'
      | 'n' => '\n'
      | 'r' => '\r'
      | 't' => '\t'
      | 'v' => '\x0b'
      | c => c
    (readMarks rest).map ((String.singleton byte).toUTF8.toList :: ·)
  | c :: rest => (readMarks rest).map ((String.singleton c).toUTF8.toList.map (fun b => [b]) ++ ·)

/-- Parts with delimiters in turn between them. -/
def glue (marks : Array Bytes) (parts : List Bytes) : Bytes :=
  (parts.zipIdx.map fun (part, n) =>
    (if n = 0 || marks.isEmpty then [] else marks.getD ((n - 1) % marks.size) []) ++ part).flatten

/-- Takes the next line of each reader; equal names share one. -/
def takeRow : List String → List (String × LineReader) → List Bytes → Bool →
    Doing (List Bytes × Bool × List (String × LineReader))
  | [], readers, row, any => return (row.reverse, any, readers)
  | name :: names, readers, row, any => do
    match readers.lookup name with
    | none => takeRow names readers ([] :: row) any
    | some reader =>
      let (line?, reader) ← reader.next
      let readers := readers.map fun (n, r) => if n = name then (n, reader) else (n, r)
      match line? with
      | some (line, _) => takeRow names readers (line :: row) true
      | none => takeRow names readers ([] :: row) any

/-- Prints rows of lines as long as there are any. -/
def printRows (marks : Array Bytes) (ending : UInt8) (names : List String) :
    Nat → List (String × LineReader) → Doing Unit
  | 0, _ => Doing.waitForever
  | fuel + 1, readers => do
    let (row, any, readers) ← takeRow names readers [] false
    if any then
      Doing.printBytes (glue marks row ++ [ending])
      printRows marks ending names fuel readers

end Pasting

/-- Puts the lines of files next to each other. -/
def paste : Program := fun _ => withOptions
  { letters := "d:sz"
    words := [("delimiters", 'd'), ("serial", 's'), ("zero-terminated", 'z')] } fun o => do
    let text := (o.last? 'd').getD "\t"
    match Pasting.readMarks text.toList with
    | none =>
      Doing.complain s!"delimiter list ends with an unescaped backslash: {text}"
      return 1
    | some marks =>
      let marks := marks.toArray
      let names := if o.operands.isEmpty then ["-"] else o.operands
      if o.has 's' then
        let mut status := 0
        for name in names do
          match ← Doing.readNamed name with
          | .error e =>
            blame (named name) e
            status := 1
            if e = .isADirectory then Doing.printBytes [o.mark]
          | .ok bytes =>
            Doing.printBytes (Pasting.glue marks (partsOf o.mark bytes).1 ++ [o.mark])
        return status
      else
        let mut readers : List (String × LineReader) := []
        let mut status := 0
        for (name, n) in names.zipIdx do
          if name = "-" then
            if (readers.lookup name).isNone then
              readers := readers ++ [(name, { descriptor := 0, mark := o.mark })]
          else
            let descriptor := Doing.ownDescriptor + n
            match (← get).openToRead descriptor name with
            | .error e =>
              blame (named name) e
              return 1
            | .ok p =>
              set p
              if ← Doing.leadsToDirectory descriptor then
                blame (named name) .isADirectory
                status := 1
              else
                -- a file that is named twice is read twice
                readers := readers ++ [(toString n, { descriptor := descriptor, mark := o.mark })]
        let keys := names.zipIdx.map fun (name, n) => if name = "-" then name else toString n
        Pasting.printRows marks o.mark keys Doing.mostReads readers
        return status

end ToolHost.Utility
