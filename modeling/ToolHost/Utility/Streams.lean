import ToolHost.Utility.Format
import ToolHost.Utility.Names

/-! The programs that pass texts on, whole or in part, line by line. -/
namespace ToolHost.Utility

/-- A number at the end of a field of some width. -/
def padded (width n : Nat) : String :=
  let digits := toString n
  "".pushn ' ' (width - digits.length) ++ digits

/-- How `cat` shows a byte that does not print. -/
def shownByte (tabs : Bool) (b : UInt8) : Bytes :=
  let low (b : UInt8) : Bytes :=
    if b < 0x20 then [0x5e, b + 0x40] else if b = 0x7f then [0x5e, 0x3f] else [b]
  if b = 0x09 && !tabs then [b]
  else if b = 0x0a then [b]
  else if 0x80 ≤ b then [0x4d, 0x2d] ++ low (b - 0x80)
  else low b

/-- Whether a program would read again what it prints. -/
def feedsItself (p : Process) (descriptor : Nat) : Bool :=
  match (p.channel? descriptor).map p.world.channel, (p.channel? 1).map p.world.channel with
  | some (.file number offset _), some (.file target targetOffset appending) =>
    number = target &&
      offset < (if appending then (p.world.files.fileData number).1.length else targetOffset)
  | _, _ => false

/-- Passes files on, one after the other. -/
def cat : Program := fun _ => withOptions
  { letters := "AbeEnstTuv"
    words := [("show-all", 'A'), ("number-nonblank", 'b'), ("show-ends", 'E'), ("number", 'n'),
      ("squeeze-blank", 's'), ("show-tabs", 'T'), ("show-nonprinting", 'v')] } fun o => do
    let visible := o.has 'A' || o.has 'e' || o.has 't' || o.has 'v'
    let ends := o.has 'A' || o.has 'e' || o.has 'E'
    let tabs := o.has 'A' || o.has 't' || o.has 'T'
    let mut status := 0
    let mut counted := 0
    let mut blankBefore := false
    let mut lineOpen := false
    let plain := !(visible || ends || tabs || o.has 'n' || o.has 'b' || o.has 's')
    for name in (if o.operands.isEmpty then ["-"] else o.operands) do
      let result ← Doing.withInput name fun descriptor => do
        if feedsItself (← get) descriptor then
          Doing.complain s!"{named name}: input file is output file"
          return none
        else if plain then
          Doing.passOn descriptor [1]
          return some []
        else return some (← Doing.readAll descriptor)
      match result with
      | .error e =>
        blame (named name) e
        status := 1
      | .ok none => status := 1
      | .ok (some bytes) =>
        if !plain then
          let (lines, ended) := linesOf bytes
          let mut index := 0
          for line in lines do
            index := index + 1
            let last := index = lines.length
            let blank := line.isEmpty && !lineOpen && (ended || !last)
            if !(o.has 's' && blank && blankBefore) then
              let numbers := !lineOpen && (if o.has 'b' then !blank else o.has 'n')
              if numbers then counted := counted + 1
              let front := if numbers then (padded 6 counted ++ "\t").toUTF8.toList else []
              let shown := line.flatMap fun b =>
                if b = 0x09 && tabs then [0x5e, 0x49]
                else if visible then shownByte false b
                else [b]
              let finish : Bytes := if last && !ended then []
                else if ends then [0x24, 0x0a] else [0x0a]
              Doing.printBytes (front ++ shown ++ finish)
            blankBefore := blank
            lineOpen := last && !ended
    return status

/-- The letters that may follow a count in the old manner. -/
def countLetters : List Char := ['b', 'c', 'k', 'l', 'm', 'q', 'v', 'z']

/-- The first letter behind a count in the old manner that may not stand there. -/
def strayLetter? (word : String) : Option Char :=
  match word.toList with
  | '-' :: c :: rest =>
    if c.isDigit then (rest.dropWhile Char.isDigit).find? (· ∉ countLetters) else none
  | _ => none

/-- The words of `head` with an option in the old manner at the front, as `-5` for `-n 5`, in the
new one. -/
def withCount (words : List String) : List String :=
  match words with
  | word :: rest =>
    match word.toList with
    | '-' :: c :: more =>
      let (digits, letters) := (c :: more).span Char.isDigit
      if c.isDigit && letters.all (· ∈ countLetters) then
        let unit? := letters.find? fun c => c ∈ ['b', 'k', 'm']
        let bytes := unit?.isSome || 'c' ∈ letters
        let unit := (unit?.map String.singleton).getD ""
        let flags := (letters.filter fun c => c ∈ ['q', 'v', 'z']).map fun c =>
          "-" ++ String.singleton c
        (if bytes then "-c" else "-n") :: (String.ofList digits ++ unit) :: flags ++ rest
      else words
    | _ => words
  | [] => []

/-- The words of `tail` with an option in the old manner at the front in the new one. There may be
one more word behind it, which is no option. -/
def withEndCount (words : List String) : List String :=
  let alone := match words with
    | [_] => true
    | [_, second] => second = "--" || !(1 < second.length && second.startsWith "-")
    | [_, "--", _] => true
    | _ => false
  match alone, words with
  | true, word :: rest =>
    match word.toList with
    | sign :: text =>
      let (digits, letters) := text.span Char.isDigit
      let meant := if sign = '+' then true
        else sign = '-' && text != [] && text != ['c']
      let (factor, bytes, letters) : Nat × Bool × List Char := match letters with
        | 'b' :: letters => (512, true, letters)
        | 'c' :: letters => (1, true, letters)
        | 'l' :: letters => (1, false, letters)
        | letters => (1, false, letters)
      if meant && (letters = [] || letters = ['f']) then
        let count := if digits.isEmpty then 10 else valueIn 10 digits
        (if bytes then "-c" else "-n") :: ((if sign = '+' then "+" else "") ++ toString (count * factor)) ::
          (if letters = ['f'] then "-f" :: rest else rest)
      else words
    | [] => words
  | _, words => words

/-- Prints a heading for a file if there are several. -/
def heading (o : Options) (first : Bool) (name : String) : Doing Unit := do
  let several := 1 < o.operands.length
  if (several && !o.has 'q') || o.has 'v' then
    let shown := if name = "-" then "standard input" else name
    Doing.print ((if first then "" else "\n") ++ s!"==> {shown} <==\n")

/-- Passes on a part of each file, which is read from a descriptor. -/
def passParts (o : Options) (part : Nat → Doing Bytes) : Doing Nat := do
  let mut status := 0
  let mut first := true
  for name in (if o.operands.isEmpty then ["-"] else o.operands) do
    match ← Doing.withInput name part with
    | .error .isADirectory =>
      heading o first name
      first := false
      Doing.complain s!"error reading {quoted name}: Is a directory"
      status := 1
    | .error e =>
      Doing.complain s!"cannot open {quoted name} for reading: {e.description}"
      status := 1
    | .ok bytes =>
      heading o first name
      first := false
      Doing.printBytes bytes
  return status

/-- The byte that ends the lines of a program by its options. -/
def Options.mark (o : Options) : UInt8 := if o.has 'z' then 0 else 0x0a

/-- How many lines or bytes are wanted. -/
structure Wanted where
  bytes : Bool
  /-- The sign of the number, a blank if there was none. -/
  sign : Char
  count : Nat

/-- How many lines or bytes are wanted by the options. -/
def Wanted.of (o : Options) : Except String Wanted := do
  let read (option : Char × String) : Except String Wanted :=
    let bytes := option.1 = 'c'
    let (sign, digits) := match option.2.toList with
      | '-' :: rest => ('-', rest)
      | '+' :: rest => ('+', rest)
      | rest => (' ', rest)
    match readCount ('b' :: unitLetters) (String.ofList digits) with
    | .ok count => .ok { bytes, sign, count }
    | .error problem =>
      let unit := if bytes then "bytes" else "lines"
      let text := if sign = '+' then option.2 else String.ofList digits
      .error s!"invalid number of {unit}: {cited text}{problem.ending}"
  let all ← (o.options.filter fun (c, _) => c = 'n' || c = 'c').mapM read
  return all.getLastD { bytes := false, sign := ' ', count := 10 }

/-- Passes on the beginning of files. -/
def head : Program := fun _ words => do
  match words.head?.bind strayLetter? with
  | some c => return ← misused 1 s!"invalid trailing option -- {c}"
  | none => pure ()
  withOptions
    { letters := "c:n:qvz0123456789"
      words := [("bytes", 'c'), ("lines", 'n'), ("quiet", 'q'), ("silent", 'q'), ("verbose", 'v'),
        ("zero-terminated", 'z')] }
    (fun o => do
      match o.options.find? fun (c, _) => c.isDigit with
      | some (c, _) => return ← misused 1 s!"invalid trailing option -- {c}"
      | none => pure ()
      match Wanted.of o with
      | .error problem =>
        Doing.complain problem
        return 1
      | .ok wanted =>
        passParts o fun descriptor =>
          if wanted.sign != '-' then
            if wanted.bytes then Doing.takeBytes descriptor wanted.count
            else Doing.takeLines descriptor o.mark wanted.count
          else do
            let content ← Doing.readAll descriptor
            if wanted.bytes then return content.take (content.length - wanted.count)
            else
              let lines := markedParts o.mark content
              return (lines.take (lines.length - wanted.count)).flatten) (withCount words)

/-- Passes on the end of files. -/
def tail : Program := fun _ words => withOptions
  { letters := "c:n:fFqs:vz0123456789"
    optional := "w"
    inner := "wu:p:r"
    words := [("bytes", 'c'), ("follow", 'w'), ("lines", 'n'), ("max-unchanged-stats", 'u'),
      ("pid", 'p'), ("quiet", 'q'), ("retry", 'r'), ("silent", 'q'), ("sleep-interval", 's'),
      ("verbose", 'v'), ("zero-terminated", 'z')] }
  (fun o => do
    match o.options.find? fun (c, _) => c.isDigit with
    | some (c, _) =>
      Doing.complain s!"option used in invalid context -- {c}"
      return 1
    | none => pure ()
    match Wanted.of o with
    | .error problem =>
      Doing.complain problem
      return 1
    | .ok wanted =>
      let fromStart := o.options.any fun (c, value) =>
        (c = 'n' || c = 'c') && value.startsWith "+"
      let follows := o.has 'f' || o.has 'F' || o.has 'w'
      if wanted.count = 0 && !fromStart && !follows then return 0
      let status ← passParts o fun descriptor => do
        let content ← Doing.readAll descriptor
        let dropped (all : Nat) : Nat :=
          if fromStart then wanted.count - 1 else all - wanted.count
        if wanted.bytes then return content.drop (dropped content.length)
        else
          let lines := markedParts o.mark content
          return (lines.drop (dropped lines.length)).flatten
      if follows then Doing.waitForever else return status)
  (withEndCount words)

/-- Passes the input on to files as well. -/
def tee : Program := fun _ => withOptions
  { letters := "aip"
    optional := "e"
    inner := "e"
    words := [("append", 'a'), ("ignore-interrupts", 'i'), ("output-error", 'e')] } fun o => do
    let mut targets := [1]
    let mut status := 0
    for (name, n) in o.operands.zipIdx Doing.ownDescriptor do
      match (← get).openToWrite n name (o.has 'a') (o.has 'a') with
      | .ok p =>
        set p
        targets := targets ++ [n]
      | .error e =>
        blame (named name) e
        status := 1
    Doing.passOn 0 targets
    return status

/-- The parts of bytes, the last one first, that a separator divides. They are looked for from the
end on, and each has the separator that follows it, or the one before it. -/
def partsFromEnd (separator : Bytes) (before : Bool) (bytes : Bytes) : List Bytes :=
  let turned := separator.reverse
  let rec go : Nat → Bytes → Bytes → List Bytes → List Bytes
    | 0, _, part, done => (part :: done).reverse
    | _, [], part, done => (if part.isEmpty then done else part :: done).reverse
    | fuel + 1, b :: rest, part, done =>
      if turned.isPrefixOf (b :: rest) then
        let rest := (b :: rest).drop turned.length
        if before then go fuel rest [] ((separator ++ part) :: done)
        else go fuel rest separator (if part.isEmpty then done else part :: done)
      else go fuel rest (b :: part) done
  go (bytes.length + 1) bytes.reverse [] []

/-- Passes on the lines of files from the last to the first. -/
def reverseLines : Program := fun _ => withOptions
  { letters := "brs:", words := [("before", 'b'), ("regex", 'r'), ("separator", 's')] } fun o => do
  let separator := match o.last? 's' with
    | none => [0x0a]
    | some "" => [0]
    | some text => text.toUTF8.toList
  let mut status := 0
  for name in (if o.operands.isEmpty then ["-"] else o.operands) do
    match ← Doing.readNamed name with
    | .ok bytes => Doing.printBytes (partsFromEnd separator (o.has 'b') bytes).flatten
    | .error .isADirectory =>
      Doing.complain s!"{named name}: read error: Invalid argument"
      status := 1
    | .error e =>
      Doing.complain s!"failed to open {quoted name} for reading: {e.description}"
      status := 1
  return status

/-- Passes on the lines of files with the characters from the last to the first. -/
def reverseCharacters : Program := fun _ => withOptions { letters := "" } fun o => do
  let mut status := 0
  for name in (if o.operands.isEmpty then ["-"] else o.operands) do
    match ← Doing.readNamed name with
    | .error e =>
      blame (if e = .isADirectory then name else s!"cannot open {name}") e
      status := 1
    | .ok bytes =>
      let (lines, ended) := linesOf bytes
      let turned := lines.map fun line =>
        (String.ofList (Bytes.text line).toList.reverse).toUTF8.toList
      Doing.printBytes (ofLinesEnding turned ended)
  return status

end ToolHost.Utility
