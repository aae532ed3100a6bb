import ToolHost.Utility.Format
import ToolHost.Utility.Names
import ToolHost.Utility.Test

/-! The programs that print what they are told or what they are asked about the machine. -/
namespace ToolHost.Utility

/-- Whether a word is an option of `echo`: a hyphen and known letters. -/
def isEchoOption (word : String) : Bool :=
  match word.toList with
  | '-' :: letters => !letters.isEmpty && letters.all (· ∈ ['n', 'e', 'E'])
  | _ => false

/-- Prints words. -/
def echo : Program := fun _ words => do
  let letters := ((words.takeWhile isEchoOption).map String.toList).flatten
  let text := " ".intercalate (words.dropWhile isEchoOption)
  let escapes := (letters.filter (· != 'n')).getLast? = some 'e'
  let (bytes, stopped) := if escapes then unescape .program (text.length + 1) text.toList
    else (text.toUTF8.toList, false)
  Doing.printBytes (if 'n' ∈ letters || stopped then bytes else bytes ++ [0x0a])
  return 0

/-- Prints words as a format says. -/
def printf : Program := fun _ words => do
  match (if words.head? = some "--" then words.tail else words) with
  | [] => misused 1 "missing operand"
  | format :: args =>
    let printing := printFormat .program format args
    Doing.printBytes printing.bytes
    printing.complaints.forM Doing.complain
    if !printing.stopped then
      match printing.args with
      | arg :: _ =>
        Doing.complain s!"warning: ignoring excess arguments, starting with {cited arg}"
      | [] => pure ()
    return if printing.complaints.isEmpty then 0 else 1

/-- Tells whether a condition holds. -/
def test (holds : Process → List String → Except String Bool) : Program := fun _ words => do
  (Test.paths words).forM Doing.follow
  match holds (← get) words with
  | .ok true => return 0
  | .ok false => return 1
  | .error problem =>
    Doing.complain problem
    return 2

/-- Prints the directory. -/
def printDirectory : Program := fun _ => withOptions
  { letters := "LP", words := [("logical", 'L'), ("physical", 'P')] } fun o => do
    let p ← get
    let named? := (p.setting? "PWD").filter fun path =>
      Path.isAbsolute path && (p.world.files.enter [] path).toOption = some p.cwd
    if !o.operands.isEmpty then Doing.complain "ignoring non-option arguments"
    let path := if o.lastOf? ['L', 'P'] = some 'L' then named?.getD p.workingPath else p.workingPath
    Doing.print (path ++ "\n")
    return 0

/-- Prints last names along paths. -/
def printNames : Program := fun _ => withOptions
  { letters := "as:z", words := [("multiple", 'a'), ("suffix", 's'), ("zero", 'z')]
    leading := true } fun o => do
    let finish := if o.has 'z' then "\x00" else "\n"
    let cut (ending name : String) : String :=
      if name != ending && name.endsWith ending then (name.dropEnd ending.length).toString else name
    match o.operands with
    | [] => misused 1 "missing operand"
    | path :: rest =>
      if o.has 'a' || o.has 's' then
        (path :: rest).forM fun path =>
          Doing.print (cut ((o.last? 's').getD "") (lastName path) ++ finish)
        return 0
      else
        match rest with
        | [] =>
          Doing.print (lastName path ++ finish)
          return 0
        | [ending] =>
          Doing.print (cut ending (lastName path) ++ finish)
          return 0
        | _ :: extra :: _ => misused 1 s!"extra operand {cited extra}"

/-- Prints what holds what paths name. -/
def printDirectories : Program := fun _ => withOptions
  { letters := "z", words := [("zero", 'z')] } fun o => do
    if o.operands.isEmpty then misused 1 "missing operand"
    else
      o.operands.forM fun path =>
        Doing.print (directoryOf path ++ if o.has 'z' then "\x00" else "\n")
      return 0

/-- A decimal as a whole number and how many of its digits stand behind the point. -/
def decimalOf? (text : String) : Option (Int × Nat) :=
  let (negative, rest) := spanSign text.toList
  let (whole, rest) := rest.span Char.isDigit
  let tail? : Option (List Char) := match rest with
    | [] => some []
    | '.' :: digits => if digits.all Char.isDigit then some digits else none
    | _ => none
  tail?.bind fun tail =>
    if whole.isEmpty && tail.isEmpty then none
    else
      let value : Int := valueIn 10 (whole ++ tail)
      some (if negative then -value else value, tail.length)

/-- A whole number with a point in front of its last digits. -/
def pointedDecimal (places : Nat) (value : Int) : String :=
  let text := (Decimal.Fraction.mk value.natAbs (Decimal.tenToThe places)).fixed places
  if value < 0 then "-" ++ text else text

/-- Prints numbers one after the other. -/
def printSequence : Program := fun _ words => do
  let isNumber (word : String) : Bool := (decimalOf? word).isSome
  let t : OptionTable :=
    { letters := "ws:f:", words := [("equal-width", 'w'), ("separator", 's'), ("format", 'f')]
      leading := true }
  -- a negative number is no option
  let options := words.takeWhile fun word => !(isNumber word)
  let afterOption := match options.getLast? with
    | some "-s" | some "-f" => words.drop options.length |>.take 1
    | _ => []
  let front := options ++ afterOption
  let numbers := words.drop front.length
  withOptions t (fun o => do
    let numbers := o.operands ++ numbers
    match numbers.find? fun word => !(isNumber word) with
    | some word =>
      misused 1 s!"invalid floating point argument: {cited word}"
    | none =>
      let all := numbers.filterMap decimalOf?
      let places := (all.map Prod.snd).foldl max 0
      let scaled := all.map fun (value, own) => value * (Decimal.tenToThe (places - own) : Nat)
      let unit : Int := (Decimal.tenToThe places : Nat)
      let range? : Option (Int × Int × Int) := match scaled with
        | [last] => some (unit, unit, last)
        | [first, last] => some (first, unit, last)
        | [first, step, last] => some (first, step, last)
        | _ => none
      match range? with
      | none =>
        if numbers.isEmpty then misused 1 "missing operand"
        else misused 1 ("extra operand " ++ cited (numbers.getD 3 ""))
      | some (first, step, last) =>
        if step = 0 then misused 1 ("invalid Zero increment value: " ++ cited (numbers.getD 1 ""))
        else
          let count := if 0 < step then (last - first) / step + 1 else (first - last) / (-step) + 1
          let values := (List.range count.toNat).map fun (n : Nat) => first + (n : Int) * step
          let texts := values.map (pointedDecimal places)
          let width := (texts.map String.length).foldl max 0
          let texts := if o.has 'w' then
              texts.map fun text =>
                if text.startsWith "-" then
                  "-" ++ "".pushn '0' (width - text.length) ++ (text.drop 1).toString
                else "".pushn '0' (width - text.length) ++ text
            else match o.last? 'f' with
              | some format => texts.map fun text =>
                Bytes.text (printFormat .program format [text]).bytes
              | none => texts
          if !texts.isEmpty then
            Doing.print (((o.last? 's').getD "\n").intercalate texts ++ "\n")
          return 0) front

/-- Prints bytes again and again, as often as a number says. -/
def repeatBytes (bytes : Bytes) : Nat → Doing Nat
  | 0 => Doing.waitForever
  | fuel + 1 => do
    Doing.printBytes bytes
    Doing.pass 10
    repeatBytes bytes fuel

/-- Prints a line again and again. -/
def repeatLine : Program := fun _ => withOptions { letters := "" } fun o => do
  let line := ((if o.operands.isEmpty then "y" else " ".intercalate o.operands) ++ "\n").toUTF8.toList
  let block := (List.replicate (8192 / line.length + 1) line).flatten
  repeatBytes block 1000000

/-- Prints variables of the environment. -/
def printEnvironment : Program := fun _ => withOptions
  { letters := "0", words := [("null", '0')], leading := true, failure := 2 } fun o => do
    let p ← get
    let finish := if o.has '0' then "\x00" else "\n"
    if o.operands.isEmpty then
      p.env.forM fun (name, value) => Doing.print s!"{name}={value}{finish}"
      return 0
    else
      o.operands.foldlM (fun status name => do
        match p.setting? name with
        | some value =>
          Doing.print (value ++ finish)
          return status
        | none => return 1) 0

/-- Prints who runs the program. -/
def printUser : Program := fun _ => withOptions { letters := "" } fun _ => do
  Doing.print "root\n"
  return 0

/-- Prints the numbers of who runs the program. -/
def printUserNumbers : Program := fun _ => withOptions
  { letters := "ugGnr", words := [("user", 'u'), ("group", 'g'), ("groups", 'G'), ("name", 'n')] }
  fun o => do
    match o.operands.find? (· ∉ ["root", "0"]) with
    | some name =>
      Doing.complain s!"{cited name}: no such user"
      return 1
    | none => pure ()
    let whole := o.lastOf? ['u', 'g', 'G'] = none
    Doing.print (if whole then "uid=0(root) gid=0(root) groups=0(root)\n"
      else if o.has 'n' then "root\n" else "0\n")
    return 0

/-- Prints what the system is called. -/
def printSystem : Program := fun _ => withOptions
  { letters := "smo", words := [("kernel-name", 's'), ("machine", 'm'), ("operating-system", 'o')] }
  fun o => do
    let parts := (if o.has 's' || o.options.isEmpty then ["Linux"] else []) ++
      (if o.has 'm' then ["x86_64"] else []) ++ (if o.has 'o' then ["GNU/Linux"] else [])
    Doing.print (" ".intercalate parts ++ "\n")
    return 0

/-- Prints the paths of programs. -/
def printPrograms : Program := fun _ words => do
  let options := words.takeWhile fun word => word.startsWith "-"
  match (options.flatMap fun word => word.toList.drop 1).find? fun c => c != 'a' && c != 's' with
  | some c =>
    let p ← get
    set (p.write 2 s!"Illegal option -{c}\n".toUTF8.toList)
    Doing.print "Usage: /usr/bin/which [-as] args\n"
    return 2
  | none =>
    let names := words.drop options.length
    let start := if names.isEmpty then 1 else 0
    names.foldlM (fun status name => do
      let p ← get
      match p.world.files.findProgram p.cwd p.searchPath name with
      | .ok (path, _) =>
        Doing.print (path ++ "\n")
        return status
      | .error _ => return 1) start

/-- Tells the terminal that the standard input is; it is none. -/
def printTerminal : Program := fun _ => withOptions
  { letters := "s", words := [("silent", 's'), ("quiet", 's')], failure := 2 } fun o => do
    match o.operands with
    | extra :: _ => misused 2 s!"extra operand {cited extra}"
    | [] =>
      if !o.has 's' then Doing.print "not a tty\n"
      return 1

/-- The second of the first day of a machine, and its time of day in pairs of digits. -/
def timeOfDay (p : Process) : Nat × List String :=
  let second := p.world.clock / 1000000
  let pair (n : Nat) : String := digitsIn 10 2 n
  (second, [pair (second / 3600 % 24), pair (second / 60 % 60), pair (second % 60)])

/-- A time as a format says. -/
def formatTime (p : Process) : List Char → String
  | '%' :: c :: rest =>
    let (second, time) := timeOfDay p
    let text := match c with
      | 'Y' => "2000"
      | 'y' => "00"
      | 'm' | 'd' => "01"
      | 'e' => " 1"
      | 'j' => "001"
      | 'a' => "Sat"
      | 'A' => "Saturday"
      | 'b' | 'h' => "Jan"
      | 'B' => "January"
      | 'F' => "2000-01-01"
      | 'D' => "01/01/00"
      | 'H' => time.getD 0 ""
      | 'M' => time.getD 1 ""
      | 'S' => time.getD 2 ""
      | 'T' => ":".intercalate time
      | 'R' => ":".intercalate (time.take 2)
      | 's' => toString (946684800 + second)
      | 'N' => digitsIn 10 9 (p.world.clock % 1000000 * 1000)
      | 'Z' => "UTC"
      | 'z' => "+0000"
      | 'u' => "6"
      | 'w' => "6"
      | 'n' => "\n"
      | 't' => "\t"
      | '%' => "%"
      | c => String.ofList ['%', c]
    text ++ formatTime p rest
  | c :: rest => String.singleton c ++ formatTime p rest
  | [] => ""

/-- Prints the time. -/
def printTime : Program := fun _ => withOptions
  { letters := "d:f:Ir:Rs:u"
    words := [("date", 'd'), ("file", 'f'), ("reference", 'r'), ("set", 's'), ("universal", 'u'),
      ("utc", 'u')] } fun o => do
    let p ← get
    match o.operands with
    | _ :: extra :: _ => misused 1 s!"extra operand {cited extra}"
    | [word] =>
      match word.toList with
      | '+' :: format =>
        Doing.print (formatTime p format ++ "\n")
        return 0
      | _ =>
        Doing.complain s!"invalid date {cited word}"
        return 1
    | [] =>
      Doing.print (formatTime p "%a %b %e %T %Z %Y".toList ++ "\n")
      return 0

end ToolHost.Utility
