import ToolHost.Machine.Doing

/-! Names and other texts between quotes, as the programs of a machine show them. Only ASCII has
characters that can be shown; all else is written byte by byte. -/
namespace ToolHost.Utility

/-- Whether a byte is a character that can be shown. -/
def isShown (b : UInt8) : Bool := 0x20 ≤ b && b < 0x7f

/-- The letter that stands for a control character behind a backslash. -/
def controlLetter? (b : UInt8) : Option Char :=
  [(7, 'a'), (8, 'b'), (9, 't'), (10, 'n'), (11, 'v'), (12, 'f'), (13, 'r')].lookup b

/-- A byte written with a backslash: as a letter if there is one for it, or else with three octal
digits. -/
def escapedByte (b : UInt8) : String :=
  match controlLetter? b with
  | some letter => "\\" ++ String.singleton letter
  | none =>
    let digits := Nat.toDigits 8 b.toNat
    "\\" ++ String.ofList (List.replicate (3 - digits.length) '0' ++ digits)

/-- The character that a byte is which can be shown. -/
def plainByte (b : UInt8) : String := String.singleton (Char.ofNat b.toNat)

/-- A text between quotes, with backslashes. -/
def cited (text : String) : String :=
  let parts := text.toUTF8.toList.map fun b =>
    if b = 0x27 then "\\'" else if b = 0x5c then "\\\\"
    else if isShown b then plainByte b else escapedByte b
  "'" ++ "".intercalate parts ++ "'"

/-- Whether a character means the same to a shell in either kind of quotes. -/
def isSafeInQuotes (c : Char) : Bool :=
  c.isAlphanum || c ∈ ['%', '+', ',', '-', '.', '/', ':', ']', '_', '@', ' ', '\'']

/-- The bytes of a name between single quotes, as a shell reads them. Bytes that cannot be shown stand
in quotes of their own behind a dollar sign. The flag says whether such quotes are open. -/
def quotedBytes : (isOpen : Bool) → List UInt8 → String
  | _, [] => "'"
  | isOpen, b :: rest =>
    if b = 0x27 then "'\\''" ++ quotedBytes false rest
    else if isShown b then (if isOpen then "''" else "") ++ plainByte b ++ quotedBytes false rest
    else (if isOpen then "" else "'$'") ++ escapedByte b ++ quotedBytes true rest

/-- A name between quotes, as a shell reads it. -/
def quoted (name : String) : String :=
  let chars := name.toList
  let bytes := name.toUTF8.toList
  if '\'' ∈ chars then
    let isSafe := chars.zipIdx.all fun (c, place) =>
      isSafeInQuotes c || place = 0 && (c == '#' || c == '~')
        || chars.length = 1 && (c == '\x7b' || c == '\x7d')
    if isSafe then "\"" ++ name ++ "\""
    -- such a name is looked through twice, and the quotes that end it are open at its beginning
    else "'" ++ quotedBytes ((bytes.getLast?.map fun b => !isShown b).getD false) bytes
  else "'" ++ quotedBytes false bytes

/-- The characters for which a shell would need quotes. -/
def needsQuotes (c : Char) : Bool :=
  c ∈ [' ', '!', '"', '$', '&', '(', ')', '*', ';', '<', '=', '>', '?', '[', '\\', '^', '\x60', '|',
    '\'', ':'] || c.toNat < 0x20 || 0x7e < c.toNat

/-- A name between quotes if it needs them. -/
def named (name : String) : String :=
  let needed := match name.toList with
    | [] => true
    | [c] => c ∈ ['#', '~', '\x7b', '\x7d'] || needsQuotes c
    | c :: rest => c == '#' || c == '~' || (c :: rest).any needsQuotes
  if needed then quoted name else name

end ToolHost.Utility
