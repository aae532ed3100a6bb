import ToolHost.Checksum.Cyclic
import ToolHost.Checksum.Digest
import ToolHost.Text.Base64
import ToolHost.Utility.Names

/-! The programs that print checksums of files, and that tell whether files still have those that a
list gives. -/
namespace ToolHost.Utility

/-- A way to make a checksum. -/
inductive Algorithm where
  | bsd
  | sysv
  | crc
  | md5
  | sha1
  | sha224
  | sha256
  | sha384
  | sha512
  | blake2b
  | sm3
  deriving DecidableEq

namespace Algorithm

/-- All ways, each with its name, the name it has in lists, and the number of its bytes. -/
def all : List (Algorithm × String × String × Nat) :=
  [(bsd, "bsd", "BSD", 2), (sysv, "sysv", "SYSV", 2), (crc, "crc", "CRC", 4),
    (md5, "md5", "MD5", 16), (sha1, "sha1", "SHA1", 20), (sha224, "sha224", "SHA224", 28),
    (sha256, "sha256", "SHA256", 32), (sha384, "sha384", "SHA384", 48),
    (sha512, "sha512", "SHA512", 64), (blake2b, "blake2b", "BLAKE2b", 64), (sm3, "sm3", "SM3", 32)]

/-- The name that a way has in lists. -/
def label (a : Algorithm) : String := (all.lookup a).elim "" fun (_, label, _) => label

/-- The number of bytes of a checksum, if no other number is asked for. -/
def size (a : Algorithm) : Nat := (all.lookup a).elim 0 fun (_, _, size) => size

/-- Whether it sums bytes up rather than digests them. -/
def isSum (a : Algorithm) : Bool := a = bsd || a = sysv || a = crc

def ofName? (name : String) : Option Algorithm :=
  (all.find? fun (_, known, _) => known = name).map Prod.fst

def ofLabel? (text : String) : Option Algorithm :=
  (all.find? fun (_, _, known, _) => known = text).map Prod.fst

/-- The checksum of bytes. -/
def sum (a : Algorithm) (size : Nat) (bytes : Bytes) : Bytes :=
  match a with
  | bsd => Checksum.bigEndian 2 (Checksum.turning bytes)
  | sysv => Checksum.bigEndian 2 (Checksum.plain bytes)
  | crc => Checksum.bigEndian 4 (Checksum.cyclic bytes).toNat
  | md5 => Checksum.md5 bytes
  | sha1 => Checksum.sha1 bytes
  | sha224 => Checksum.sha224 bytes
  | sha256 => Checksum.sha256 bytes
  | sha384 => Checksum.sha384 bytes
  | sha512 => Checksum.sha512 bytes
  | blake2b => Checksum.blake size bytes
  | sm3 => Checksum.sm3 bytes

/-- The name in lists for checksums of some size. -/
def labelFor (a : Algorithm) (size : Nat) : String :=
  if a = blake2b && size != a.size then s!"{a.label}-{size * 8}" else a.label

end Algorithm

namespace Summing

/-- A name in which the ends of lines and backslashes are escaped, behind a backslash if there were
some. -/
def escapedName (name : String) : String × String :=
  if name.toList.any fun c => c = '\n' || c = '\r' || c = '\\' then
    ("\\", String.ofList (name.toList.flatMap fun c => match c with
      | '\n' => ['\\', 'n']
      | '\r' => ['\\', 'r']
      | '\\' => ['\\', '\\']
      | c => [c]))
  else ("", name)

/-- The name that was escaped. -/
def unescaped? : List Char → Option (List Char)
  | '\\' :: 'n' :: rest => (unescaped? rest).map ('\n' :: ·)
  | '\\' :: 'r' :: rest => (unescaped? rest).map ('\r' :: ·)
  | '\\' :: '\\' :: rest => (unescaped? rest).map ('\\' :: ·)
  | c :: rest => if c = '\\' || c.toNat = 0 then none else (unescaped? rest).map (c :: ·)
  | [] => some []

/-- Which program sums up. -/
inductive Summer where
  /-- The one for a single kind of digests. -/
  | single (a : Algorithm)
  /-- The one that is told what to do. -/
  | general
  deriving DecidableEq

/-- What is to be done. -/
structure Task where
  summer : Summer
  algorithm : Algorithm
  /-- Whether the way to make checksums was named. -/
  chosen : Bool
  size : Nat
  labelled : Bool
  binary : Bool
  zero : Bool
  raw : Bool
  sixfold : Bool
  /-- Whether it only counts what does not fit. -/
  silent : Bool
  brief : Bool
  warning : Bool
  strict : Bool
  ignoring : Bool

/-- The text of a checksum. -/
def Task.digits (t : Task) (sum : Bytes) : String :=
  if t.sixfold then String.ofList (Base64.encode sum) else Checksum.hexText sum

/-- The line for a sum. -/
def sumLine (a : Algorithm) (sum : Bytes) (count : Nat) : String :=
  let number := Checksum.ofBigEndian sum
  match a with
  | .bsd =>
    let digits := toString number
    let blocks := toString ((count + 1023) / 1024)
    "".pushn '0' (5 - digits.length) ++ digits ++ " " ++ "".pushn ' ' (5 - blocks.length) ++ blocks
  | .sysv => s!"{number} {(count + 511) / 512}"
  | _ => s!"{number} {count}"

/-- What is printed for a file. -/
def Task.line (t : Task) (name : String) (shown : Bool) (bytes : Bytes) : Bytes :=
  let sum := t.algorithm.sum t.size bytes
  let finish := if t.zero then "\x00" else "\n"
  if t.raw then sum
  else if t.algorithm.isSum then
    (sumLine t.algorithm sum bytes.length ++ (if shown then " " ++ name else "")
      ++ finish).toUTF8.toList
  else
    let (mark, name) := if t.zero then ("", name) else escapedName name
    let label := t.algorithm.labelFor t.size
    let text :=
      if t.labelled then s!"{mark}{label} ({name}) = {t.digits sum}"
      else mark ++ t.digits sum ++ (if t.binary then " *" else "  ") ++ name
    (text ++ finish).toUTF8.toList

def isBlank (c : Char) : Bool := c = ' ' || c = '\t'

def isHex (c : Char) : Bool := c.isDigit || ('a' ≤ c && c ≤ 'f') || ('A' ≤ c && c ≤ 'F')

/-- One line of a list: how a checksum was made, what it is, and of which file. -/
structure Entry where
  algorithm : Algorithm
  size : Nat
  digits : List Char
  name : List Char

/-- The number of characters that write so many bytes. -/
def sixfoldLength (size : Nat) : Nat := (size + 2) / 3 * 4

/-- Whether characters are a checksum. -/
def Entry.valid (e : Entry) : Bool :=
  if e.digits.length = e.size * 2 then e.digits.all isHex
  else e.digits.length = sixfoldLength e.size &&
    ((e.digits.reverse.dropWhile (· == '=')).all fun c => (Base64.value? c).isSome)

/-- Whether the checksum is that of bytes. -/
def Entry.holds (e : Entry) (bytes : Bytes) : Bool :=
  let sum := e.algorithm.sum e.size bytes
  if e.digits.length = e.size * 2 then
    (Checksum.hexText sum).toList = e.digits.map Char.toLower
  else Base64.encode sum = e.digits

/-- A number in the notation of its beginning, and what follows it. -/
def readNumber (text : List Char) : Option (Nat × List Char) :=
  let digits := text.takeWhile Char.isDigit
  if digits.isEmpty then none
  else (String.ofList digits).toNat?.map fun n => (n, text.drop digits.length)

/-- Reads an entry behind the name of its way of making checksums. -/
def readLabelled (a : Algorithm) (escaped : Bool) (text : List Char) : Option Entry := do
  let (size, text) ← match a, text with
    | .blake2b, '-' :: text => do
      let (bits, text) ← readNumber text
      if 0 < bits && bits ≤ 512 && bits % 8 = 0 then some (bits / 8, text) else none
    | a, text => some (a.size, text)
  let text := if text.head? = some ' ' then text.drop 1 else text
  guard (text.head? = some '(')
  let text := text.drop 1
  let behind := text.reverse.takeWhile (· != ')')
  guard (behind.length < text.length)
  let name := text.take (text.length - behind.length - 1)
  let name ← if escaped then unescaped? name else some name
  let rest := behind.reverse.dropWhile isBlank
  guard (rest.head? = some '=')
  let entry : Entry := ⟨a, size, (rest.drop 1).dropWhile isBlank, name⟩
  if entry.valid then some entry else none

/-- Whether lines have one blank between the checksum and the name, once this is known. -/
abbrev Manner := Option Bool

/-- Reads an entry that begins with its checksum. -/
def readBare (a : Algorithm) (escaped : Bool) (manner : Manner) (text : List Char) :
    Option (Entry × Manner) := do
  let least := if a = .blake2b then 3 else a.size * 2 + 2
  guard (least ≤ text.length)
  let hex := (text.takeWhile isHex).length
  let size := if a = .blake2b then hex / 2 else a.size
  guard (a != .blake2b || (2 ≤ hex && hex % 2 = 0 && hex ≤ 128))
  let digits := text.takeWhile fun c => !isBlank c
  let entry : Entry := ⟨a, size, digits, []⟩
  guard entry.valid
  guard (digits.length < text.length)
  let rest := text.drop (digits.length + 1)
  let single := rest.length = 1 || !(rest.head? = some ' ' || rest.head? = some '*')
  let (name, manner) ←
    if single then if manner = some false then none else some (rest, some true)
    else if manner = some true then some (rest, manner)
    else some (rest.drop 1, some false)
  let name ← if escaped then unescaped? name else some name
  return ({ entry with name := name }, manner)

/-- Reads a line of a list. -/
def Task.readEntry (t : Task) (manner : Manner) (line : List Char) : Option (Entry × Manner) :=
  let text := line.dropWhile isBlank
  let (escaped, text) := if text.head? = some '\\' then (true, text.drop 1) else (false, text)
  let label := text.takeWhile fun c => !isBlank c && c != '-' && c != '('
  if t.summer = .general && !t.chosen then
    match Algorithm.ofLabel? (String.ofList label) with
    | some a =>
      if a.isSum then none
      else (readLabelled a escaped (text.drop label.length)).map fun entry => (entry, manner)
    | none => none
  else
    let known := t.algorithm.label.toList
    if known.isPrefixOf text then
      (readLabelled t.algorithm escaped (text.drop known.length)).map fun entry => (entry, manner)
    else readBare t.algorithm escaped manner text

/-- A count with the words for one and for more. -/
def counted (n : Nat) (one more : String) : String :=
  if n = 1 then s!"WARNING: {n} {one}" else s!"WARNING: {n} {more}"

/-- What came of the lines of a list. -/
structure Findings where
  manner : Manner := none
  /-- The way to make checksums that the last line has named. -/
  algorithm : Algorithm
  formatted : Bool := false
  matched : Bool := false
  misformatted : Nat := 0
  unread : Nat := 0
  mismatched : Nat := 0

/-- Looks whether the file of an entry still has its checksum. -/
def Task.verify (t : Task) (entry : Entry) (found : Findings) : Doing Findings := do
  let name := String.ofList entry.name
  let (mark, shown) := if t.silent then ("", name) else escapedName name
  match ← Doing.readNamed name with
  | .error e =>
    if t.ignoring && e = .notFound then return found
    blame (named name) e
    if !t.silent then Doing.print s!"{mark}{shown}: FAILED open or read\n"
    return { found with unread := found.unread + 1 }
  | .ok bytes =>
    if entry.holds bytes then
      if !t.silent && !t.brief then Doing.print s!"{mark}{shown}: OK\n"
      return { found with matched := true }
    else
      if !t.silent then Doing.print s!"{mark}{shown}: FAILED\n"
      return { found with mismatched := found.mismatched + 1 }

/-- Looks whether the files of a list still have their checksums. -/
def Task.verifyList (t : Task) (path : Path) : Doing Bool := do
  let title := if path = "-" then "'standard input'" else named path
  match ← Doing.readNamed path with
  | .error e =>
    if e = .isADirectory then Doing.complain s!"{title}: read error" else blame title e
    return false
  | .ok bytes =>
    let mut found : Findings := { algorithm := t.algorithm }
    let mut number := 0
    for line in (linesOf bytes).1 do
      number := number + 1
      let text := (Bytes.text line).toList
      let text := if text.getLast? = some '\r' then text.dropLast else text
      if line.head? != some 0x23 && !text.isEmpty then
        let entry? := (t.readEntry found.manner text).filter fun (entry, _) =>
          !(path = "-" && entry.name = ['-'])
        match entry? with
        | some (entry, manner) =>
          let next ← t.verify entry
            { found with manner := manner, formatted := true, algorithm := entry.algorithm }
          found := next
        | none =>
          if t.warning then
            Doing.complain
              s!"{title}: {number}: improperly formatted {found.algorithm.label} checksum line"
          found := { found with misformatted := found.misformatted + 1 }
    if !found.formatted then
      Doing.complain s!"{title}: no properly formatted checksum lines found"
    else if !t.silent then
      if found.misformatted != 0 then
        Doing.complain (counted found.misformatted "line is improperly formatted"
          "lines are improperly formatted")
      if found.unread != 0 then
        Doing.complain (counted found.unread "listed file could not be read"
          "listed files could not be read")
      if found.mismatched != 0 then
        Doing.complain (counted found.mismatched "computed checksum did NOT match"
          "computed checksums did NOT match")
      if t.ignoring && !found.matched then Doing.complain s!"{title}: no file was verified"
    return found.formatted && found.matched && found.mismatched = 0 && found.unread = 0 &&
      (!t.strict || found.misformatted = 0)

/-- The size of digests that options ask for, in bytes. -/
def sizeIn (summer : Summer) (a : Algorithm) (o : Options) : Except (List String) Nat := do
  let asked ← (o.options.filter fun (c, _) => c = 'l').foldlM (fun (_ : Nat × String) (_, text) =>
    match text.toNat? with
    | some n => .ok (n, text)
    | none => .error [s!"invalid length: {cited text}"]) (0, "")
  let (bits, text) := asked
  if bits = 0 then return a.size
  if summer = .general && a != .blake2b then
    throw ["--length is only supported with --algorithm=blake2b"]
  if 512 < bits then
    throw [s!"invalid length: {cited text}",
      s!"maximum digest length for {cited a.label} is 512 bits"]
  if bits % 8 != 0 then
    throw [s!"invalid length: {cited text}", "length is not a multiple of 8"]
  return bits / 8

/-- What is wrong with options that do not go together, if anything is. -/
def conflict? (summer : Summer) (labelled checking : Bool) (o : Options) : Option String :=
  let mode := o.lastOf? ['b', 't', 'T']
  let only (text : String) : String := s!"the {text} option is meaningful only when verifying checksums"
  let manner := o.lastOf? ['s', 'q', 'w']
  if o.has 'B' && o.has 'R' then some "--base64 and --raw are mutually exclusive"
  else if labelled && mode = some 't' then
    some (if summer = .general then "--text mode is only supported with --untagged"
      else "--tag does not support --text mode")
  else if o.has 'z' && checking then
    some "the --zero option is not supported when verifying checksums"
  else if summer != .general && labelled && checking then
    some "the --tag option is meaningless when verifying checksums"
  else if mode.isSome && checking then
    some "the --binary and --text options are meaningless when verifying checksums"
  else if checking then none
  else if o.has 'i' then some (only "--ignore-missing")
  else if manner = some 's' then some (only "--status")
  else if manner = some 'w' then some (only "--warn")
  else if manner = some 'q' then some (only "--quiet")
  else if o.has 'S' then some (only "--strict")
  else none

/-- Does what options ask for. -/
def run (summer : Summer) (o : Options) : Doing Nat := do
  let mut algorithm := match summer with
    | .single a => a
    | .general => .crc
  for (_, name) in o.options.filter fun (c, _) => c = 'a' do
    match Algorithm.ofName? name with
    | some a => algorithm := a
    | none =>
      let lines := Algorithm.all.map fun (_, known, _) => s!"\n  - {cited known}"
      return ← misused 1 (s!"invalid argument {cited name} for '--algorithm'\nValid arguments are:"
        ++ "".intercalate lines)
  let checking := o.has 'c'
  let labelled := (o.lastOf? ['T', 'U']).elim (summer == .general) (· == 'T')
  match sizeIn summer algorithm o with
  | .error problems =>
    for problem in problems do Doing.complain problem
    return 1
  | .ok size =>
    if checking && o.has 'a' && algorithm.isSum then
      Doing.complain "--check is not supported with --algorithm=\x7bbsd,sysv,crc\x7d"
      return 1
    match conflict? summer labelled checking o with
    | some problem => misused 1 problem
    | none =>
      let manner := o.lastOf? ['s', 'q', 'w']
      let task : Task :=
        { summer, algorithm, size, labelled, chosen := o.has 'a'
          binary := (o.lastOf? ['b', 't', 'T']).elim false fun c => c == 'b' || c == 'T'
          zero := o.has 'z', raw := o.has 'R', sixfold := o.has 'B', silent := manner = some 's'
          brief := manner = some 'q', warning := manner = some 'w', strict := o.has 'S'
          ignoring := o.has 'i' }
      if 1 < o.operands.length && task.raw then
        Doing.complain "the --raw option is not supported with multiple files"
        return 1
      let mut failed := false
      for name in (if o.operands.isEmpty then ["-"] else o.operands) do
        if checking then
          if !(← task.verifyList name) then failed := true
        else
          match ← Doing.readNamed name with
          | .ok bytes => Doing.printBytes (task.line name (!o.operands.isEmpty) bytes)
          | .error e =>
            blame (named name) e
            failed := true
      return if failed then 1 else 0

/-- The long options of all these programs. -/
def longOptions : List (String × Char) :=
  [("check", 'c'), ("ignore-missing", 'i'), ("quiet", 'q'), ("status", 's'), ("strict", 'S'),
    ("tag", 'T'), ("warn", 'w'), ("zero", 'z')]

end Summing

open Summing in
/-- Prints digests of files. -/
def printDigests (a : Algorithm) : Program := fun _ => withOptions
  { letters := if a = .blake2b then "l:bctwz" else "bctwz"
    inner := "iqsST"
    words := [("binary", 'b'), ("text", 't')] ++ longOptions
      ++ (if a = .blake2b then [("length", 'l')] else []) } (run (.single a))

open Summing in
/-- Prints checksums of files, of the kind that is asked for. -/
def printChecksums : Program := fun _ => withOptions
  { letters := "a:l:bctwz"
    inner := "iqsSTUBRD"
    words := longOptions ++ [("algorithm", 'a'), ("length", 'l'), ("untagged", 'U'),
      ("base64", 'B'), ("raw", 'R'), ("debug", 'D')] } (run .general)

open Summing in
/-- Prints sums of the bytes of files. -/
def printSums : Program := fun _ => withOptions
  { letters := "rs", words := [("sysv", 's')] } fun o => do
    let algorithm : Algorithm := if o.lastOf? ['r', 's'] = some 's' then .sysv else .bsd
    run .general ⟨[('a', if algorithm = .sysv then "sysv" else "bsd")], o.operands⟩

/-- Writes bytes with 64 characters, or reads what is written so. -/
def base64 : Program := fun _ => withOptions
  { letters := "diw:", words := [("decode", 'd'), ("ignore-garbage", 'i'), ("wrap", 'w')] }
  fun o => do
    let widthText := (o.last? 'w').getD "76"
    let some width := widthText.toNat?
      | do
        Doing.complain s!"invalid wrap size: {cited widthText}"
        return 1
    match o.operands with
    | _ :: extra :: _ => misused 1 s!"extra operand {cited extra}"
    | operands =>
      let name := operands.headD "-"
      match ← Doing.readNamed name with
      | .error e =>
        blame (if e = .isADirectory then "read error" else named name) e
        return 1
      | .ok bytes =>
        if o.has 'd' then
          let chars := bytes.map fun b => Char.ofNat b.toNat
          let chars := chars.filter fun c =>
            if o.has 'i' then c = '=' || (Base64.value? c).isSome else c != '\n'
          let (decoded, good) := Base64.decode chars
          Doing.printBytes decoded
          if !good then
            Doing.complain "invalid input"
            return 1
          return 0
        else
          let chars := (Base64.encode bytes).map fun c => UInt8.ofNat c.toNat
          if width = 0 then Doing.printBytes chars
          else Doing.printBytes (ofLines (Checksum.blocksOf width chars.length chars))
          return 0

end ToolHost.Utility
