import ToolHost.Text.Regex.Basic
import ToolHost.Utility.Format
import ToolHost.Utility.Names

/-! The program that replaces, deletes or squeezes bytes. -/
namespace ToolHost.Utility

/-- The bytes of a class by its name. -/
def classBytes (name : String) : Option (List UInt8) :=
  (Text.CharSet.class? name).map fun f =>
    ((List.range 128).filter fun n => f (Char.ofNat n)).map UInt8.ofNat

/-- A set of bytes as `tr` spells it: ranges, classes, repetitions and escapes. The first number
bounds the length; `whole` is how long the set has to become where a byte is to fill it up. -/
def readSet (whole : Nat) : Nat → List UInt8 → Bytes → Except String Bytes
  | 0, _, done => .ok done
  | _, [], done => .ok done
  | fuel + 1, text, done =>
    let escapedAt (text : List UInt8) : Option (UInt8 × List UInt8) :=
      match text with
      | [] => none
      | 0x5c :: rest =>
        if rest.isEmpty then some (0x5c, [])
        else
          let chars := rest.map fun b => Char.ofNat b.toNat
          let (bytes, after) := escape .builtin chars
          match bytes with
          | [b] =>
            if b = 0x5c && chars.head? != some '\\' then some (rest.headD 0, rest.tail)
            else some (b, rest.drop (rest.length - after.length))
          | _ => some (0x5c, rest)
      | b :: rest => some (b, rest)
    match text with
    | 0x5b :: 0x3a :: rest =>
      let name := rest.takeWhile (· != 0x3a)
      match rest.drop name.length, classBytes (Bytes.text name) with
      | 0x3a :: 0x5d :: rest, some bytes => readSet whole fuel rest (done ++ bytes)
      | 0x3a :: 0x5d :: _, none => .error s!"invalid character class '{Bytes.text name}'"
      | _, _ => readSet whole fuel (0x3a :: rest) (done ++ [0x5b])
    | 0x5b :: b :: 0x2a :: rest =>
      let digits := rest.takeWhile fun b => 0x30 ≤ b && b ≤ 0x39
      match rest.drop digits.length with
      | 0x5d :: after =>
        let chars := digits.map fun b => Char.ofNat b.toNat
        let count := valueIn (if chars.head? = some '0' then 8 else 10) chars
        let count := if count = 0 then whole - done.length - after.length else count
        readSet whole fuel after (done ++ List.replicate count b)
      | _ => readSet whole fuel (b :: 0x2a :: rest) (done ++ [0x5b])
    | text =>
      match escapedAt text with
      | none => .ok done
      | some (first, rest) =>
        match rest with
        | 0x2d :: more =>
          match escapedAt more with
          | some (last, rest) =>
            if last < first then
              let shown := Bytes.text [first, 0x2d, last]
              .error s!"range-endpoints of '{shown}' are in reverse collating sequence order"
            else
              let range := (List.range' first.toNat (last.toNat + 1 - first.toNat)).map UInt8.ofNat
              readSet whole fuel rest (done ++ range)
          | none => readSet whole fuel rest (done ++ [first])
        | rest => readSet whole fuel rest (done ++ [first])

/-- Bytes with runs of equal ones that are in a set made single. -/
def squeezed (set : UInt8 → Bool) (bytes : Bytes) : Bytes :=
  (bytes.foldl (fun (kept, last?) b =>
    if last? = some b && set b then (kept, last?) else (b :: kept, some b)) ([], none)).1.reverse

/-- Replaces, deletes or squeezes bytes. -/
def translate : Program := fun _ => withOptions
  { letters := "cCdst", words := [("complement", 'c'), ("delete", 'd'), ("squeeze-repeats", 's'),
      ("truncate-set1", 't')], leading := true } fun o => do
    let bytesOf (whole : Nat) (text : String) : Except String Bytes :=
      let bytes := text.toUTF8.toList
      readSet whole (bytes.length + 1) bytes []
    let both := !o.has 'd' && !(o.has 's' && o.operands.length = 1)
    match o.operands with
    | [] => misused 1 "missing operand"
    | [only] =>
      if both || (o.has 'd' && o.has 's') then
        Doing.complain s!"missing operand after {cited only}"
        let p ← get
        let reason := if both then "Two strings must be given when translating."
          else "Two strings must be given when both deleting and squeezing repeats."
        set (p.write 2 (reason ++ "\n").toUTF8.toList)
        pointToHelp
        return 1
      else run o both (bytesOf 0 only) (.ok [])
    | [first, second] =>
      if o.has 'd' && !o.has 's' then
        Doing.complain s!"extra operand {cited second}"
        let p ← get
        set (p.write 2
          "Only one string may be given when deleting without squeezing repeats.\n".toUTF8.toList)
        pointToHelp
        return 1
      else
        let replaced := bytesOf 0 first
        run o both replaced (bytesOf ((replaced.toOption.map List.length).getD 0) second)
    | _ :: _ :: extra :: _ => misused 1 s!"extra operand {cited extra}"
where
  /-- Does what the options say with two sets. -/
  run (o : Options) (both : Bool) (first second : Except String Bytes) : Doing Nat := do
    match first, second with
    | .error problem, _ | _, .error problem =>
      Doing.complain problem
      return 1
    | .ok first, .ok second =>
      let complement := o.has 'c' || o.has 'C'
      let first := if complement then
          ((List.range 256).map UInt8.ofNat).filter fun b => !first.contains b
        else first
      let bytes ← Doing.readInput
      if both then
        match second.getLast? with
        | none =>
          Doing.complain "when not truncating set1, string2 must be non-empty"
          return 1
        | some last =>
          let first := if o.has 't' then first.take second.length else first
          let pairs := first.zip (second ++ List.replicate (first.length - second.length) last)
          let table : Array UInt8 := ((List.range 256).map fun n =>
            let b := UInt8.ofNat n
            ((pairs.reverse.lookup b)).getD b).toArray
          let changed := bytes.map fun b => table.getD b.toNat b
          Doing.printBytes (if o.has 's' then squeezed second.contains changed else changed)
      else if o.has 'd' then
        let kept := bytes.filter fun b => !first.contains b
        Doing.printBytes (if o.has 's' then squeezed second.contains kept else kept)
      else Doing.printBytes (squeezed first.contains bytes)
      return 0

end ToolHost.Utility
