/-! Regular expressions with groups, and the search for them: it finds the leftmost match, and of
those that begin there the longest one. -/
namespace ToolHost.Text

/-- What one character has to be. -/
structure CharSet where
  /-- Ranges of characters, both ends included. -/
  ranges : List (Char × Char)
  classes : List (Char → Bool)
  /-- Whether the characters meant are all the others. -/
  complement : Bool

namespace CharSet

/-- The class of characters with a name. -/
def class? (name : String) : Option (Char → Bool) :=
  match name with
  | "alpha" => some Char.isAlpha
  | "digit" => some Char.isDigit
  | "alnum" => some Char.isAlphanum
  | "upper" => some Char.isUpper
  | "lower" => some Char.isLower
  | "space" => some fun c => c == ' ' || (9 ≤ c.toNat && c.toNat ≤ 13)
  | "blank" => some fun c => c == ' ' || c == '\t'
  | "punct" => some fun c => 0x20 < c.toNat && c.toNat < 0x7f && !c.isAlphanum
  | "print" => some fun c => 0x20 ≤ c.toNat && c.toNat < 0x7f
  | "graph" => some fun c => 0x20 < c.toNat && c.toNat < 0x7f
  | "cntrl" => some fun c => c.toNat < 0x20 || c.toNat = 0x7f
  | "xdigit" => some fun c =>
    c.isDigit || ('a' ≤ c && c ≤ 'f') || ('A' ≤ c && c ≤ 'F')
  | _ => none

def holds (s : CharSet) (c : Char) : Bool :=
  (s.ranges.any (fun (least, greatest) => least ≤ c && c ≤ greatest) || s.classes.any (· c)) !=
    s.complement

end CharSet

inductive Regex where
  | nothing
  | any
  | char (c : Char)
  | set (s : CharSet)
  /-- The beginning of a line, or of the whole text only. -/
  | start (anyLine : Bool)
  /-- The end of a line, or of the whole text only. -/
  | finish (anyLine : Bool)
  /-- A border of a word, or its beginning or end only. -/
  | border (opening closing : Bool)
  | noBorder
  | group (number : Nat) (body : Regex)
  /-- What a group has matched. -/
  | again (number : Nat)
  | both (first second : Regex)
  | either (first second : Regex)
  | times (body : Regex) (least : Nat) (greatest? : Option Nat)

namespace Regex

/-- How far a match has come. -/
structure Matching where
  /-- The character before the rest. -/
  before? : Option Char
  rest : List Char
  index : Nat
  /-- Where the groups have matched: beginning and end. -/
  groups : List (Nat × Nat × Nat)

def isWordChar (c : Char) : Bool := c.isAlphanum || c == '_'

def Matching.advance (m : Matching) : Matching :=
  match m.rest with
  | c :: rest => { m with before? := some c, rest := rest, index := m.index + 1 }
  | [] => m

/-- Takes given characters. -/
def Matching.expect (m : Matching) : List Char → Option Matching
  | [] => some m
  | c :: cs => if m.rest.head? = some c then m.advance.expect cs else none

/-- The match that has come further, the first one if they have come equally far. -/
def longer : Option Matching → Option Matching → Option Matching
  | some a, some b => some (if a.index < b.index then b else a)
  | some a, none => some a
  | none, b => b

/-- Matches an expression at the front and goes on with what is to follow. `whole` is the text from
its beginning on; `fuel` bounds the depth. -/
def run (whole : List Char) (same : Char → Char → Bool) :
    Nat → Regex → Matching → (Matching → Option Matching) → Option Matching
  | 0, _, _, _ => none
  | fuel + 1, r, m, next =>
    match r with
    | nothing => next m
    | any => if m.rest.isEmpty then none else next m.advance
    | char c => if (m.rest.head?.map (same c)).getD false then next m.advance else none
    | set s =>
      match m.rest with
      | c :: _ =>
        if s.holds c || (same c c.toUpper && s.holds c.toUpper) ||
            (same c c.toLower && s.holds c.toLower) then next m.advance
        else none
      | [] => none
    | start anyLine =>
      if m.before?.isNone || (anyLine && m.before? = some '\n') then next m else none
    | finish anyLine =>
      if m.rest.isEmpty || (anyLine && m.rest.head? = some '\n') then next m else none
    | border opening closing =>
      let before := (m.before?.map isWordChar).getD false
      let after := (m.rest.head?.map isWordChar).getD false
      if (opening && !before && after) || (closing && before && !after) then next m else none
    | noBorder =>
      let before := (m.before?.map isWordChar).getD false
      let after := (m.rest.head?.map isWordChar).getD false
      if before = after then next m else none
    | group n body =>
      run whole same fuel body m fun m' =>
        next { m' with groups := (n, m.index, m'.index) :: m'.groups }
    | again n =>
      match m.groups.lookup n with
      | some (first, behind) => (m.expect ((whole.take behind).drop first)).bind next
      | none => none
    | both a b => run whole same fuel a m fun m => run whole same fuel b m next
    | either a b =>
      match run whole same fuel a m next with
      | some found => if found.rest.isEmpty then some found
        else longer (some found) (run whole same fuel b m next)
      | none => run whole same fuel b m next
    | times body (least + 1) greatest? =>
      run whole same fuel body m fun m =>
        run whole same fuel (times body least (greatest?.map (· - 1))) m next
    | times body 0 greatest? =>
      if greatest? = some 0 then next m
      else
        let more := run whole same fuel body m fun m' =>
          if m'.index = m.index then none
          else run whole same fuel (times body 0 (greatest?.map (· - 1))) m' next
        match more with
        | some found => if found.rest.isEmpty then some found else longer (some found) (next m)
        | none => next m

/-- How many parts an expression has, a bound on the depth of a match for one character. -/
def size : Regex → Nat
  | group _ body => body.size + 1
  | both a b | either a b => a.size + b.size + 1
  | times body least _ => (body.size + 1) * (least + 1) + 1
  | _ => 1

/-- A match: where it begins and ends, and its groups. -/
structure Found where
  start : Nat
  finish : Nat
  groups : List (Nat × Nat × Nat)

/-- Matches exactly at an index. -/
def matchAt? (r : Regex) (same : Char → Char → Bool) (whole : List Char) (index : Nat) :
    Option Found :=
  let m : Matching :=
    ⟨if index = 0 then none else whole[index - 1]?, whole.drop index, index, []⟩
  (run whole same ((r.size + 2) * (whole.length + 2)) r m some).map fun m =>
    ⟨index, m.index, m.groups⟩

/-- The leftmost match that does not begin before an index. -/
def find? (r : Regex) (same : Char → Char → Bool) (whole : List Char) (index : Nat) : Option Found :=
  (List.range' index (whole.length + 1 - index)).findSome? (r.matchAt? same whole ·)

/-- The expression that matches a text as it is. -/
def ofWord (text : List Char) : Regex := text.foldr (fun c r => .both (.char c) r) .nothing

end Regex
end ToolHost.Text
