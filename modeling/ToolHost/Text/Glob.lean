import ToolHost.Text.Regex.Basic

/-! Patterns for names, in which marks stand for any text, for any character or for one of a set. -/
namespace ToolHost.Text

namespace CharSet

/-- Reads the name of a class, behind `[:`. -/
def readClass (text : List Char) : Option ((Char → Bool) × List Char) :=
  let (name, rest) := text.span (· != ':')
  match rest with
  | ':' :: ']' :: rest => (class? (String.ofList name)).map fun f => (f, rest)
  | _ => none

/-- Reads the members of a set up to its closing bracket, which may come first as a member. -/
def readMembers (s : CharSet) (first : Bool) : Nat → List Char → Option (CharSet × List Char)
  | 0, _ => none
  | _, [] => none
  | fuel + 1, '[' :: ':' :: rest =>
    match readClass rest with
    | some (f, rest) => readMembers { s with classes := f :: s.classes } false fuel rest
    | none => readMembers { s with ranges := ('[', '[') :: s.ranges } false fuel (':' :: rest)
  | fuel + 1, c :: rest =>
    if c = ']' && !first then some (s, rest)
    else
      match rest with
      | '-' :: d :: rest' =>
        if d = ']' then readMembers { s with ranges := (c, c) :: s.ranges } false fuel rest
        else readMembers { s with ranges := (c, d) :: s.ranges } false fuel rest'
      | rest => readMembers { s with ranges := (c, c) :: s.ranges } false fuel rest

/-- Reads a set behind its opening bracket; one of the given marks makes it a complement. -/
def ofGlob? (marks : List Char) (text : List Char) : Option (CharSet × List Char) :=
  match text with
  | c :: rest =>
    if c ∈ marks then readMembers ⟨[], [], true⟩ true (rest.length + 1) rest
    else readMembers ⟨[], [], false⟩ true (text.length + 1) text
  | [] => none

end CharSet

/-- A part of a pattern. -/
inductive GlobPart where
  | char (c : Char)
  | one
  | many
  | set (s : CharSet)

abbrev Glob := List GlobPart

namespace Glob

/-- Reads a pattern; a character with a mark stands for itself. The first number bounds the length
of the pattern. -/
def read : Nat → List (Char × Bool) → Glob
  | 0, _ => []
  | _, [] => []
  | fuel + 1, (c, true) :: rest => .char c :: read fuel rest
  | fuel + 1, ('\\', false) :: (c, _) :: rest => .char c :: read fuel rest
  | fuel + 1, ('*', false) :: rest => .many :: read fuel rest
  | fuel + 1, ('?', false) :: rest => .one :: read fuel rest
  | fuel + 1, ('[', false) :: rest =>
    match CharSet.ofGlob? ['!', '^'] (rest.map Prod.fst) with
    | some (s, after) => .set s :: read fuel (rest.drop (rest.length - after.length))
    | none => .char '[' :: read fuel rest
  | fuel + 1, (c, false) :: rest => .char c :: read fuel rest

/-- The pattern that characters are; those with a mark stand for themselves. -/
def ofMarked (marked : List (Char × Bool)) : Glob := read (marked.length + 1) marked

def ofText (text : List Char) : Glob := ofMarked (text.map fun c => (c, false))

/-- Whether a pattern matches nothing but one text. -/
def isLiteral (g : Glob) : Bool := g.all fun part => part matches .char _

/-- Whether a whole text matches. -/
def holds : Glob → List Char → Bool
  | [], text => text.isEmpty
  | .many :: g, [] => holds g []
  | .many :: g, c :: text => holds g (c :: text) || holds (.many :: g) text
  | .one :: g, _ :: text => holds g text
  | .char d :: g, c :: text => c == d && holds g text
  | .set s :: g, c :: text => s.holds c && holds g text
  | _, [] => false
termination_by g text => g.length + text.length

/-- How long the shortest or the longest beginning of a text is that matches. -/
def lengthAtFront? (longest : Bool) : Glob → List Char → Option Nat
  | [], _ => some 0
  | .many :: g, [] => lengthAtFront? longest g []
  | .many :: g, c :: text =>
    match lengthAtFront? longest g (c :: text), lengthAtFront? longest (.many :: g) text with
    | some here, some later => some (if longest then max here (later + 1) else min here (later + 1))
    | here?, later? => here?.or (later?.map (· + 1))
  | .one :: g, _ :: text => (lengthAtFront? longest g text).map (· + 1)
  | .char d :: g, c :: text =>
    if c == d then (lengthAtFront? longest g text).map (· + 1) else none
  | .set s :: g, c :: text =>
    if s.holds c then (lengthAtFront? longest g text).map (· + 1) else none
  | _, [] => none
termination_by g text => g.length + text.length

/-- The text without a part at its beginning that matches, the shortest or the longest one. -/
def dropFront (g : Glob) (longest : Bool) (text : List Char) : List Char :=
  text.drop ((g.lengthAtFront? longest text).getD 0)

/-- The text without a part at its end that matches, the shortest or the longest one. Seen from
behind, that part stands at the beginning. -/
def dropBack (g : Glob) (longest : Bool) (text : List Char) : List Char :=
  (dropFront g.reverse longest text.reverse).reverse

end Glob
end ToolHost.Text
