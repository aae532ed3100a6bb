/-! What a terminal shows of a text. A text may hold sequences that steer the terminal; none of
their characters is shown. The sequences and their ends are those of ECMA-48, with the one byte
that ends a string of commands taken wherever it occurs inside a character's UTF-8 form. Room
between characters is shown even in the middle of a sequence, with all that directly follows it. -/
namespace ToolHost.Text.Terminal

/-- How far the terminal is in a sequence. -/
inductive Mode where
  /-- In no sequence. -/
  | plain
  /-- Behind the escape character. -/
  | escape
  /-- Behind an escape with marks, of which one more character is awaited. -/
  | marked
  /-- In a control sequence, up to the letter that ends it. -/
  | control
  /-- In front of a device string: nothing, numbers or marks have come. -/
  | device
  | deviceNumbers
  | deviceMarks
  /-- In a string that is not shown. -/
  | hidden
  /-- In a title, which a bell may end too. -/
  | title
  deriving DecidableEq, Repr

/-- The byte that ends a hidden string. -/
def stringEnd : UInt8 := 0x9c

/-- Whether the UTF-8 form of a character holds the byte that ends a hidden string. -/
def endsString (c : Char) : Bool := stringEnd ∈ (String.singleton c).toUTF8.toList

def isControl (c : Char) : Bool := c.toNat < 0x20

/-- The controls that are shown, as room between other characters. -/
def isRoom (c : Char) : Bool := c == '\t' || c == '\n' || c == '\x0c' || c == '\r'

/-- Whether the number of a character lies between two others, both included. -/
def within (c : Char) (least greatest : Nat) : Bool := least ≤ c.toNat && c.toNat ≤ greatest

/-- Where the escape character and one more lead. -/
def Mode.afterEscape (c : Char) : Mode :=
  if c == '[' then .control
  else if c == ']' then .title
  else if c == 'P' then .device
  else if c == 'X' || c == '^' || c == '_' then .hidden
  else if within c 0x20 0x2f then .marked
  else if within c 0x30 0x7e then .plain
  else .escape

/-- Where a character leads that is neither a control nor begins a sequence. -/
def Mode.next (mode : Mode) (c : Char) : Mode :=
  match mode with
  | plain => .plain
  | escape => .afterEscape c
  | marked => if within c 0x30 0x7e then .plain else .marked
  | control => if within c 0x40 0x7e then .plain else .control
  | device =>
    if within c 0x20 0x2f then .deviceMarks
    else if within c 0x30 0x3f then .deviceNumbers
    else if within c 0x40 0x7e then .hidden
    else .device
  | deviceNumbers =>
    if within c 0x20 0x2f then .deviceMarks
    else if within c 0x3c 0x7e then .hidden
    else .deviceNumbers
  | deviceMarks => if within c 0x30 0x7e then .hidden else .deviceMarks
  | hidden => if endsString c then .plain else .hidden
  | title => .title

/-- Whether a control that comes in the middle of a sequence is carried out at once. -/
def Mode.heedsControls : Mode → Bool
  | plain | escape | marked | control => true
  | device | deviceNumbers | deviceMarks | hidden | title => false

/-- How a text comes to be shown. They differ in what becomes of a sequence in which room is made. -/
inductive Manner where
  /-- As a whole: the sequence is over. -/
  | whole
  /-- Bit by bit: the sequence goes on behind what is shown. -/
  | stream
  deriving DecidableEq, Repr

/-- A terminal between two characters. -/
structure Screen where
  mode : Mode
  /-- Whether the last character was shown. -/
  showing : Bool
  deriving DecidableEq, Repr

namespace Screen

/-- A terminal that has shown nothing yet. -/
def empty : Screen := ⟨.plain, false⟩

/-- Whether a character is shown that stands behind one that was. -/
def continues (c : Char) : Bool := (!isControl c || isRoom c) && c != '\x7f'

/-- Takes a character. A character of more than one byte leads out of any sequence when it is
shown. -/
def take (manner : Manner) (s : Screen) (c : Char) : Screen :=
  if s.showing && continues c then
    ⟨if c.toNat < 0x80 then s.mode else .plain, true⟩
  else if c == '\x1b' then ⟨.escape, false⟩
  else if c == '\x18' || c == '\x1a' then ⟨.plain, false⟩
  else if isControl c then
    if s.mode.heedsControls && isRoom c then ⟨if manner = .whole then .plain else s.mode, true⟩
    else if s.mode == .title && c == '\x07' then ⟨.plain, false⟩
    else ⟨s.mode, false⟩
  else if c == '\x7f' then ⟨s.mode, false⟩
  else ⟨s.mode.next c, s.mode == .plain⟩

/-- The characters that are shown from now on. -/
def shown (manner : Manner) (s : Screen) : List Char → List Char
  | [] => []
  | c :: rest =>
    let after := s.take manner c
    if after.showing then c :: after.shown manner rest else after.shown manner rest

end Screen

/-- The part of a text that is shown. -/
def shown (manner : Manner) (text : String) : String :=
  String.ofList (Screen.empty.shown manner text.toList)

end ToolHost.Text.Terminal
