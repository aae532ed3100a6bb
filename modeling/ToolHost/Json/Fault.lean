import ToolHost.Text.Literal

/-! What can be wrong with a JSON text, and where. A place in a text is given by what is left of it,
so a reader needs to know nothing of lines and columns; they are counted once, for the message. -/
namespace ToolHost.Json

/-- A value as a complaint about it names it. -/
inductive Found where
  | null
  | boolean (value : Bool)
  | integer (value : Int)
  | fractional (digits : String)
  | text (value : String)
  | list
  | object
  deriving DecidableEq, Repr

def Found.description : Found → String
  | null => "null"
  | boolean value => s!"boolean `{value}`"
  | integer value => s!"integer `{value}`"
  | fractional digits => s!"floating point `{digits}`"
  | text value => "string " ++ Text.literal value
  | list => "sequence"
  | object => "map"

/-- The three kinds of fault: the text is no JSON, its content is not what was asked for, or it
stops too early. -/
inductive FaultKind where
  | malformed
  | misfit
  | truncated
  deriving DecidableEq, Repr

inductive Cause where
  -- the text stops inside something
  | endOfValue
  | endOfObject
  | endOfList
  | endOfString
  -- the text is no JSON
  | expectedValue
  | expectedIdent
  | expectedColon
  | expectedCommaOrBrace
  | expectedCommaOrBracket
  | keyMustBeString
  | trailingComma
  | trailingCharacters
  | invalidNumber
  | numberOutOfRange
  | invalidEscape
  | brokenHexEscape
  | loneSurrogate
  | controlCharacter
  -- the content does not fit
  | invalidType (found : Found) (wanted : String)
  | invalidValue (found : Found) (wanted : String)
  | duplicateField (name : String)
  | missingField (name : String)
  | invalidLength (length : Nat) (wanted : String)
  /-- Two tools of one configuration have names that differ only in case. -/
  | duplicateTool (name : String)
  deriving DecidableEq, Repr

namespace Cause

def kind : Cause → FaultKind
  | endOfValue | endOfObject | endOfList | endOfString => .truncated
  | invalidType .. | invalidValue .. | duplicateField _ | missingField _ | invalidLength ..
  | duplicateTool _ => .misfit
  | _ => .malformed

def message : Cause → String
  | endOfValue => "EOF while parsing a value"
  | endOfObject => "EOF while parsing an object"
  | endOfList => "EOF while parsing a list"
  | endOfString => "EOF while parsing a string"
  | expectedValue => "expected value"
  | expectedIdent => "expected ident"
  | expectedColon => "expected `:`"
  | expectedCommaOrBrace => "expected `,` or `\x7d`"
  | expectedCommaOrBracket => "expected `,` or `]`"
  | keyMustBeString => "key must be a string"
  | trailingComma => "trailing comma"
  | trailingCharacters => "trailing characters"
  | invalidNumber => "invalid number"
  | numberOutOfRange => "number out of range"
  | invalidEscape => "invalid escape"
  | brokenHexEscape => "unexpected end of hex escape"
  | loneSurrogate => "lone leading surrogate in hex escape"
  | controlCharacter => "control character (\\u0000-\\u001F) found while parsing a string"
  | invalidType found wanted => s!"invalid type: {found.description}, expected {wanted}"
  | invalidValue found wanted => s!"invalid value: {found.description}, expected {wanted}"
  | duplicateField name => s!"duplicate field `{name}`"
  | missingField name => s!"missing field `{name}`"
  | invalidLength length wanted => s!"invalid length {length}, expected {wanted}"
  | duplicateTool name => s!"duplicate tool entry '{name}' (tool ids ignore case)"

end Cause

/-- Something wrong at a place in a text. -/
structure Fault where
  cause : Cause
  /-- What is left of the text from the place on. -/
  rest : List Char
  /-- How many bytes of that still belong to the place. -/
  ahead : Nat
  deriving DecidableEq, Repr

/-- The result of reading something from the front of a text: a value and what is left. -/
abbrev Reading (α : Type) := Except Fault (α × List Char)

/-- A line, counted from one, and the bytes before the place on that line. -/
structure Position where
  line : Nat
  column : Nat
  deriving DecidableEq, Repr

namespace Position

def start : Position := ⟨1, 0⟩

/-- The place after one more character. -/
def advance (p : Position) (c : Char) : Position :=
  if c = '\n' then ⟨p.line + 1, 0⟩ else ⟨p.line, p.column + c.utf8Size⟩

/-- The place some bytes further on, which may lie inside a character. -/
def advanceBytes (p : Position) : Nat → List Char → Position
  | 0, _ => p
  | _, [] => p
  | n, c :: rest =>
    if c.utf8Size ≤ n then (p.advance c).advanceBytes (n - c.utf8Size) rest
    else ⟨p.line, p.column + n⟩

end Position

/-- Where in a text a fault lies. -/
def Fault.position (fault : Fault) (text : List Char) : Position :=
  ((text.take (text.length - fault.rest.length)).foldl Position.advance Position.start).advanceBytes
    fault.ahead fault.rest

/-- The fault of meeting the next character of `rest`, or the end of the text. -/
def Fault.next (cause : Cause) (rest : List Char) : Fault := ⟨cause, rest, 1⟩

/-- The fault of what has been read before `rest`. -/
def Fault.before (cause : Cause) (rest : List Char) : Fault := ⟨cause, rest, 0⟩

end ToolHost.Json
