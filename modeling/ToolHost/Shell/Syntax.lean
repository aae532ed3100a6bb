/-! The commands of a shell script. -/
namespace ToolHost.Shell

mutual

/-- A part of a word. -/
inductive Piece where
  /-- A character that stands for itself, outside quotes. -/
  | plain (c : Char)
  /-- Text from between quotes, possibly none. -/
  | quoted (text : List Char)
  /-- What a parameter comes to. -/
  | parameter (name : String) (use : Use) (inQuotes : Bool)
  /-- What commands print. -/
  | output (body : Command) (inQuotes : Bool)
  /-- The value of a sum. -/
  | sum (expression : List Piece) (inQuotes : Bool)

/-- What is made of the value of a parameter. The flag `nullToo` says whether an empty value counts
as none. -/
inductive Use where
  | value
  /-- How many bytes the value has. -/
  | length
  /-- A word in place of a missing value. -/
  | orElse (nullToo : Bool) (word : List Piece)
  /-- A word that a missing value is set to. -/
  | orSet (nullToo : Bool) (word : List Piece)
  /-- A complaint about a missing value. -/
  | orFail (nullToo : Bool) (word : List Piece)
  /-- A word in place of a value that is not missing. -/
  | replacement (nullToo : Bool) (word : List Piece)
  /-- The value without a part at its end or beginning that matches. -/
  | without (atEnd longest : Bool) (pattern : List Piece)
  | malformed

/-- Where a descriptor is turned to. -/
inductive Target where
  | readFrom (path : List Piece)
  /-- Unless `force`, an option of the shell may save files that are there already. -/
  | writeTo (force : Bool) (path : List Piece)
  | appendTo (path : List Piece)
  | readWrite (path : List Piece)
  /-- To where another descriptor leads; a hyphen closes. -/
  | sameAs (descriptor : List Piece)
  /-- A text of the script itself, which its reader has put away under a number. -/
  | document (number : Nat)

inductive Redirect where
  | turn (descriptor : Nat) (target : Target)

/-- A command. The lines are those of the script where messages say it stands. -/
inductive Command where
  | nothing
  | simple (line : Nat) (assignments : List (String × List Piece)) (words : List (List Piece))
      (redirects : List Redirect)
  | redirected (line : Nat) (body : Command) (redirects : List Redirect)
  | sequence (parts : List Command)
  /-- The second only if the first succeeds. -/
  | andThen (first second : Command)
  /-- The second only if the first fails. -/
  | orElse (first second : Command)
  | negated (body : Command)
  | choose (condition yes no : Command)
  /-- The body as long as the condition succeeds, or fails with `untilDone`. -/
  | loop (untilDone : Bool) (condition body : Command)
  | forEach (line : Nat) (name : String) (words : List (List Piece)) (body : Command)
  | select (line : Nat) (subject : List Piece) (cases : List (List (List Piece) × Command))
  | define (name : String) (body : Command)
  | pipeline (parts : List Command)
  | subshell (line : Nat) (body : Command)
  | background (body : Command)

end

abbrev Word := List Piece

/-- The character that a piece stands for by itself. -/
def Piece.plain? : Piece → Option Char
  | plain c => some c
  | _ => none

/-- The text of a word that holds no quotes and no parameters. -/
def Word.bare? (word : Word) : Option String :=
  (word.mapM Piece.plain?).map String.ofList

def isNameStart (c : Char) : Bool := c.isAlpha || c == '_'

def isNameChar (c : Char) : Bool := c.isAlphanum || c == '_'

/-- Whether a text can be the name of a variable. -/
def isName (text : String) : Bool :=
  match text.toList with
  | c :: rest => isNameStart c && rest.all isNameChar
  | [] => false

/-- The assignment that a word is, where one may stand. -/
def Word.assignment? (word : Word) : Option (String × Word) :=
  let isBareName : Piece → Bool
    | .plain c => isNameChar c
    | _ => false
  match word.span isBareName with
  | (name, .plain '=' :: value) =>
    (Word.bare? name).bind fun name => if isName name then some (name, value) else none
  | _ => none

end ToolHost.Shell
