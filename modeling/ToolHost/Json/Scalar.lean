import ToolHost.Json.Number
import ToolHost.Json.Reader

/-! Values without parts, and what is said when another value stands in their place. -/
namespace ToolHost.Json

/-- Reads a value that has no parts. -/
def readScalar (text : List Char) : Reading Found :=
  match text with
  | [] => .error (.before .endOfValue [])
  | 'n' :: rest => (readLetters ['u', 'l', 'l'] rest).map fun rest => (.null, rest)
  | 't' :: rest => (readLetters ['r', 'u', 'e'] rest).map fun rest => (.boolean true, rest)
  | 'f' :: rest => (readLetters ['a', 'l', 's', 'e'] rest).map fun rest => (.boolean false, rest)
  | '"' :: rest => (readString rest).map fun (cs, rest) => (.text (String.ofList cs), rest)
  | '-' :: rest => (readNumber true rest).map fun (n, rest) => (n.found, rest)
  | c :: _ =>
    if c.isDigit then (readNumber false text).map fun (n, rest) => (n.found, rest)
    else .error (.next .expectedValue text)

theorem readScalar_length {text rest : List Char} {found : Found}
    (h : readScalar text = .ok (found, rest)) : rest.length < text.length := by
  unfold readScalar at h
  split at h
  case h_1 => cases h
  case h_2 left | h_3 left | h_4 left =>
    match hl : readLetters _ left, h with
    | .ok _, h =>
      cases h
      exact Nat.lt_succ_of_le (readLetters_length hl)
  case h_5 left =>
    match hs : readString left, h with
    | .ok _, h =>
      cases h
      exact Nat.lt_succ_of_lt (readString_length hs)
  case h_6 left =>
    match hn : readNumber true left, h with
    | .ok _, h =>
      cases h
      exact Nat.lt_succ_of_lt (readNumber_length hn)
  case h_7 c left _ _ _ _ _ =>
    split at h
    · match hn : readNumber false (c :: left), h with
      | .ok _, h =>
        cases h
        exact readNumber_length hn
    · cases h

/-- Reads a scalar of which only some are acceptable. A list or an object is no scalar at all and
is recognised by its bracket. -/
def expect (wanted : String) (accept : Found → Option α) : Reader α where
  read text :=
    match skipBlank text with
    | '[' :: rest => .error (.before (.invalidType .list wanted) ('[' :: rest))
    | '\x7b' :: rest => .error (.before (.invalidType .object wanted) ('\x7b' :: rest))
    | text =>
      match readScalar text with
      | .error fault => .error fault
      | .ok (found, rest) =>
        match accept found with
        | some a => .ok (a, rest)
        | none => .error (.before (.invalidType found wanted) rest)
  shortens {text rest a} h := by
    split at h
    · cases h
    · cases h
    · split at h
      · cases h
      · rename_i hs
        split at h
        · cases h
          exact Nat.lt_of_lt_of_le (readScalar_length hs) (skipBlank_length text)
        · cases h

def Found.text? : Found → Option String
  | text value => some value
  | _ => none

def Found.boolean? : Found → Option Bool
  | boolean value => some value
  | _ => none

def Found.integer? : Found → Option Int
  | integer value => some value
  | _ => none

/-- What is acceptable when null stands for nothing. -/
def orNull (accept : Found → Option α) : Found → Option (Option α)
  | .null => some none
  | found => (accept found).map some

end ToolHost.Json
