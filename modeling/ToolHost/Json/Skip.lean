import ToolHost.Json.Number

/-! Passing over a value that nobody asked for. Its brackets, commas and spelling are checked, but
neither how deep it nests, nor whether its numbers are in range, nor whether its surrogates pair. -/
namespace ToolHost.Json

/-- Passes over the rest of a string. -/
def skipString (text : List Char) : Except Fault (List Char) :=
  match text with
  | [] => .error (.before .endOfString [])
  | '"' :: rest => .ok rest
  | '\\' :: [] => .error (.before .endOfString [])
  | '\\' :: 'u' :: rest =>
    match _h : readHex rest with
    | .error fault => .error fault
    | .ok (_, after) => skipString after
  | '\\' :: c :: rest =>
    if (simpleEscape? c).isSome then skipString rest
    else .error (.next .invalidEscape (c :: rest))
  | c :: rest =>
    if isControl c then .error (.before .controlCharacter (c :: rest)) else skipString rest
termination_by text.length
decreasing_by
  · have := readHex_length ‹_›
    simp only [List.length_cons]
    omega
  · simp only [List.length_cons]
    omega
  · simp

theorem skipString_length {text rest : List Char} (h : skipString text = .ok rest) :
    rest.length < text.length := by
  fun_induction skipString text with
  | case1 => cases h
  | case2 => cases h; simp
  | case3 => cases h
  | case4 => cases h
  | case5 after _ escaped heq ih =>
    have := ih h
    have := readHex_length heq
    simp only [List.length_cons]
    omega
  | case6 c after _ _ ih =>
    have := ih h
    simp only [List.length_cons]
    omega
  | case7 => cases h
  | case8 => cases h
  | case9 c after _ _ _ _ _ ih =>
    have := ih h
    simp only [List.length_cons]
    omega

/-- Drops a run of at least one digit. -/
def skipDigits (text : List Char) : Except Fault (List Char) :=
  if (spanDigits text).1.isEmpty then .error (.next .invalidNumber (spanDigits text).2)
  else .ok (spanDigits text).2

/-- Passes over an exponent, if there is one. -/
def skipExponent : List Char → Except Fault (List Char)
  | c :: rest => if c = 'e' ∨ c = 'E' then skipDigits (splitSign rest).2 else .ok (c :: rest)
  | [] => .ok []

/-- Passes over a point with its digits and over an exponent, as far as there are any. -/
def skipFraction : List Char → Except Fault (List Char)
  | '.' :: rest => (skipDigits rest).bind skipExponent
  | text => skipExponent text

/-- Passes over a number behind its minus sign. A number that stops too early is malformed here,
not truncated. -/
def skipNumber (text : List Char) : Except Fault (List Char) :=
  match readWhole text with
  | .error fault => .error ⟨.invalidNumber, fault.rest, fault.ahead⟩
  | .ok (_, rest) => skipFraction rest

theorem skipDigits_length {text rest : List Char} (h : skipDigits text = .ok rest) :
    rest.length ≤ text.length := by
  unfold skipDigits at h
  split at h
  · cases h
  · cases h
    exact spanDigits_length text

theorem skipExponent_length {text rest : List Char} (h : skipExponent text = .ok rest) :
    rest.length ≤ text.length := by
  unfold skipExponent at h
  split at h
  · rename_i c after
    split at h
    · have h₁ := skipDigits_length h
      have h₂ := splitSign_length after
      simp only [List.length_cons]
      omega
    · cases h
      exact Nat.le_refl _
  · cases h
    exact Nat.le_refl _

theorem skipFraction_length {text rest : List Char} (h : skipFraction text = .ok rest) :
    rest.length ≤ text.length := by
  unfold skipFraction at h
  split at h
  · rename_i after
    match hd : skipDigits after, h with
    | .ok middle, h =>
      have h₁ := skipDigits_length hd
      have h₂ := skipExponent_length h
      simp only [List.length_cons]
      omega
  · exact skipExponent_length h

theorem skipNumber_length {text rest : List Char} (h : skipNumber text = .ok rest) :
    rest.length < text.length := by
  unfold skipNumber at h
  split at h
  · cases h
  · rename_i hw
    exact Nat.lt_of_le_of_lt (skipFraction_length h) (readWhole_length hw)

inductive Bracket where
  | list
  | object
  deriving DecidableEq, Repr

/-- What may come next inside a value. -/
inductive Due where
  | value
  /-- Just behind an opening bracket: a first element or member, or the end. -/
  | first
  /-- Behind a comma in an object. -/
  | key
  | colon
  /-- Behind a value: a comma or the end. -/
  | comma
  deriving DecidableEq, Repr

/-- Passes over a value that has no parts. -/
def skipScalar : List Char → Except Fault (List Char)
  | 'n' :: rest => readLetters ['u', 'l', 'l'] rest
  | 't' :: rest => readLetters ['r', 'u', 'e'] rest
  | 'f' :: rest => readLetters ['a', 'l', 's', 'e'] rest
  | '-' :: rest => skipNumber rest
  | '"' :: rest => skipString rest
  | text =>
    if (text.head?.map Char.isDigit).getD false then skipNumber text
    else .error (.next .expectedValue text)

theorem skipScalar_length {text rest : List Char} (h : skipScalar text = .ok rest) :
    rest.length < text.length := by
  unfold skipScalar at h
  split at h
  · exact Nat.lt_succ_of_le (readLetters_length h)
  · exact Nat.lt_succ_of_le (readLetters_length h)
  · exact Nat.lt_succ_of_le (readLetters_length h)
  · exact Nat.lt_succ_of_lt (skipNumber_length h)
  · exact Nat.lt_succ_of_lt (skipString_length h)
  · split at h
    · exact skipNumber_length h
    · cases h

/-- The fault of stopping inside a bracket. -/
def Bracket.unclosed : Bracket → Cause
  | list => .endOfList
  | object => .endOfObject

/-- The brackets still open, innermost first, what is due inside them, and the text left. -/
structure SkipState where
  opened : List Bracket
  due : Due
  text : List Char

namespace SkipState

/-- One value ended. -/
def ended (opened : List Bracket) (text : List Char) : SkipState := ⟨opened, .comma, text⟩

/-- Takes a key, behind its opening quote. -/
def takeKey (opened : List Bracket) (text : List Char) : Except Fault SkipState :=
  (skipString text).map fun rest => ⟨opened, .colon, skipBlank rest⟩

/-- Takes a whole scalar, or one bracket, comma, colon or key. -/
def step (s : SkipState) : Except Fault SkipState :=
  match s.due, s.opened, s.text with
  | .comma, .list :: opened, ']' :: rest => .ok (ended opened rest)
  | .comma, .object :: opened, '\x7d' :: rest => .ok (ended opened rest)
  | .comma, .list :: opened, ',' :: rest => .ok ⟨.list :: opened, .value, skipBlank rest⟩
  | .comma, .object :: opened, ',' :: rest => .ok ⟨.object :: opened, .key, skipBlank rest⟩
  | .first, .list :: opened, ']' :: rest => .ok (ended opened rest)
  | .first, .object :: opened, '\x7d' :: rest => .ok (ended opened rest)
  | .colon, opened, ':' :: rest => .ok ⟨opened, .value, skipBlank rest⟩
  | .first, .object :: opened, '"' :: rest => takeKey (.object :: opened) rest
  | .key, .object :: opened, '"' :: rest => takeKey (.object :: opened) rest
  | .value, _, [] => .error (.before .endOfValue [])
  | _, opened, [] => .error (.before ((opened.head?.map Bracket.unclosed).getD .endOfValue) [])
  | .comma, .list :: _, text => .error (.next .expectedCommaOrBracket text)
  | .comma, _, text => .error (.next .expectedCommaOrBrace text)
  | .colon, _, text => .error (.next .expectedColon text)
  | .key, _, text => .error (.next .keyMustBeString text)
  | .first, .object :: _, text => .error (.next .keyMustBeString text)
  | _, opened, '[' :: rest => .ok ⟨.list :: opened, .first, skipBlank rest⟩
  | _, opened, '\x7b' :: rest => .ok ⟨.object :: opened, .first, skipBlank rest⟩
  | _, opened, text => (skipScalar text).map (ended opened)

theorem takeKey_length {opened : List Bracket} {text : List Char} {next : SkipState}
    (h : takeKey opened text = .ok next) : next.text.length < text.length := by
  unfold takeKey at h
  match hs : skipString text, h with
  | .ok rest, h =>
    cases h
    exact Nat.lt_of_le_of_lt (skipBlank_length rest) (skipString_length hs)

/-- Every step shortens the text. -/
theorem step_length {s next : SkipState} (h : s.step = .ok next) :
    next.text.length < s.text.length := by
  have blank (c : Char) (rest : List Char) : (skipBlank rest).length < (c :: rest).length :=
    Nat.lt_succ_of_le (skipBlank_length rest)
  unfold step at h
  split at h
  case h_8 | h_9 => rw [‹s.text = _›]; exact Nat.lt_succ_of_lt (takeKey_length h)
  case h_19 =>
    match hs : skipScalar s.text, h with
    | .ok rest, h =>
      cases h
      exact skipScalar_length hs
  all_goals first
    | cases h; rw [‹s.text = _›]; exact blank _ _
    | cases h; rw [‹s.text = _›]; exact Nat.lt_succ_self _
    | cases h

end SkipState

/-- Steps until no bracket is open and the value has ended. Blanks are passed over only while a
bracket is open. -/
def skipFrom (s : SkipState) : Except Fault (List Char) :=
  match _h : s.step with
  | .error fault => .error fault
  | .ok next =>
    if next.due = .comma ∧ next.opened = [] then .ok next.text
    else skipFrom { next with text := skipBlank next.text }
termination_by s.text.length
decreasing_by
  have := SkipState.step_length ‹_›
  have := skipBlank_length next.text
  show (skipBlank next.text).length < s.text.length
  omega

theorem skipFrom_length {s : SkipState} {rest : List Char} (h : skipFrom s = .ok rest) :
    rest.length < s.text.length := by
  fun_induction skipFrom s with
  | case1 => cases h
  | case2 s next hs =>
    cases h
    exact SkipState.step_length hs
  | case3 s next hs _ ih =>
    have := SkipState.step_length hs
    exact Nat.lt_trans (Nat.lt_of_lt_of_le (ih h) (skipBlank_length next.text)) this

/-- Passes over a value, with the blanks before it. -/
def skipValue (text : List Char) : Except Fault (List Char) :=
  skipFrom ⟨[], .value, skipBlank text⟩

theorem skipValue_length {text rest : List Char} (h : skipValue text = .ok rest) :
    rest.length < text.length :=
  Nat.lt_of_lt_of_le (skipFrom_length h) (skipBlank_length text)

end ToolHost.Json
