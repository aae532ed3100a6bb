import ToolHost.Json.Scalar
import ToolHost.Json.Skip

/-! Objects and lists, read part by part. -/
namespace ToolHost.Json

/-- Looks for the next member of an object: true, with the text behind the opening quote of its
key, or false, with the text behind the closing brace. -/
def nextKey (first : Bool) (text : List Char) : Reading Bool :=
  match skipBlank text with
  | [] => .error (.before .endOfObject [])
  | '\x7d' :: rest => .ok (false, rest)
  | c :: rest =>
    if first then
      if c = '"' then .ok (true, rest) else .error (.next .keyMustBeString (c :: rest))
    else if c = ',' then
      match skipBlank rest with
      | [] => .error (.before .endOfValue [])
      | '"' :: rest => .ok (true, rest)
      | '\x7d' :: rest => .error (.next .trailingComma ('\x7d' :: rest))
      | rest => .error (.next .keyMustBeString rest)
    else .error (.next .expectedCommaOrBrace (c :: rest))

theorem nextKey_length {first found : Bool} {text rest : List Char}
    (h : nextKey first text = .ok (found, rest)) : rest.length < text.length := by
  refine Nat.lt_of_lt_of_le ?_ (skipBlank_length text)
  unfold nextKey at h
  split at h
  case h_1 => cases h
  case h_2 left heq =>
    cases h
    rw [heq]
    exact Nat.lt_succ_self _
  case h_3 c left _ heq =>
    rw [heq]
    split at h
    · split at h <;> cases h
      exact Nat.lt_succ_self _
    · split at h
      · have := skipBlank_length left
        split at h <;> cases h
        rename_i hl
        rw [hl] at this
        exact Nat.lt_succ_of_lt this
      · cases h

/-- Passes over the colon behind a key. -/
def readColon (text : List Char) : Except Fault (List Char) :=
  match skipBlank text with
  | [] => .error (.before .endOfObject [])
  | ':' :: rest => .ok rest
  | rest => .error (.next .expectedColon rest)

theorem readColon_length {text rest : List Char} (h : readColon text = .ok rest) :
    rest.length < text.length := by
  refine Nat.lt_of_lt_of_le ?_ (skipBlank_length text)
  unfold readColon at h
  split at h <;> cases h
  rename_i heq
  rw [heq]
  exact Nat.lt_succ_self _

/-- The place where an object is complained about as a whole: behind the brace if that is next. -/
def pastBrace (text : List Char) : List Char :=
  match skipBlank text with
  | '\x7d' :: rest => rest
  | rest => rest

/-- What an object does with the member of some name. -/
inductive Member (σ : Type) where
  /-- Its value is passed over. -/
  | unknown
  /-- It must not be there again. -/
  | repeated
  | known (reader : Reader σ)

/-- A member that may be given once. -/
def Member.once (met : Option α) (reader : Reader α) (put : α → σ) : Member σ :=
  if met.isSome then .repeated else .known (reader.map put)

/-- Reads the value of a member, with the colon before it. -/
def Member.readValue (state : σ) (key : String) (text : List Char) : Member σ → Reading σ
  | repeated => .error (.before (.duplicateField key) (pastBrace text))
  | unknown =>
    (readColon text).bind fun rest => (skipValue rest).map fun rest => (state, rest)
  | known reader => (readColon text).bind reader.read

theorem Member.readValue_length {state a : σ} {key : String} {text rest : List Char}
    {member : Member σ} (h : member.readValue state key text = .ok (a, rest)) :
    rest.length < text.length := by
  unfold readValue at h
  split at h
  case h_1 => cases h
  case h_2 =>
    match hc : readColon text, h with
    | .ok left, h =>
      change (skipValue left).map (fun rest => (state, rest)) = _ at h
      match hs : skipValue left, h with
      | .ok _, h =>
        cases h
        exact Nat.lt_trans (skipValue_length hs) (readColon_length hc)
  case h_3 reader =>
    match hc : readColon text, h with
    | .ok left, h => exact Nat.lt_trans (reader.shortens h) (readColon_length hc)

/-- Reads members up to the closing brace, starting behind the opening one or behind a member. -/
def readMembers (member : σ → String → Member σ) (first : Bool) (state : σ) (text : List Char) :
    Reading σ :=
  match _hk : nextKey first text with
  | .error fault => .error fault
  | .ok (false, rest) => .ok (state, rest)
  | .ok (true, behindQuote) =>
    match _hs : readString behindQuote with
    | .error fault => .error fault
    | .ok (key, behindKey) =>
      match _hv : (member state (String.ofList key)).readValue state (String.ofList key) behindKey with
      | .error fault => .error fault
      | .ok (state, rest) => readMembers member false state rest
termination_by text.length
decreasing_by
  exact Nat.lt_trans (Member.readValue_length ‹_›)
    (Nat.lt_trans (readString_length ‹_›) (nextKey_length ‹_›))

theorem readMembers_length {member : σ → String → Member σ} {first : Bool} {state a : σ}
    {text rest : List Char} (h : readMembers member first state text = .ok (a, rest)) :
    rest.length < text.length := by
  fun_induction readMembers member first state text with
  | case1 => cases h
  | case2 first state text left hk =>
    cases h
    exact nextKey_length hk
  | case3 => cases h
  | case4 => cases h
  | case5 first state text behindQuote hk key behindKey hs state' left hv ih =>
    exact Nat.lt_trans (ih h) (Nat.lt_trans (Member.readValue_length hv)
      (Nat.lt_trans (readString_length hs) (nextKey_length hk)))

/-- Reads the members of an object behind its opening brace. -/
def members (member : σ → String → Member σ) (state : σ) : Reader σ where
  read := readMembers member true state
  shortens := readMembers_length

/-- Reads the next element of a list, if there is one; the closing bracket stays. -/
def readElement (first : Bool) (reader : Reader α) (text : List Char) : Reading (Option α) :=
  match skipBlank text with
  | [] => .error (.before .endOfList [])
  | ']' :: rest => .ok (none, ']' :: rest)
  | c :: rest =>
    if first then (reader.map some).read (c :: rest)
    else if c = ',' then
      match skipBlank rest with
      | [] => .error (.before .endOfValue [])
      | ']' :: rest => .error (.next .trailingComma (']' :: rest))
      | rest => (reader.map some).read rest
    else .error (.next .expectedCommaOrBracket (c :: rest))

theorem readElement_length {first : Bool} {reader : Reader α} {text rest : List Char}
    {a : Option α} (h : readElement first reader text = .ok (a, rest)) :
    rest.length ≤ text.length := by
  refine Nat.le_trans ?_ (skipBlank_length text)
  unfold readElement at h
  split at h
  case h_1 => cases h
  case h_2 heq =>
    cases h
    exact Nat.le_of_eq (congrArg List.length heq.symm)
  case h_3 c left _ heq =>
    rw [heq]
    split at h
    · exact Nat.le_of_lt (Reader.shortens _ h)
    · split at h
      · split at h
        · cases h
        · cases h
        · exact Nat.le_succ_of_le (Nat.le_trans (Nat.le_of_lt (Reader.shortens _ h))
            (skipBlank_length left))
      · cases h

/-- Passes over the end of a list that must not go on. -/
def closeList (text : List Char) : Except Fault (List Char) :=
  match skipBlank text with
  | [] => .error (.before .endOfList [])
  | ']' :: rest => .ok rest
  | ',' :: rest =>
    let rest := skipBlank rest
    .error (.next (if rest.head? = some ']' then .trailingComma else .trailingCharacters) rest)
  | rest => .error (.next .trailingCharacters rest)

theorem closeList_length {text rest : List Char} (h : closeList text = .ok rest) :
    rest.length < text.length := by
  refine Nat.lt_of_lt_of_le ?_ (skipBlank_length text)
  unfold closeList at h
  split at h <;> cases h
  rename_i heq
  rw [heq]
  exact Nat.lt_succ_self _

/-- The place where a list is complained about as a whole: behind the bracket or comma if that is
next. -/
def pastBracket (text : List Char) : List Char :=
  match skipBlank text with
  | ']' :: rest => rest
  | ',' :: rest => skipBlank rest
  | rest => rest

/-- Reads a record: an object of its fields, or a list of them in their order. -/
def record (wanted : String) (members elements : Reader α) : Reader α where
  read text :=
    match skipBlank text with
    | '\x7b' :: rest => members.read rest
    | '[' :: rest => elements.read rest
    | text => (expect wanted fun _ => none).read text
  shortens {text rest a} h := by
    refine Nat.lt_of_lt_of_le ?_ (skipBlank_length text)
    split at h
    · rename_i heq
      rw [heq]
      exact Nat.lt_succ_of_lt (members.shortens h)
    · rename_i heq
      rw [heq]
      exact Nat.lt_succ_of_lt (elements.shortens h)
    · exact Reader.shortens _ h

/-- Reads the one value that a text holds. -/
def readDocument (reader : Reader α) (text : List Char) : Except Fault α :=
  match reader.read text with
  | .error fault => .error fault
  | .ok (a, rest) =>
    match skipBlank rest with
    | [] => .ok a
    | rest => .error (.next .trailingCharacters rest)

end ToolHost.Json
