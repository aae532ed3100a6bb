import ToolHost.Json.Parts

/-! Readings made of others, one after the other. Each is given as a chain, so that what holds of
every link can be carried along it. -/
namespace ToolHost.Json

variable {α β σ : Type} {fault : Fault} {text rest : List Char}

/-- What a chain gives was given by its links. -/
theorem exists_of_bind_eq_ok {ε α β : Type} {x : Except ε α} {f : α → Except ε β} {b : β}
    (h : x.bind f = .ok b) : ∃ a, x = .ok a ∧ f a = .ok b := by
  cases x with
  | error e => cases h
  | ok a => exact ⟨a, rfl, h⟩

theorem exists_of_map_eq_ok {ε α β : Type} {x : Except ε α} {f : α → β} {b : β}
    (h : x.map f = .ok b) : ∃ a, x = .ok a ∧ f a = b := by
  cases x with
  | error e => cases h
  | ok a =>
    cases h
    exact ⟨a, rfl, rfl⟩

theorem Reader.read_check (reader : Reader α) (judge : α → List Char → Except Fault β)
    (text : List Char) : (reader.check judge).read text =
      (reader.read text).bind fun (a, rest) => (judge a rest).map fun b => (b, rest) := by
  simp only [Reader.check]
  cases reader.read text with
  | error fault => rfl
  | ok found => rfl

theorem Reader.read_map (f : α → β) (reader : Reader α) (text : List Char) :
    (reader.map f).read text = (reader.read text).map fun (a, rest) => (f a, rest) := by
  rw [Reader.map, Reader.read_check]
  cases reader.read text with
  | error fault => rfl
  | ok found => rfl

/-- The members of an object: a key, its value, and the members behind them. -/
theorem readMembers_eq (member : σ → String → Member σ) (first : Bool) (s : σ) (text : List Char) :
    readMembers member first s text = (nextKey first text).bind fun (found, rest) =>
      if found then
        (readString rest).bind fun (key, rest) =>
          ((member s (String.ofList key)).readValue s (String.ofList key) rest).bind
            fun (s, rest) => readMembers member false s rest
      else .ok (s, rest) := by
  rw [readMembers]
  split
  · rename_i hkey
    rw [hkey]
    rfl
  · rename_i hkey
    rw [hkey]
    rfl
  · rename_i hkey
    rw [hkey]
    dsimp only [Except.bind]
    rw [if_pos rfl]
    split
    · rename_i hname
      rw [hname]
    · rename_i hname
      rw [hname]
      dsimp only
      split
      · rename_i hvalue
        rw [hvalue]
      · rename_i hvalue
        rw [hvalue]

/-- Looks for the next element of a list: true, with the text from the element on, or false, with the
text from the closing bracket on. -/
def nextElement (first : Bool) (text : List Char) : Reading Bool :=
  match skipBlank text with
  | [] => .error (.before .endOfList [])
  | ']' :: rest => .ok (false, ']' :: rest)
  | c :: rest =>
    if first then .ok (true, c :: rest)
    else if c = ',' then
      match skipBlank rest with
      | [] => .error (.before .endOfValue [])
      | ']' :: rest => .error (.next .trailingComma (']' :: rest))
      | rest => .ok (true, rest)
    else .error (.next .expectedCommaOrBracket (c :: rest))

/-- An element is looked for, and then it is read. -/
theorem readElement_eq (first : Bool) (reader : Reader α) (text : List Char) :
    readElement first reader text = (nextElement first text).bind fun (found, rest) =>
      if found then (reader.map some).read rest else .ok (none, rest) := by
  unfold readElement nextElement
  generalize skipBlank text = left
  split
  · rfl
  · rfl
  · rename_i c rest hclose
    cases first with
    | true => simp [Except.bind]
    | false =>
      by_cases hcomma : c = ','
      · subst hcomma
        simp only [Bool.false_eq_true, if_false, if_true]
        generalize skipBlank rest = left
        split
        · rfl
        · rfl
        · simp [Except.bind]
      · simp [Except.bind, hcomma]

theorem record_of_brace (h : skipBlank text = '\x7b' :: rest) (wanted : String)
    (members elements : Reader α) : (record wanted members elements).read text = members.read rest := by
  simp only [record, h]

theorem record_of_bracket (h : skipBlank text = '[' :: rest) (wanted : String)
    (members elements : Reader α) :
    (record wanted members elements).read text = elements.read rest := by
  simp only [record, h]

/-- What is neither an object nor a list is no record. -/
theorem record_of_other (hbrace : ∀ rest, skipBlank text ≠ '\x7b' :: rest)
    (hbracket : ∀ rest, skipBlank text ≠ '[' :: rest) (wanted : String)
    (members elements : Reader α) : (record wanted members elements).read text =
      (expect wanted fun _ => none).read (skipBlank text) := by
  simp only [record]

/-- A reader to which nothing is acceptable. -/
theorem exists_expect_none_error (wanted : String) (text : List Char) :
    ∃ fault, (expect wanted fun _ => (none : Option α)).read text = .error fault := by
  simp only [expect]
  split
  · exact ⟨_, rfl⟩
  · exact ⟨_, rfl⟩
  · split
    · exact ⟨_, rfl⟩
    · exact ⟨_, rfl⟩

end ToolHost.Json
