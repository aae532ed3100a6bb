import ToolHost.Json.Fault

/-! The words, blanks and strings of a JSON text. -/
namespace ToolHost.Json

def isBlank (c : Char) : Bool := c == ' ' || c == '\n' || c == '\t' || c == '\r'

/-- The text from its first visible character on. -/
def skipBlank (text : List Char) : List Char := text.dropWhile isBlank

theorem skipBlank_length (text : List Char) : (skipBlank text).length ≤ text.length :=
  (List.dropWhile_sublist _).length_le

/-- Reads the given letters, the remaining ones of a word. -/
def readLetters : List Char → List Char → Except Fault (List Char)
  | [], rest => .ok rest
  | _ :: _, [] => .error (.before .endOfValue [])
  | e :: letters, c :: rest =>
    if c = e then readLetters letters rest else .error (.next .expectedIdent (c :: rest))

theorem readLetters_length {letters text rest : List Char} (h : readLetters letters text = .ok rest) :
    rest.length ≤ text.length := by
  induction letters generalizing text with
  | nil =>
    cases h
    exact Nat.le_refl _
  | cons e letters ih =>
    cases text with
    | nil => cases h
    | cons c text =>
      rw [readLetters] at h
      split at h
      · exact Nat.le_succ_of_le (ih h)
      · cases h

def hexDigit? (c : Char) : Option Nat :=
  if '0' ≤ c ∧ c ≤ '9' then some (c.toNat - '0'.toNat)
  else if 'a' ≤ c ∧ c ≤ 'f' then some (c.toNat - 'a'.toNat + 10)
  else if 'A' ≤ c ∧ c ≤ 'F' then some (c.toNat - 'A'.toNat + 10)
  else none

/-- The value of four hexadecimal digits. -/
def hexValue? (a b c d : Char) : Option Nat := do
  let a ← hexDigit? a
  let b ← hexDigit? b
  let c ← hexDigit? c
  let d ← hexDigit? d
  return ((a * 16 + b) * 16 + c) * 16 + d

/-- The fault of having no four digits at the front. Four bytes are looked at in any case, so it
depends on them whether the text is too short or wrong. -/
def hexFault (text : List Char) : Fault :=
  if (text.take 4).foldl (fun n c => n + c.utf8Size) 0 < 4 then .before .endOfString []
  else ⟨.invalidEscape, text, 4⟩

/-- Reads four hexadecimal digits. -/
def readHex (text : List Char) : Reading Nat :=
  match text with
  | a :: b :: c :: d :: rest =>
    match hexValue? a b c d with
    | some n => .ok (n, rest)
    | none => .error (hexFault text)
  | _ => .error (hexFault text)

def isLeadingSurrogate (n : Nat) : Bool := 0xD800 ≤ n && n ≤ 0xDBFF

def isTrailingSurrogate (n : Nat) : Bool := 0xDC00 ≤ n && n ≤ 0xDFFF

/-- The character that two surrogates stand for. -/
def joinSurrogates (high low : Nat) : Char :=
  Char.ofNat ((high - 0xD800) * 0x400 + (low - 0xDC00) + 0x10000)

/-- Reads the trailing half of a pair of surrogates: an escape of its own, directly behind the
leading half. -/
def readTrailingSurrogate (high : Nat) : List Char → Reading Char
  | [] => .error (.before .endOfString [])
  | '\\' :: [] => .error (.before .endOfString [])
  | '\\' :: 'u' :: rest =>
    match readHex rest with
    | .error fault => .error fault
    | .ok (low, rest) =>
      if isTrailingSurrogate low then .ok (joinSurrogates high low, rest)
      else .error (.before .loneSurrogate rest)
  | '\\' :: rest => .error (.next .brokenHexEscape rest)
  | rest => .error (.next .brokenHexEscape rest)

/-- Reads what follows the `u` of an escape. -/
def readUnicodeEscape (text : List Char) : Reading Char :=
  match readHex text with
  | .error fault => .error fault
  | .ok (n, rest) =>
    if isTrailingSurrogate n then .error (.before .loneSurrogate rest)
    else if isLeadingSurrogate n then readTrailingSurrogate n rest
    else .ok (Char.ofNat n, rest)

/-- The character that a one-letter escape stands for. -/
def simpleEscape? : Char → Option Char
  | '"' => some '"'
  | '\\' => some '\\'
  | '/' => some '/'
  | 'b' => some '\x08'
  | 'f' => some '\x0c'
  | 'n' => some '\n'
  | 'r' => some '\r'
  | 't' => some '\t'
  | _ => none

/-- Reads what follows a backslash. -/
def readEscape : List Char → Reading Char
  | [] => .error (.before .endOfString [])
  | 'u' :: rest => readUnicodeEscape rest
  | c :: rest =>
    match simpleEscape? c with
    | some e => .ok (e, rest)
    | none => .error (.next .invalidEscape (c :: rest))

def isControl (c : Char) : Bool := c.toNat < 0x20

theorem readHex_length {text rest : List Char} {n : Nat} (h : readHex text = .ok (n, rest)) :
    rest.length < text.length := by
  unfold readHex at h
  split at h
  · split at h
    · obtain ⟨-, rfl⟩ := Prod.mk.inj (Except.ok.inj h)
      simp only [List.length_cons]
      omega
    · simp at h
  · simp at h

theorem readTrailingSurrogate_length {high : Nat} {text rest : List Char} {c : Char}
    (h : readTrailingSurrogate high text = .ok (c, rest)) : rest.length < text.length := by
  unfold readTrailingSurrogate at h
  split at h
  · simp at h
  · simp at h
  · split at h
    · simp at h
    · rename_i heq
      have := readHex_length heq
      split at h
      · obtain ⟨-, rfl⟩ := Prod.mk.inj (Except.ok.inj h)
        simp only [List.length_cons]
        omega
      · simp at h
  · simp at h
  · simp at h

theorem readUnicodeEscape_length {text rest : List Char} {c : Char}
    (h : readUnicodeEscape text = .ok (c, rest)) : rest.length < text.length := by
  unfold readUnicodeEscape at h
  split at h
  · simp at h
  · rename_i heq
    have hlt := readHex_length heq
    split at h
    · simp at h
    · split at h
      · exact Nat.lt_trans (readTrailingSurrogate_length h) hlt
      · obtain ⟨-, rfl⟩ := Prod.mk.inj (Except.ok.inj h)
        exact hlt

theorem readEscape_length {text rest : List Char} {c : Char} (h : readEscape text = .ok (c, rest)) :
    rest.length < text.length := by
  unfold readEscape at h
  split at h
  · simp at h
  · have := readUnicodeEscape_length h
    simp only [List.length_cons]
    omega
  · split at h
    · obtain ⟨-, rfl⟩ := Prod.mk.inj (Except.ok.inj h)
      simp
    · simp at h

/-- Reads the rest of a string, up to and with its closing quote. -/
def readString (text : List Char) : Reading (List Char) :=
  match text with
  | [] => .error (.before .endOfString [])
  | '"' :: rest => .ok ([], rest)
  | '\\' :: rest =>
    match _h : readEscape rest with
    | .error fault => .error fault
    | .ok (c, after) => (readString after).map fun (cs, rest) => (c :: cs, rest)
  | c :: rest =>
    if isControl c then .error (.next .controlCharacter (c :: rest))
    else (readString rest).map fun (cs, rest) => (c :: cs, rest)
termination_by text.length
decreasing_by
  · have := readEscape_length ‹_›
    simp only [List.length_cons]
    omega
  · simp

theorem readString_length {text rest cs : List Char} (h : readString text = .ok (cs, rest)) :
    rest.length < text.length := by
  fun_induction readString text generalizing cs with
  | case1 => simp at h
  | case2 after => simp_all
  | case3 => simp at h
  | case4 after c escaped heq ih =>
    have := readEscape_length heq
    match hr : readString escaped, h with
    | .ok (_, _), h =>
      simp only [Except.map, Except.ok.injEq, Prod.mk.injEq] at h
      have := ih (h.2 ▸ hr)
      simp only [List.length_cons]
      omega
  | case5 => simp at h
  | case6 c after _ _ _ ih =>
    match hr : readString after, h with
    | .ok (_, _), h =>
      simp only [Except.map, Except.ok.injEq, Prod.mk.injEq] at h
      have := ih (h.2 ▸ hr)
      simp only [List.length_cons]
      omega

end ToolHost.Json
