import ToolHost.Decimal.Shortest
import ToolHost.Json.Text

/-! The numbers of a JSON text. Whole numbers below `2 ^ 64` are exact; every other number is a
double, computed from the leading digits that fit 64 bits and one power of ten. -/
namespace ToolHost.Json

/-- A number as it is spelled, without its minus sign. -/
structure Numeral where
  whole : List Char
  /-- The digits behind the point. -/
  fraction : Option (List Char)
  /-- Whether the exponent is negative, and its digits. -/
  exponent : Option (Bool × List Char)
  deriving DecidableEq, Repr

/-- The digits at the front of a text, and the rest. -/
def spanDigits (text : List Char) : List Char × List Char :=
  (text.takeWhile Char.isDigit, text.dropWhile Char.isDigit)

theorem spanDigits_length (text : List Char) : (spanDigits text).2.length ≤ text.length :=
  (List.dropWhile_sublist _).length_le

/-- Reads the whole part of a number, which has no needless leading zero. -/
def readWhole : List Char → Reading (List Char)
  | [] => .error (.before .endOfValue [])
  | c :: rest =>
    if c = '0' then
      if (rest.head?.map Char.isDigit).getD false then .error (.next .invalidNumber rest)
      else .ok (['0'], rest)
    else if c.isDigit then .ok (spanDigits (c :: rest))
    else .error (.next .invalidNumber (c :: rest))

/-- Reads a point and the digits behind it, if there is a point. -/
def readFraction : List Char → Reading (Option (List Char))
  | '.' :: rest =>
    let (digits, after) := spanDigits rest
    if digits.isEmpty then
      .error (.next (if rest.isEmpty then .endOfValue else .invalidNumber) rest)
    else .ok (some digits, after)
  | text => .ok (none, text)

/-- Splits a sign off: whether it is a minus, and the rest. -/
def splitSign : List Char → Bool × List Char
  | '-' :: rest => (true, rest)
  | '+' :: rest => (false, rest)
  | text => (false, text)

/-- Reads an exponent, if there is one. -/
def readExponent : List Char → Reading (Option (Bool × List Char))
  | c :: rest =>
    if c = 'e' ∨ c = 'E' then
      let (negative, rest) := splitSign rest
      let (digits, after) := spanDigits rest
      if digits.isEmpty then
        .error (.next (if rest.isEmpty then .endOfValue else .invalidNumber) rest)
      else .ok (some (negative, digits), after)
    else .ok (none, c :: rest)
  | [] => .ok (none, [])

/-- Reads a number behind its minus sign. -/
def readNumeral (text : List Char) : Reading Numeral :=
  match readWhole text with
  | .error fault => .error fault
  | .ok (whole, rest) =>
    match readFraction rest with
    | .error fault => .error fault
    | .ok (fraction, rest) =>
      match readExponent rest with
      | .error fault => .error fault
      | .ok (exponent, rest) => .ok (⟨whole, fraction, exponent⟩, rest)

theorem readWhole_length {text digits rest : List Char} (h : readWhole text = .ok (digits, rest)) :
    rest.length < text.length := by
  unfold readWhole at h
  split at h
  · cases h
  · rename_i c after
    split at h
    · split at h
      · cases h
      · cases h
        simp
    · split at h
      · rename_i hd
        have hs : spanDigits (c :: after) = (c :: (spanDigits after).1, (spanDigits after).2) := by
          simp [spanDigits, hd]
        rw [hs] at h
        cases h
        exact Nat.lt_succ_of_le (spanDigits_length after)
      · cases h

theorem readFraction_length {text rest : List Char} {digits : Option (List Char)}
    (h : readFraction text = .ok (digits, rest)) : rest.length ≤ text.length := by
  unfold readFraction at h
  split at h
  · rename_i after
    dsimp only at h
    split at h
    · cases h
    · cases h
      exact Nat.le_succ_of_le (spanDigits_length after)
  · cases h
    exact Nat.le_refl _

theorem splitSign_length (text : List Char) : (splitSign text).2.length ≤ text.length := by
  unfold splitSign
  split <;> simp

theorem readExponent_length {text rest : List Char} {e : Option (Bool × List Char)}
    (h : readExponent text = .ok (e, rest)) : rest.length ≤ text.length := by
  unfold readExponent at h
  split at h
  · rename_i c after
    split at h
    · dsimp only at h
      split at h
      · cases h
      · cases h
        have h₁ := spanDigits_length (splitSign after).2
        have h₂ := splitSign_length after
        simp only [List.length_cons]
        omega
    · cases h
      exact Nat.le_refl _
  · cases h
    exact Nat.le_refl _

theorem readNumeral_length {text rest : List Char} {n : Numeral}
    (h : readNumeral text = .ok (n, rest)) : rest.length < text.length := by
  unfold readNumeral at h
  split at h
  · cases h
  · rename_i hw
    split at h
    · cases h
    · rename_i hf
      split at h
      · cases h
      · rename_i he
        cases h
        have h₁ := readWhole_length hw
        have h₂ := readFraction_length hf
        have h₃ := readExponent_length he
        omega

def digitValue (c : Char) : Nat := c.toNat - '0'.toNat

/-- The value of a run of digits. -/
def digitsValue (digits : List Char) : Nat :=
  digits.foldl (fun n c => n * 10 + digitValue c) 0

/-- Appends digits to a number as long as it stays at most `limit`; the digits left over start with
the first one that does not fit. -/
def absorb (limit n : Nat) : List Char → Nat × List Char
  | [] => (n, [])
  | c :: digits =>
    let next := n * 10 + digitValue c
    if next ≤ limit then absorb limit next digits else (n, c :: digits)

/-- The greatest exponent that is still computed with. -/
def greatestExponent : Nat := 0x7fffffff

/-- The greatest whole number. -/
def greatestWhole : Nat := 0xffffffffffffffff

/-- The greatest whole number that may stand behind a minus sign. -/
def greatestNegative : Nat := 0x8000000000000000

/-- The digits of a number that fit 64 bits, and the power of ten they are to be taken by. Whole
digits that do not fit count as zeros; digits behind the point that do not fit are dropped. -/
def Numeral.significant (n : Numeral) : Nat × Int :=
  let (value, excess) := absorb greatestWhole 0 n.whole
  let fraction := n.fraction.getD []
  let (value, unused) := absorb greatestWhole value fraction
  (value, (excess.length : Int) - (fraction.length - unused.length : Nat))

def tenToThe (n : Nat) : Float := Float.ofScientific 1 false n

/-- `value * 10 ^ exponent`, with one rounding for the value and one for each power of ten taken;
nothing if that is too large for a double. -/
def scale? (value : Nat) (exponent : Int) : Option Float :=
  let x := (UInt64.ofNat value).toFloat
  if value = 0 then some x
  else if 308 < exponent then none
  else if 0 ≤ exponent then
    let y := x * tenToThe exponent.toNat
    if y.isInf then none else some y
  else if -308 ≤ exponent then some (x / tenToThe (-exponent).toNat)
  else if -616 ≤ exponent then some (x / tenToThe 308 / tenToThe (-exponent - 308).toNat)
  else some 0

/-- A number of a JSON text. -/
inductive Number where
  | integer (value : Int)
  | fractional (value : Float)

/-- How a double is written in a complaint. -/
def floatStyle : Decimal.Style := ⟨-5, 15, "e", "+"⟩

def Number.found : Number → Found
  | integer value => .integer value
  | fractional value => .fractional (floatStyle.text value)

/-- The double that a number stands for, given what follows the number in the text. An exponent too
large to compute with is reported at its first digit too many. -/
def Numeral.double (negative : Bool) (n : Numeral) (rest : List Char) : Except Fault Float :=
  let (value, shift) := n.significant
  let (down, digits) := n.exponent.getD (false, [])
  let (exponent, excess) := absorb greatestExponent 0 digits
  let signed (x : Float) : Float := if negative then -x else x
  match excess with
  | _ :: excess =>
    if value = 0 ∨ down then .ok (signed 0) else .error (.before .numberOutOfRange (excess ++ rest))
  | [] =>
    match scale? value (if down then shift - exponent else shift + exponent) with
    | some x => .ok (signed x)
    | none => .error (.before .numberOutOfRange rest)

/-- Whether a number is spelled with digits only. -/
def Numeral.isWhole (n : Numeral) : Bool := n.fraction.isNone && n.exponent.isNone

/-- Reads a number behind its minus sign. -/
def readNumber (negative : Bool) (text : List Char) : Reading Number :=
  match readNumeral text with
  | .error fault => .error fault
  | .ok (n, rest) =>
    let value := digitsValue n.whole
    if n.isWhole && !negative && value ≤ greatestWhole then .ok (.integer value, rest)
    else if n.isWhole && negative && 0 < value && value ≤ greatestNegative then
      .ok (.integer (-value), rest)
    else
      match n.double negative rest with
      | .error fault => .error fault
      | .ok x => .ok (.fractional x, rest)

theorem readNumber_length {negative : Bool} {text rest : List Char} {n : Number}
    (h : readNumber negative text = .ok (n, rest)) : rest.length < text.length := by
  unfold readNumber at h
  split at h
  · cases h
  · rename_i hn
    have hl := readNumeral_length hn
    dsimp only at h
    split at h
    · cases h
      exact hl
    · split at h
      · cases h
        exact hl
      · split at h
        · cases h
        · cases h
          exact hl

end ToolHost.Json
