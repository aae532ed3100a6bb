import Mathlib.Data.List.Basic
import Mathlib.Tactic.IntervalCases
import ToolHost.Config.Printer
import ToolHost.Json.Scalar

/-! Strings, counts and truth values as they are written in a JSON text. A reader takes each for what
it says, whatever the text goes on with, except that the digits of a count must not go on. -/
namespace ToolHost.Json

open Config (escapeChar printString printBool)

section Strings

/-- A character that stands for itself. -/
theorem readString_cons {c : Char} (hquote : c ≠ '"') (hslash : c ≠ '\\')
    (hcontrol : isControl c = false) (rest : List Char) :
    readString (c :: rest) = (readString rest).map fun (cs, rest) => (c :: cs, rest) := by
  rw [readString]
  · simp [hcontrol]
  · exact hquote
  · exact hslash

/-- A character that is spelled by an escape. -/
theorem readString_escape {c : Char} {text rest : List Char}
    (h : readEscape text = .ok (c, rest)) :
    readString ('\\' :: text) = (readString rest).map fun (cs, rest) => (c :: cs, rest) := by
  rw [readString]
  split
  · simp_all
  · rename_i heq
    cases h.symm.trans heq
    rfl

theorem hexDigit?_digitChar {n : Nat} (h : n < 16) : hexDigit? (Nat.digitChar n) = some n := by
  interval_cases n <;> rfl

/-- Four digits are enough for a character below the surrogates; of a control character the first
two are zeros. -/
theorem readEscape_code {n : Nat} (h : n < 0x20) (rest : List Char) :
    readEscape ('u' :: '0' :: '0' :: Nat.digitChar (n / 16) :: Nat.digitChar (n % 16) :: rest) =
      .ok (Char.ofNat n, rest) := by
  have hvalue : hexValue? '0' '0' (Nat.digitChar (n / 16)) (Nat.digitChar (n % 16)) = some n := by
    rw [hexValue?, hexDigit?_digitChar (by omega), hexDigit?_digitChar (by omega)]
    show some (((0 * 16 + 0) * 16 + n / 16) * 16 + n % 16) = some n
    congr 1
    omega
  have hhigh : isLeadingSurrogate n = false := by simp [isLeadingSurrogate]; omega
  have hlow : isTrailingSurrogate n = false := by simp [isTrailingSurrogate]; omega
  simp [readEscape, readUnicodeEscape, readHex, hvalue, hhigh, hlow]

/-- However a character is written inside a string, it is read as that character. -/
theorem readString_escapeChar (c : Char) (rest : List Char) :
    readString (escapeChar c ++ rest) = (readString rest).map fun (cs, rest) => (c :: cs, rest) := by
  unfold escapeChar
  split
  case h_8 hquote hslash _ _ _ _ _ =>
    split
    · rename_i hcontrol
      have h := readEscape_code hcontrol rest
      rw [Char.ofNat_toNat] at h
      exact readString_escape h
    · rename_i hcontrol
      exact readString_cons hquote hslash (decide_eq_false hcontrol) rest
  all_goals exact readString_escape rfl

theorem readString_flatMap_escapeChar (cs rest : List Char) :
    readString (cs.flatMap escapeChar ++ '"' :: rest) = .ok (cs, rest) := by
  induction cs with
  | nil => rw [List.flatMap_nil, List.nil_append, readString]
  | cons c cs ih =>
    rw [List.flatMap_cons, List.append_assoc, readString_escapeChar, ih]
    rfl

end Strings

section Numbers

/-- A text that does not go on with the number before it. -/
def EndsNumber (rest : List Char) : Prop :=
  ∀ c ∈ rest.head?, c.isDigit = false ∧ c ≠ '.' ∧ c ≠ 'e' ∧ c ≠ 'E'

variable {digits rest : List Char}

/-- A text that does not go on with a digit. -/
def NoDigit (rest : List Char) : Prop := ∀ c ∈ rest.head?, c.isDigit = false

theorem EndsNumber.noDigit (h : EndsNumber rest) : NoDigit rest := fun c hc => (h c hc).1

theorem spanDigits_append (hdigits : ∀ c ∈ digits, c.isDigit) (hrest : NoDigit rest) :
    spanDigits (digits ++ rest) = (digits, rest) := by
  rw [spanDigits, List.takeWhile_append_of_pos hdigits, List.dropWhile_append_of_pos hdigits]
  cases rest with
  | nil => simp
  | cons c rest => simp [hrest c rfl]

/-- Digits are a whole part of a number if none of them is a needless zero at the front. -/
theorem readWhole_append (hne : digits ≠ []) (hdigits : ∀ c ∈ digits, c.isDigit)
    (hzero : digits.head? = some '0' → digits = ['0']) (hrest : NoDigit rest) :
    readWhole (digits ++ rest) = .ok (digits, rest) := by
  obtain ⟨c, more, rfl⟩ := List.exists_cons_of_ne_nil hne
  by_cases hc : c = '0'
  · obtain rfl : more = [] := by simpa [hc] using hzero
    have hnext : (rest.head?.map Char.isDigit).getD false = false := by
      cases rest with
      | nil => rfl
      | cons d rest => exact hrest d rfl
    simp [readWhole, hc, hnext]
  · rw [List.cons_append, readWhole, if_neg hc, if_pos (hdigits c List.mem_cons_self),
      ← List.cons_append, spanDigits_append hdigits hrest]

theorem readFraction_of_endsNumber (hrest : EndsNumber rest) :
    readFraction rest = .ok (none, rest) := by
  unfold readFraction
  split
  · exact absurd rfl (hrest '.' rfl).2.1
  · rfl

theorem readExponent_of_endsNumber (hrest : EndsNumber rest) :
    readExponent rest = .ok (none, rest) := by
  cases rest with
  | nil => rfl
  | cons c rest =>
    obtain ⟨-, -, he, hE⟩ := hrest c rfl
    simp [readExponent, he, hE]

theorem readNumeral_digits (hne : digits ≠ []) (hdigits : ∀ c ∈ digits, c.isDigit)
    (hzero : digits.head? = some '0' → digits = ['0']) (hrest : EndsNumber rest) :
    readNumeral (digits ++ rest) = .ok (⟨digits, none, none⟩, rest) := by
  simp only [readNumeral, readWhole_append hne hdigits hzero hrest.noDigit,
    readFraction_of_endsNumber hrest, readExponent_of_endsNumber hrest]

theorem digitsValue_toDigits (n : Nat) : digitsValue (Nat.toDigits 10 n) = n := by
  have h : Nat.ofDigitChars 10 (Nat.toDigits 10 n) 0 = n := Nat.ofDigitChars_ten_toDigits
  simpa [digitsValue, digitValue, Nat.ofDigitChars, Nat.mul_comm] using h

/-- No number is written with a needless zero. -/
theorem toDigits_of_head?_zero {n : Nat} (h : (Nat.toDigits 10 n).head? = some '0') :
    Nat.toDigits 10 n = ['0'] := by
  induction n using Nat.strongRecOn with
  | _ n ih =>
    by_cases hn : n < 10
    · rw [Nat.toDigits_of_lt_base hn] at h ⊢
      simpa using h
    · rw [Nat.toDigits_of_base_le (by decide) (Nat.not_lt.1 hn),
        List.head?_append_of_ne_nil _ Nat.toDigits_ne_nil] at h
      have hfront := ih (n / 10) (by omega) h
      have hvalue := digitsValue_toDigits (n / 10)
      rw [hfront] at hvalue
      have : n / 10 = 0 := hvalue.symm
      omega

theorem readNumber_toDigits {n : Nat} (hn : n ≤ greatestWhole) (hrest : EndsNumber rest) :
    readNumber false (Nat.toDigits 10 n ++ rest) = .ok (.integer n, rest) := by
  have hdigits : ∀ c ∈ Nat.toDigits 10 n, c.isDigit :=
    fun c hc => Nat.isDigit_of_mem_toDigits (by decide) (by decide) hc
  have hnumeral := readNumeral_digits Nat.toDigits_ne_nil hdigits toDigits_of_head?_zero hrest
  simp [readNumber, hnumeral, Numeral.isWhole, digitsValue_toDigits, hn]

end Numbers

/-- A text that any reader of values without parts takes for one of them. -/
structure Denotes (text : List Char) (found : Found) : Prop where
  starts : ∃ c ∈ text.head?, isBlank c = false ∧ c ≠ '[' ∧ c ≠ '\x7b'
  reads : ∀ {rest : List Char}, EndsNumber rest → readScalar (text ++ rest) = .ok (found, rest)

theorem denotes_printString (s : String) : Denotes (printString s) (.text s) where
  starts := ⟨'"', rfl, by decide⟩
  reads {rest} _ := by
    have h := readString_flatMap_escapeChar s.toList rest
    simp [printString, readScalar, h, Except.map]

theorem denotes_printBool (b : Bool) : Denotes (printBool b) (.boolean b) where
  starts := by cases b <;> exact ⟨_, rfl, by decide⟩
  reads _ := by cases b <;> rfl

theorem denotes_toDigits {n : Nat} (hn : n ≤ greatestWhole) :
    Denotes (Nat.toDigits 10 n) (.integer n) := by
  obtain ⟨c, more, hcons⟩ := List.exists_cons_of_ne_nil (Nat.toDigits_ne_nil (n := n) (b := 10))
  have hc : c.isDigit :=
    Nat.isDigit_of_mem_toDigits (by decide) (by decide) (hcons ▸ List.mem_cons_self)
  have hother (d : Char) (hd : d.isDigit = false) : c ≠ d := by
    rintro rfl
    simp [hd] at hc
  refine ⟨⟨c, by simp [hcons], ?_, hother _ rfl, hother _ rfl⟩, fun {rest} hrest => ?_⟩
  · simp [isBlank, hother]
  · have hnumber := readNumber_toDigits hn hrest
    rw [hcons, List.cons_append] at hnumber ⊢
    rw [readScalar]
    · rw [if_pos hc, hnumber]
      rfl
    all_goals exact hother _ rfl

end ToolHost.Json
