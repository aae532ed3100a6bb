import ToolHost.Proofs.Json.Spelling

/-! How numbers are spelled in a JSON text. A number goes on for as long as it can, so whether it is
taken as a whole depends on what is left of the text. -/
namespace ToolHost.Json

variable {α : Type} {fault : List Char → Fault}

section Parts

/-- A run of digits, of which there is one at least. -/
def Digits (t : List Char) : Prop := t ≠ [] ∧ ∀ c ∈ t, c.isDigit = true

theorem exact_requireDigits :
    Exact (requireDigits fault) NoDigit fun digits t => digits = t ∧ Digits t where
  found {text rest digits} h := by
    have htext : text = (spanDigits text).1 ++ (spanDigits text).2 :=
      (List.takeWhile_append_dropWhile (p := Char.isDigit) (l := text)).symm
    rw [requireDigits] at h
    split at h
    · cases h
    · rename_i hne
      have hspan : spanDigits text = (digits, rest) := Except.ok.inj h
      rw [hspan] at htext hne
      refine ⟨digits, ⟨rfl, by simpa using hne, fun c hc => ?_⟩, htext⟩
      have hdigits : digits = text.takeWhile Char.isDigit := (congrArg Prod.fst hspan).symm
      rw [hdigits] at hc
      exact List.mem_takeWhile_imp hc
  reads := by
    rintro t rest digits ⟨rfl, hne, hdigits⟩ hrest
    rw [requireDigits, spanDigits_append hdigits hrest]
    exact if_neg (by simpa using hne)

/-- The whole part of a number has no needless zero at its front. -/
def Whole (t : List Char) : Prop := Digits t ∧ (t.head? = some '0' → t = ['0'])

theorem exact_readWhole : Exact readWhole NoDigit fun whole t => whole = t ∧ Whole t where
  found {text rest whole} h := by
    cases text with
    | nil => cases h
    | cons c text =>
      by_cases hzero : c = '0'
      · subst hzero
        rw [readWhole, if_pos rfl] at h
        split at h
        · cases h
        · cases h
          exact ⟨['0'], ⟨rfl, ⟨by simp, by simp [Char.isDigit]⟩, fun _ => rfl⟩, rfl⟩
      · rw [readWhole, if_neg hzero] at h
        split at h
        · rename_i hdigit
          -- there is a digit, so the digits are those that are required
          have hdigits : requireDigits noDigit (c :: text) = .ok (whole, rest) := by
            rw [← h, requireDigits, spanDigits_cons hdigit]
            rfl
          obtain ⟨t, ⟨rfl, ht⟩, htext⟩ := exact_requireDigits.found hdigits
          refine ⟨whole, ⟨rfl, ht, fun hhead => ?_⟩, htext⟩
          obtain ⟨more, rfl⟩ := List.head?_eq_some_iff.1 hhead
          exact absurd (List.cons.inj htext).1 hzero
        · cases h
  reads := by
    rintro t rest whole ⟨rfl, ⟨hne, hdigits⟩, hzero⟩ hrest
    exact readWhole_append hne hdigits hzero hrest

/-- A sign, of which a number tells only whether it is a minus. -/
inductive Sign : Bool → List Char → Prop where
  | none : Sign false []
  | plus : Sign false ['+']
  | minus : Sign true ['-']

theorem exact_signedDigits : Exact (signedDigits fault) NoDigit
    fun found t => ∃ sign, Sign found.1 sign ∧ Digits found.2 ∧ t = sign ++ found.2 where
  found {text rest found} h := by
    have hparts (sign behind : List Char) (htext : text = sign ++ behind)
        (hsplit : (splitSign text).2 = behind) (hsign : Sign (splitSign text).1 sign) :
        ∃ t, (∃ sign, Sign found.1 sign ∧ Digits found.2 ∧ t = sign ++ found.2) ∧
          text = t ++ rest := by
      rw [signedDigits, hsplit] at h
      obtain ⟨⟨digits, left⟩, hdigits, hsame⟩ := exists_of_map_eq_ok h
      cases hsame
      obtain ⟨t, ⟨rfl, ht⟩, rfl⟩ := exact_requireDigits.found hdigits
      refine ⟨sign ++ digits, ⟨sign, hsign, ht, rfl⟩, ?_⟩
      rw [htext, List.append_assoc]
    cases text with
    | nil => exact hparts [] [] rfl rfl .none
    | cons c text =>
      by_cases hminus : c = '-'
      · subst hminus
        exact hparts ['-'] text rfl rfl .minus
      by_cases hplus : c = '+'
      · subst hplus
        exact hparts ['+'] text rfl rfl .plus
      · have hsplit := splitSign_other hminus hplus text
        refine hparts [] (c :: text) rfl (by rw [hsplit]) ?_
        rw [hsplit]
        exact .none
  reads := by
    rintro _ rest ⟨negative, digits⟩ ⟨sign, hsign, hdigits, rfl⟩ hrest
    have hsplit : splitSign (sign ++ digits ++ rest) = (negative, digits ++ rest) := by
      cases hsign with
      | plus | minus => rfl
      | none =>
        obtain ⟨c, more, rfl⟩ := List.exists_cons_of_ne_nil hdigits.1
        have hdigit := hdigits.2 c List.mem_cons_self
        refine splitSign_other ?_ ?_ (more ++ rest)
        · rintro rfl
          cases hdigit
        · rintro rfl
          cases hdigit
    rw [signedDigits, hsplit, exact_requireDigits.reads ⟨rfl, hdigits⟩ hrest]
    rfl

/-- A part that may be missing; if it is there, it is known by its first character. -/
inductive Optional (starts : Char → Bool) (Spelled : α → List Char → Prop) :
    Option α → List Char → Prop where
  | missing : Optional starts Spelled none []
  | there {c : Char} {a : α} {t : List Char} (hc : starts c = true) (h : Spelled a t) :
    Optional starts Spelled (some a) (c :: t)

theorem exact_optionalPart {starts : Char → Bool} {read : List Char → Reading α}
    {Ends : List Char → Prop} {Spelled : α → List Char → Prop} (h : Exact read Ends Spelled) :
    Exact (optionalPart starts read) (fun rest => Ends rest ∧ ∀ c ∈ rest.head?, starts c = false)
      (Optional starts Spelled) where
  found {text rest found} hread := by
    cases text with
    | nil =>
      cases hread
      exact ⟨[], .missing, rfl⟩
    | cons c text =>
      rw [optionalPart] at hread
      split at hread
      · rename_i hstart
        obtain ⟨⟨a, left⟩, hpart, hsame⟩ := exists_of_map_eq_ok hread
        cases hsame
        obtain ⟨t, ht, rfl⟩ := h.found hpart
        exact ⟨c :: t, .there hstart ht, rfl⟩
      · cases hread
        exact ⟨[], .missing, rfl⟩
  reads {t rest found} ht hrest := by
    cases ht with
    | missing =>
      cases rest with
      | nil => rfl
      | cons c rest =>
        rw [List.nil_append, optionalPart, hrest.2 c rfl]
        rfl
    | there hstart hpart =>
      rw [List.cons_append, optionalPart, if_pos hstart, h.reads hpart hrest.1]
      rfl

/-- A point and the digits behind it. -/
def Fraction : Option (List Char) → List Char → Prop :=
  Optional (· == '.') fun digits t => digits = t ∧ Digits t

/-- A power of ten. -/
def Exponent : Option (Bool × List Char) → List Char → Prop :=
  Optional (fun c => c == 'e' || c == 'E')
    fun found t => ∃ sign, Sign found.1 sign ∧ Digits found.2 ∧ t = sign ++ found.2

/-- A number as it is spelled, without its minus sign. -/
inductive Numeral.Spelled : Numeral → List Char → Prop where
  | mk {whole f e : List Char} {fraction : Option (List Char)}
    {exponent : Option (Bool × List Char)} (hwhole : Whole whole) (hfraction : Fraction fraction f)
    (hexponent : Exponent exponent e) :
    Numeral.Spelled ⟨whole, fraction, exponent⟩ (whole ++ (f ++ e))

end Parts

section Numbers
variable {rest f e : List Char} {fraction : Option (List Char)}
  {exponent : Option (Bool × List Char)}

theorem exact_fractionBy : Exact (fractionBy fault)
    (fun rest => NoDigit rest ∧ ∀ c ∈ rest.head?, (c == '.') = false) Fraction :=
  exact_optionalPart exact_requireDigits

theorem exact_exponentBy : Exact (exponentBy fault) EndsNumber Exponent := by
  refine (exact_optionalPart exact_signedDigits).ends fun rest hrest => ⟨hrest.noDigit, ?_⟩
  intro c hc
  obtain ⟨-, -, he, hE⟩ := hrest c hc
  simp [he, hE]

/-- Where an exponent begins, or nothing, a fraction has ended. -/
theorem Exponent.ends_fraction (h : Exponent exponent e) (hrest : EndsNumber rest) :
    NoDigit (e ++ rest) ∧ ∀ c ∈ (e ++ rest).head?, (c == '.') = false := by
  cases h with
  | missing =>
    refine ⟨hrest.noDigit, fun c hc => ?_⟩
    obtain ⟨-, hpoint, -, -⟩ := hrest c hc
    simpa using hpoint
  | @there c _ _ hc _ =>
    have hmark : c = 'e' ∨ c = 'E' := by simpa using hc
    simp only [NoDigit, List.cons_append, List.head?_cons, Option.mem_def, Option.some.injEq,
      forall_eq']
    rcases hmark with rfl | rfl <;> exact ⟨rfl, rfl⟩

/-- Where a fraction begins, or an exponent or nothing, the whole part has ended. -/
theorem Fraction.noDigit (h : Fraction fraction f) (hrest : NoDigit rest) : NoDigit (f ++ rest) := by
  cases h with
  | missing => exact hrest
  | there hc _ =>
    intro d hd
    obtain rfl : '.' = d := by simpa [eq_of_beq hc] using hd
    rfl

theorem exact_readNumeral : Exact readNumeral EndsNumber Numeral.Spelled where
  found {text rest n} h := by
    rw [readNumeral_eq] at h
    obtain ⟨⟨whole, _⟩, hreadWhole, h⟩ := exists_of_bind_eq_ok h
    obtain ⟨⟨fraction, _⟩, hreadFraction, h⟩ := exists_of_bind_eq_ok h
    obtain ⟨⟨exponent, _⟩, hreadExponent, h⟩ := exists_of_map_eq_ok h
    cases h
    obtain ⟨_, ⟨rfl, hwhole⟩, rfl⟩ := exact_readWhole.found hreadWhole
    obtain ⟨f, hf, rfl⟩ := exact_fractionBy.found hreadFraction
    obtain ⟨e, he, rfl⟩ := exact_exponentBy.found hreadExponent
    exact ⟨whole ++ (f ++ e), .mk hwhole hf he, by simp⟩
  reads {t rest n} h hrest := by
    obtain @⟨whole, f, e, fraction, exponent, hwhole, hf, he⟩ := h
    have hbehind := he.ends_fraction hrest
    rw [List.append_assoc, List.append_assoc, readNumeral_eq,
      exact_readWhole.reads ⟨rfl, hwhole⟩ (hf.noDigit hbehind.1)]
    dsimp only [Except.bind]
    rw [exact_fractionBy.reads hf hbehind]
    dsimp only
    rw [exact_exponentBy.reads he hrest]
    rfl

/-- A number that is asked for, with its value. -/
theorem exact_readNumber (negative : Bool) : Exact (readNumber negative) EndsNumber
    fun x t => ∃ n : Numeral, n.Spelled t ∧ n.number negative [] = .ok x where
  found {text rest x} h := by
    rw [readNumber_eq] at h
    obtain ⟨⟨n, left⟩, hnumeral, hnumber⟩ := exists_of_bind_eq_ok h
    obtain ⟨t, ht, rfl⟩ := exact_readNumeral.found hnumeral
    obtain ⟨y, hvalue, hsame⟩ := exists_of_map_eq_ok hnumber
    cases hsame
    exact ⟨t, ⟨n, ht, number_of_rest hvalue []⟩, rfl⟩
  reads := by
    rintro t rest x ⟨n, ht, hvalue⟩ hrest
    rw [readNumber_eq, exact_readNumeral.reads ht hrest]
    dsimp only [Except.bind]
    rw [number_of_rest hvalue rest]
    rfl

theorem ok_of_mapError {x : Except Fault α} {f : Fault → Fault} {a : α} (h : x.mapError f = .ok a) :
    x = .ok a := by
  cases x with
  | error fault => cases h
  | ok b =>
    cases h
    rfl

/-- A number that nobody asked for. -/
theorem exact_skipNumber : Exact (fun text => rests (skipNumber text)) EndsNumber
    fun _ t => ∃ n : Numeral, n.Spelled t where
  found {text rest _} h := by
    rw [rests_skipNumber] at h
    obtain ⟨⟨whole, _⟩, hreadWhole, h⟩ := exists_of_bind_eq_ok h
    dsimp only at h
    rw [rests_skipFraction] at h
    obtain ⟨⟨fraction, _⟩, hreadFraction, h⟩ := exists_of_bind_eq_ok h
    dsimp only at h
    rw [rests_skipExponent] at h
    obtain ⟨⟨exponent, _⟩, hreadExponent, h⟩ := exists_of_map_eq_ok h
    cases h
    obtain ⟨_, ⟨rfl, hwhole⟩, rfl⟩ := exact_readWhole.found (ok_of_mapError hreadWhole)
    obtain ⟨f, hf, rfl⟩ := exact_fractionBy.found hreadFraction
    obtain ⟨e, he, rfl⟩ := exact_exponentBy.found hreadExponent
    exact ⟨whole ++ (f ++ e), ⟨_, .mk hwhole hf he⟩, by simp⟩
  reads := by
    rintro t rest _ ⟨n, @⟨whole, f, e, fraction, exponent, hwhole, hf, he⟩⟩ hrest
    have hbehind := he.ends_fraction hrest
    rw [List.append_assoc, List.append_assoc, rests_skipNumber,
      exact_readWhole.reads ⟨rfl, hwhole⟩ (hf.noDigit hbehind.1)]
    dsimp only [Except.bind, Except.mapError]
    rw [rests_skipFraction, exact_fractionBy.reads hf hbehind]
    dsimp only [Except.bind]
    rw [rests_skipExponent, exact_exponentBy.reads he hrest]
    rfl

end Numbers

end ToolHost.Json
