import ToolHost.Json.Skip
import ToolHost.Proofs.Json.Cuts

/-! Numbers at a cut. Digits may end at a cut and be a number as they are; but if the whole number is
a count, so is the one that is left. -/
namespace ToolHost.Json

variable {α : Type} {text rest front back : List Char} {c : Char}

section Digits

theorem not_blank_of_isDigit (h : c.isDigit = true) : isBlank c = false :=
  not_blank_of (p := fun c => c.isDigit = true) ⟨by decide, by decide, by decide, by decide⟩ h

theorem spanDigits_cons (h : c.isDigit = true) (text : List Char) :
    spanDigits (c :: text) = (c :: (spanDigits text).1, (spanDigits text).2) := by
  simp [spanDigits, h]

theorem spanDigits_cons_of_not (h : c.isDigit = false) (text : List Char) :
    spanDigits (c :: text) = ([], c :: text) := by
  simp [spanDigits, h]

/-- Digits that end at a cut may go on behind it. -/
theorem cut_spanDigits (front back : List Char) :
    Cut (· <+: ·) back (.ok (spanDigits front)) (.ok (spanDigits (front ++ back))) := by
  induction front with
  | nil =>
    cases back with
    | nil => exact .kept [] []
    | cons c back =>
      cases hdigit : c.isDigit with
      | true => exact .ended List.nil_prefix (visible_cons (not_blank_of_isDigit hdigit) back) _
      | false =>
        rw [List.nil_append, spanDigits_cons_of_not hdigit]
        exact .kept [] []
  | cons c front ih =>
    rw [List.cons_append]
    cases hdigit : c.isDigit with
    | true =>
      rw [spanDigits_cons hdigit, spanDigits_cons hdigit]
      exact ih.map (f := (c :: ·)) fun _ _ h => (List.prefix_cons_inj c).2 h
    | false =>
      rw [spanDigits_cons_of_not hdigit, spanDigits_cons_of_not hdigit]
      exact .kept [] (c :: front)

/-- Reads digits, of which there has to be one. -/
def requireDigits (fault : List Char → Fault) (text : List Char) : Reading (List Char) :=
  if (spanDigits text).1.isEmpty then .error (fault text) else .ok (spanDigits text)

variable {fault : List Char → Fault}

theorem visible_of_requireDigits {digits : List Char}
    (h : requireDigits fault text = .ok (digits, rest)) : Visible text := by
  cases text with
  | nil => cases h
  | cons c text =>
    cases hdigit : c.isDigit with
    | true => exact visible_cons (not_blank_of_isDigit hdigit) text
    | false =>
      rw [requireDigits, spanDigits_cons_of_not hdigit] at h
      cases h

theorem requireDigits_eq (fault : List Char → Fault) (text : List Char) :
    requireDigits fault text = Except.bind (.ok (spanDigits text)) fun (digits, rest) =>
      if digits.isEmpty then .error (fault text) else .ok (digits, rest) :=
  rfl

theorem bearsCuts_requireDigits (hkind : ∀ text, (fault text).cause.kind ≠ .misfit) :
    BearsCuts (· <+: ·) (requireDigits fault) := by
  intro front back
  rw [requireDigits_eq, requireDigits_eq]
  refine (cut_spanDigits front back).bind (fun digits rest _ _ => ?_) fun a b rest hprefix hback => ?_
  · dsimp only
    split
    · exact .refused _ _
    · exact .kept digits rest
  · dsimp only
    split
    · exact .broken (hkind front) hback _
    · split
      · exact .refused _ _
      · exact .ended hprefix hback rest

/-- Reads digits that may have a sign, of which it says whether it is a minus. -/
def signedDigits (fault : List Char → Fault) (text : List Char) : Reading (Bool × List Char) :=
  (requireDigits fault (splitSign text).2).map fun (digits, rest) => (((splitSign text).1, digits), rest)

theorem splitSign_other (hminus : c ≠ '-') (hplus : c ≠ '+') (text : List Char) :
    splitSign (c :: text) = (false, c :: text) := by
  simp [splitSign, hminus, hplus]

theorem splitSign_append (c : Char) (front back : List Char) : splitSign (c :: (front ++ back)) =
    ((splitSign (c :: front)).1, (splitSign (c :: front)).2 ++ back) := by
  by_cases hminus : c = '-'
  · subst hminus
    rfl
  · by_cases hplus : c = '+'
    · subst hplus
      rfl
    · rw [splitSign_other hminus hplus, splitSign_other hminus hplus]
      rfl

theorem visible_of_signedDigits {found : Bool × List Char}
    (h : signedDigits fault text = .ok (found, rest)) : Visible text := by
  cases text with
  | nil => cases h
  | cons c text =>
    by_cases hminus : c = '-'
    · exact hminus ▸ visible_cons rfl text
    by_cases hplus : c = '+'
    · exact hplus ▸ visible_cons rfl text
    rw [signedDigits, splitSign_other hminus hplus] at h
    cases hdigits : requireDigits fault (c :: text) with
    | error fault' =>
      rw [hdigits] at h
      cases h
    | ok digits => exact visible_of_requireDigits hdigits

theorem bearsCuts_signedDigits (hkind : ∀ text, (fault text).cause.kind ≠ .misfit) :
    BearsCuts Always (signedDigits fault) := by
  intro front back
  cases front with
  | nil => exact .of_error (hkind []) fun _ _ hok => visible_of_signedDigits hok
  | cons c front =>
    rw [List.cons_append, signedDigits, signedDigits, splitSign_append]
    exact (bearsCuts_requireDigits hkind _ back).map
      (f := fun digits => ((splitSign (c :: front)).1, digits)) fun _ _ _ => trivial

/-- Reads a part that may be missing and is known by its first character. -/
def optionalPart (starts : Char → Bool) (read : List Char → Reading α) : List Char → Reading (Option α)
  | [] => .ok (none, [])
  | c :: text =>
    if starts c then (read text).map fun (a, rest) => (some a, rest) else .ok (none, c :: text)

/-- A part that is missing at a cut may stand behind it, and one that is there may go on. -/
theorem bearsCuts_optionalPart {starts : Char → Bool} {Grown : α → α → Prop}
    {read : List Char → Reading α} (hstarts : ∀ c, starts c = true → isBlank c = false)
    (hread : BearsCuts Grown read) :
    BearsCuts (fun _ b => b.isSome = true) (optionalPart starts read) := by
  intro front back
  cases front with
  | nil =>
    cases back with
    | nil => exact .kept none []
    | cons c back =>
      rw [List.nil_append, optionalPart, optionalPart]
      split
      · rename_i hstart
        cases read back with
        | error fault => exact .refused _ fault
        | ok found =>
          show Cut _ (c :: back) (.ok (none, [])) (.ok (some found.1, found.2))
          exact .ended (by rfl) (visible_cons (hstarts c hstart) back) found.2
      · exact .kept none []
  | cons c front =>
    rw [List.cons_append, optionalPart, optionalPart]
    split
    · exact (hread front back).map fun _ _ _ => rfl
    · exact .kept none (c :: front)

/-- Reads the digits behind a point. -/
def fractionBy (fault : List Char → Fault) : List Char → Reading (Option (List Char)) :=
  optionalPart (· == '.') (requireDigits fault)

def exponentBy (fault : List Char → Fault) : List Char → Reading (Option (Bool × List Char)) :=
  optionalPart (fun c => c == 'e' || c == 'E') (signedDigits fault)

theorem bearsCuts_fractionBy (hkind : ∀ text, (fault text).cause.kind ≠ .misfit) :
    BearsCuts (fun _ b => b.isSome = true) (fractionBy fault) := by
  refine bearsCuts_optionalPart ?_ (bearsCuts_requireDigits hkind)
  intro c hc
  rw [eq_of_beq hc]
  rfl

theorem bearsCuts_exponentBy (hkind : ∀ text, (fault text).cause.kind ≠ .misfit) :
    BearsCuts (fun _ b => b.isSome = true) (exponentBy fault) := by
  refine bearsCuts_optionalPart ?_ (bearsCuts_signedDigits hkind)
  intro c hc
  rcases Bool.or_eq_true_iff.1 hc with hc | hc
  · rw [eq_of_beq hc]
    rfl
  · rw [eq_of_beq hc]
    rfl

end Digits

section Numbers

/-- The fault of having no digit. -/
def noDigit (text : List Char) : Fault :=
  .next (if text.isEmpty then .endOfValue else .invalidNumber) text

theorem noDigit_kind (text : List Char) : (noDigit text).cause.kind ≠ .misfit := by
  unfold noDigit Fault.next
  split
  · nofun
  · nofun

theorem readFraction_eq (text : List Char) : readFraction text = fractionBy noDigit text := by
  cases text with
  | nil => rfl
  | cons c text =>
    rw [fractionBy, optionalPart]
    by_cases hpoint : c = '.'
    · subst hpoint
      rw [readFraction, requireDigits]
      dsimp only
      split
      · rfl
      · rfl
    · rw [if_neg (by simpa using hpoint), readFraction]
      intro rest h
      exact hpoint (List.cons.inj h).1

theorem readExponent_eq (text : List Char) : readExponent text = exponentBy noDigit text := by
  cases text with
  | nil => rfl
  | cons c text =>
    rw [exponentBy, optionalPart, readExponent]
    by_cases hexponent : c = 'e' ∨ c = 'E'
    · rw [if_pos hexponent, if_pos (by simpa using hexponent), signedDigits, requireDigits]
      dsimp only
      split
      · rfl
      · rfl
    · rw [if_neg hexponent, if_neg (by simpa using hexponent)]

theorem readNumeral_eq (text : List Char) : readNumeral text =
    (readWhole text).bind fun (whole, rest) =>
      (fractionBy noDigit rest).bind fun (fraction, rest) =>
        (exponentBy noDigit rest).map fun (exponent, rest) => (⟨whole, fraction, exponent⟩, rest) := by
  unfold readNumeral
  simp only [readFraction_eq, readExponent_eq]
  cases readWhole text with
  | error fault => rfl
  | ok found =>
    obtain ⟨whole, rest⟩ := found
    dsimp only [Except.bind]
    cases fractionBy noDigit rest with
    | error fault => rfl
    | ok found =>
      obtain ⟨fraction, rest⟩ := found
      dsimp only
      cases exponentBy noDigit rest with
      | error fault => rfl
      | ok found => rfl

theorem visible_of_readWhole {digits : List Char} (h : readWhole text = .ok (digits, rest)) :
    Visible text := by
  cases text with
  | nil => cases h
  | cons c text =>
    by_cases hdigit : c.isDigit = true
    · exact visible_cons (not_blank_of_isDigit hdigit) text
    · have hzero : c ≠ '0' := by
        rintro rfl
        exact hdigit rfl
      rw [readWhole, if_neg hzero, if_neg hdigit] at h
      cases h

theorem bearsCuts_readWhole : BearsCuts (· <+: ·) readWhole := by
  intro front back
  cases front with
  | nil => exact .of_error (by nofun) fun _ _ hok => visible_of_readWhole hok
  | cons c front =>
    rw [List.cons_append, readWhole, readWhole]
    split
    · cases front with
      | nil =>
        rw [List.nil_append, if_neg (by decide)]
        split
        · exact .refused _ _
        · exact .kept ['0'] []
      | cons d front =>
        rw [List.cons_append, List.head?_cons, List.head?_cons]
        by_cases hzero : ((some d).map Char.isDigit).getD false = true
        · rw [if_pos hzero, if_pos hzero]
          exact .refused _ _
        · rw [if_neg hzero, if_neg hzero]
          exact .kept ['0'] (d :: front)
    · split
      · exact cut_spanDigits (c :: front) back
      · exact .refused _ _

/-- A number may be cut off from another one: if that has only digits, it begins with those of the
number. -/
def Numeral.Begins (n m : Numeral) : Prop :=
  m.isWhole = true → n.isWhole = true ∧ n.whole <+: m.whole

theorem isWhole_iff (n : Numeral) :
    n.isWhole = true ↔ n.fraction = none ∧ n.exponent = none := by
  simp [Numeral.isWhole]

theorem bearsCuts_readNumeral : BearsCuts Numeral.Begins readNumeral := by
  intro front back
  rw [readNumeral_eq, readNumeral_eq]
  refine (bearsCuts_readWhole front back).bind (fun whole rest _ _ => ?_) ?_
  · refine (bearsCuts_fractionBy noDigit_kind rest back).bind (fun fraction rest _ _ => ?_) ?_
    · refine (bearsCuts_exponentBy noDigit_kind rest back).map
        (f := fun exponent => (⟨whole, fraction, exponent⟩ : Numeral)) fun _ exponent hthere hwhole => ?_
      have hnone : exponent = none := ((isWhole_iff _).1 hwhole).2
      rw [hnone] at hthere
      cases hthere
    · intro fraction fraction' rest hthere hback
      dsimp only
      cases exponentBy noDigit rest with
      | error fault => exact .refused _ fault
      | ok found =>
        refine .ended (a := (⟨whole, fraction, none⟩ : Numeral)) (fun hwhole => ?_) hback found.2
        have hnone : fraction' = none := ((isWhole_iff _).1 hwhole).1
        rw [hnone] at hthere
        cases hthere
  · intro whole whole' rest hprefix hback
    dsimp only
    cases fractionBy noDigit rest with
    | error fault => exact .refused _ fault
    | ok found =>
      obtain ⟨fraction, rest⟩ := found
      dsimp only [Except.bind]
      cases exponentBy noDigit rest with
      | error fault => exact .refused _ fault
      | ok found =>
        have hbegins : Numeral.Begins ⟨whole, none, none⟩ ⟨whole', fraction, found.1⟩ :=
          fun _ => ⟨rfl, hprefix⟩
        exact .ended hbegins hback found.2

/-- The number that a numeral stands for. -/
def Numeral.number (negative : Bool) (n : Numeral) (rest : List Char) : Except Fault Number :=
  if n.isWhole && !negative && digitsValue n.whole ≤ greatestWhole then
    .ok (.integer (digitsValue n.whole))
  else if n.isWhole && negative && 0 < digitsValue n.whole && digitsValue n.whole ≤ greatestNegative then
    .ok (.integer (-digitsValue n.whole))
  else (n.double negative rest).map .fractional

theorem readNumber_eq (negative : Bool) (text : List Char) : readNumber negative text =
    (readNumeral text).bind fun (n, rest) => (n.number negative rest).map fun x => (x, rest) := by
  unfold readNumber
  cases readNumeral text with
  | error fault => rfl
  | ok found =>
    obtain ⟨n, rest⟩ := found
    dsimp only [Except.bind, Numeral.number]
    split
    · rfl
    · split
      · rfl
      · cases n.double negative rest with
        | error fault => rfl
        | ok x => rfl

/-- What stands behind a number matters only for where to complain. -/
theorem double_of_rest {negative : Bool} {n : Numeral} {x : Float}
    (h : n.double negative rest = .ok x) (rest' : List Char) : n.double negative rest' = .ok x := by
  unfold Numeral.double at h ⊢
  generalize n.significant = significant at h ⊢
  generalize n.exponent.getD (false, []) = exponent at h ⊢
  obtain ⟨value, shift⟩ := significant
  obtain ⟨down, digits⟩ := exponent
  dsimp only at h ⊢
  generalize absorb greatestExponent 0 digits = absorbed at h ⊢
  obtain ⟨exponent, excess⟩ := absorbed
  cases excess with
  | cons c excess =>
    dsimp only at h ⊢
    split at h
    · rename_i hzero
      rw [if_pos hzero]
      exact h
    · cases h
  | nil =>
    dsimp only at h ⊢
    split at h
    · exact h
    · cases h

theorem double_kind {negative : Bool} {n : Numeral} {fault : Fault}
    (h : n.double negative rest = .error fault) : fault.cause.kind ≠ .misfit := by
  unfold Numeral.double at h
  dsimp only at h
  split at h
  · split at h
    · cases h
    · cases h
      nofun
  · split at h
    · cases h
    · cases h
      nofun

variable {negative : Bool} {n m : Numeral}

theorem number_of_rest {x : Number} (h : n.number negative rest = .ok x) (rest' : List Char) :
    n.number negative rest' = .ok x := by
  unfold Numeral.number at h ⊢
  split
  · rename_i hcount
    rwa [if_pos hcount] at h
  · rename_i hcount
    rw [if_neg hcount] at h
    split
    · rename_i hnegative
      rwa [if_pos hnegative] at h
    · rename_i hnegative
      rw [if_neg hnegative] at h
      cases hdouble : n.double negative rest with
      | error fault =>
        rw [hdouble] at h
        cases h
      | ok y =>
        rw [hdouble] at h
        rw [double_of_rest hdouble, h]

theorem number_kind {fault : Fault} (h : n.number negative rest = .error fault) :
    fault.cause.kind ≠ .misfit := by
  unfold Numeral.number at h
  split at h
  · cases h
  · split at h
    · cases h
    · cases hdouble : n.double negative rest with
      | ok x =>
        rw [hdouble] at h
        cases h
      | error fault' =>
        rw [hdouble] at h
        cases h
        exact double_kind hdouble

/-- Only digits without a sign are a count. -/
theorem number_eq_count_iff {count : Nat} : n.number negative rest = .ok (.integer count) ↔
    negative = false ∧ n.isWhole = true ∧ digitsValue n.whole ≤ greatestWhole ∧
      digitsValue n.whole = count := by
  unfold Numeral.number
  split
  · rename_i hcount
    simp only [Bool.and_eq_true, Bool.not_eq_true', decide_eq_true_eq] at hcount
    obtain ⟨⟨hwhole, hsign⟩, hle⟩ := hcount
    constructor
    · intro h
      have hvalue : (digitsValue n.whole : Int) = count := by simpa using h
      exact ⟨hsign, hwhole, hle, by omega⟩
    · rintro ⟨-, -, -, rfl⟩
      rfl
  · rename_i hcount
    split
    · rename_i hnegative
      simp only [Bool.and_eq_true, decide_eq_true_eq] at hnegative
      obtain ⟨⟨⟨-, hsign⟩, hpos⟩, -⟩ := hnegative
      constructor
      · intro h
        have hvalue : (-(digitsValue n.whole : Int)) = count := by simpa using h
        omega
      · rintro ⟨hno, -⟩
        cases hsign.symm.trans hno
    · constructor
      · intro h
        cases hdouble : n.double negative rest with
        | error fault =>
          rw [hdouble] at h
          cases h
        | ok x =>
          rw [hdouble] at h
          cases h
      · rintro ⟨hsign, hwhole, hle, -⟩
        simp [hwhole, hsign, hle] at hcount

/-- More digits do not make a number smaller. -/
theorem digitsValue_le_of_begins {digits more : List Char} (h : digits <+: more) :
    digitsValue digits ≤ digitsValue more := by
  have hgrows (added : List Char) (value : Nat) :
      value ≤ added.foldl (fun n c => n * 10 + digitValue c) value := by
    induction added generalizing value with
    | nil => exact Nat.le_refl value
    | cons c added ih =>
      have hstep : value ≤ value * 10 + digitValue c := by omega
      exact Nat.le_trans hstep (ih _)
  obtain ⟨added, rfl⟩ := h
  rw [digitsValue, digitsValue, List.foldl_append]
  exact hgrows added _

/-- A number may be cut off from another one: from a count only a count. -/
def Number.Begins (x y : Number) : Prop :=
  ∀ count : Nat, y = .integer count → ∃ less : Nat, x = .integer less

theorem Numeral.Begins.number {x y : Number} {rest' : List Char} (h : n.Begins m)
    (hx : n.number negative rest = .ok x) (hy : m.number negative rest' = .ok y) : x.Begins y := by
  rintro count rfl
  obtain ⟨hsign, hwhole, hle, -⟩ := number_eq_count_iff.1 hy
  obtain ⟨hwhole', hprefix⟩ := h hwhole
  have hle' := Nat.le_trans (digitsValue_le_of_begins hprefix) hle
  have hcount : n.number negative rest = .ok (.integer (digitsValue n.whole : Nat)) :=
    number_eq_count_iff.2 ⟨hsign, hwhole', hle', rfl⟩
  exact ⟨_, Except.ok.inj (hx.symm.trans hcount)⟩

theorem bearsCuts_readNumber (negative : Bool) : BearsCuts Number.Begins (readNumber negative) := by
  intro front back
  rw [readNumber_eq, readNumber_eq]
  refine (bearsCuts_readNumeral front back).bind (fun n rest _ _ => ?_) fun n m rest hbegins hback => ?_
  · dsimp only
    cases hwhole : n.number negative (rest ++ back) with
    | error fault => exact .refused _ fault
    | ok x =>
      rw [number_of_rest hwhole rest]
      exact .kept x rest
  · dsimp only
    cases hy : m.number negative rest with
    | error fault => exact .refused _ fault
    | ok y =>
      cases hx : n.number negative [] with
      | error fault => exact .broken (number_kind hx) hback _
      | ok x => exact .ended (hbegins.number hx hy) hback rest

end Numbers

section Skipping

/-- The fault of having no digit in a number that nobody asked for. -/
def noDigitSkipped (text : List Char) : Fault := .next .invalidNumber (spanDigits text).2

theorem noDigitSkipped_kind (text : List Char) : (noDigitSkipped text).cause.kind ≠ .misfit := by
  nofun

theorem rests_skipDigits (text : List Char) : rests (skipDigits text) =
    (requireDigits noDigitSkipped text).map fun (_, rest) => ((), rest) := by
  rw [skipDigits, requireDigits]
  split
  · rfl
  · rfl

theorem rests_skipExponent (text : List Char) : rests (skipExponent text) =
    (exponentBy noDigitSkipped text).map fun (_, rest) => ((), rest) := by
  cases text with
  | nil => rfl
  | cons c text =>
    rw [exponentBy, optionalPart, skipExponent]
    by_cases hexponent : c = 'e' ∨ c = 'E'
    · rw [if_pos hexponent, if_pos (by simpa using hexponent), rests_skipDigits, signedDigits]
      cases requireDigits noDigitSkipped (splitSign text).2 with
      | error fault => rfl
      | ok found => rfl
    · rw [if_neg hexponent, if_neg (by simpa using hexponent)]
      rfl

/-- A fraction may be there, and then an exponent. -/
theorem rests_skipFraction (text : List Char) : rests (skipFraction text) =
    (fractionBy noDigitSkipped text).bind fun (_, rest) => rests (skipExponent rest) := by
  cases text with
  | nil => rfl
  | cons c text =>
    rw [fractionBy, optionalPart]
    by_cases hpoint : c = '.'
    · subst hpoint
      rw [if_pos (by rfl), skipFraction, rests_bind, rests_skipDigits]
      cases requireDigits noDigitSkipped text with
      | error fault => rfl
      | ok found => rfl
    · rw [if_neg (by simpa using hpoint), skipFraction]
      · rfl
      · intro rest h
        exact hpoint (List.cons.inj h).1

/-- A number that nobody asked for is no JSON if it stops too early. -/
theorem rests_skipNumber (text : List Char) : rests (skipNumber text) =
    ((readWhole text).mapError fun fault => ⟨.invalidNumber, fault.rest, fault.ahead⟩).bind
      fun (_, rest) => rests (skipFraction rest) := by
  rw [skipNumber]
  cases readWhole text with
  | error fault => rfl
  | ok found => rfl

theorem bearsCuts_skipExponent : BearsCuts Always fun text => rests (skipExponent text) := by
  intro front back
  dsimp only
  rw [rests_skipExponent, rests_skipExponent]
  exact (bearsCuts_exponentBy noDigitSkipped_kind front back).map (f := fun _ => ())
    fun _ _ _ => trivial

theorem bearsCuts_skipFraction : BearsCuts Always fun text => rests (skipFraction text) := by
  intro front back
  dsimp only
  rw [rests_skipFraction, rests_skipFraction]
  refine (bearsCuts_fractionBy noDigitSkipped_kind front back).bind
    (fun _ rest _ _ => bearsCuts_skipExponent rest back) fun _ _ _ _ hback => ?_
  exact .ended_always () hback _

theorem bearsCuts_skipNumber : BearsCuts Always fun text => rests (skipNumber text) := by
  intro front back
  dsimp only
  rw [rests_skipNumber, rests_skipNumber]
  refine ((bearsCuts_readWhole front back).mapError fun _ => by nofun).bind
    (fun _ rest _ _ => bearsCuts_skipFraction rest back) fun _ _ _ _ hback => ?_
  exact .ended_always () hback _

end Skipping

end ToolHost.Json
