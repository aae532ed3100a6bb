import ToolHost.Proofs.Json.Numerals
import ToolHost.Proofs.Json.Objects

/-! The values of a JSON text as a grammar gives them, and passing over one of them. A value may nest
as deep as it likes; what is passed over is one value and no more of the text. -/
namespace ToolHost.Json

variable {text rest : List Char} {c : Char}

section Scalars

/-- The three words, and what they say. -/
inductive Word : Found → List Char → Prop where
  | null : Word .null ['n', 'u', 'l', 'l']
  | true : Word (.boolean true) ['t', 'r', 'u', 'e']
  | false : Word (.boolean false) ['f', 'a', 'l', 's', 'e']

/-- A value without parts, of which nobody asks what it says. -/
inductive Scalar : List Char → Prop where
  | word {found : Found} {t : List Char} (h : Word found t) : Scalar t
  | string {t : List Char} (h : Quoted t) : Scalar t
  | number {n : Numeral} {t : List Char} (h : n.Spelled t) : Scalar t
  | negative {n : Numeral} {t : List Char} (h : n.Spelled t) : Scalar ('-' :: t)

/-- What a value without parts says. -/
inductive Says : Found → List Char → Prop where
  | word {found : Found} {t : List Char} (h : Word found t) : Says found t
  | text {s : String} {t : List Char} (h : Literal s t) : Says (.text s) t
  | number {n : Numeral} {x : Number} {t : List Char} (h : n.Spelled t)
    (hvalue : n.number false [] = .ok x) : Says x.found t
  | negative {n : Numeral} {x : Number} {t : List Char} (h : n.Spelled t)
    (hvalue : n.number true [] = .ok x) : Says x.found ('-' :: t)

theorem Says.scalar {found : Found} {t : List Char} (h : Says found t) : Scalar t := by
  cases h with
  | word h => exact .word h
  | text h => exact .string h.quoted
  | number h => exact .number h
  | negative h => exact .negative h

theorem eq_append_of_readLetters {letters : List Char} (h : readLetters letters text = .ok rest) :
    text = letters ++ rest := by
  induction letters generalizing text with
  | nil =>
    cases h
    rfl
  | cons e letters ih =>
    cases text with
    | nil => cases h
    | cons c text =>
      rw [readLetters] at h
      split at h
      · rename_i hsame
        rw [hsame, ih h, List.cons_append]
      · cases h

/-- A number begins with a digit. -/
theorem Numeral.Spelled.exists_digit {n : Numeral} {t : List Char} (h : n.Spelled t) :
    ∃ c more, t = c :: more ∧ c.isDigit = true := by
  obtain @⟨whole, f, e, -, -, ⟨⟨hne, hdigits⟩, -⟩, -, -⟩ := h
  obtain ⟨c, more, rfl⟩ := List.exists_cons_of_ne_nil hne
  exact ⟨c, more ++ (f ++ e), rfl, hdigits c List.mem_cons_self⟩

theorem ne_of_isDigit (h : c.isDigit = true) {d : Char} (hd : d.isDigit = false) : c ≠ d := by
  rintro rfl
  cases h.symm.trans hd

/-- A value without parts begins with a character that is neither blank nor a bracket. -/
theorem Scalar.exists_cons {t : List Char} (h : Scalar t) : ∃ c more, t = c :: more ∧
    isBlank c = false ∧ c ≠ '[' ∧ c ≠ '\x7b' ∧ c ≠ ']' ∧ c ≠ '\x7d' := by
  cases h with
  | word h => cases h <;> exact ⟨_, _, rfl, by decide⟩
  | string h =>
    obtain ⟨body, -, rfl⟩ := h
    exact ⟨_, _, rfl, by decide⟩
  | number h =>
    obtain ⟨c, more, rfl, hdigit⟩ := h.exists_digit
    exact ⟨c, more, rfl, not_blank_of_isDigit hdigit, ne_of_isDigit hdigit rfl,
      ne_of_isDigit hdigit rfl, ne_of_isDigit hdigit rfl, ne_of_isDigit hdigit rfl⟩
  | negative h => exact ⟨_, _, rfl, by decide⟩

theorem readScalar_of_isDigit (h : c.isDigit = true) (text : List Char) :
    readScalar (c :: text) =
      (readNumber false (c :: text)).map fun (x, rest) => (x.found, rest) := by
  rw [readScalar_other (ne_of_isDigit h rfl) (ne_of_isDigit h rfl) (ne_of_isDigit h rfl)
    (ne_of_isDigit h rfl) (ne_of_isDigit h rfl), if_pos h]

theorem skipScalar_of_isDigit (h : c.isDigit = true) (text : List Char) :
    skipScalar (c :: text) = skipNumber (c :: text) := by
  rw [skipScalar_other (ne_of_isDigit h rfl) (ne_of_isDigit h rfl) (ne_of_isDigit h rfl)
    (ne_of_isDigit h rfl) (ne_of_isDigit h rfl), if_pos h]

theorem exact_readScalar : Exact readScalar EndsNumber Says where
  found {text rest found} h := by
    cases text with
    | nil => cases h
    | cons c text =>
      by_cases hn : c = 'n'
      · subst hn
        obtain ⟨left, hletters, hsame⟩ := exists_of_map_eq_ok h
        cases hsame
        exact ⟨_, .word .null, congrArg _ (eq_append_of_readLetters hletters)⟩
      by_cases ht : c = 't'
      · subst ht
        obtain ⟨left, hletters, hsame⟩ := exists_of_map_eq_ok h
        cases hsame
        exact ⟨_, .word .true, congrArg _ (eq_append_of_readLetters hletters)⟩
      by_cases hf : c = 'f'
      · subst hf
        obtain ⟨left, hletters, hsame⟩ := exists_of_map_eq_ok h
        cases hsame
        exact ⟨_, .word .false, congrArg _ (eq_append_of_readLetters hletters)⟩
      by_cases hq : c = '"'
      · subst hq
        obtain ⟨⟨cs, left⟩, hstring, hsame⟩ := exists_of_map_eq_ok h
        cases hsame
        obtain ⟨body, hbody, rfl⟩ := exists_characters_of_readString hstring
        refine ⟨_, .text ⟨body, ?_, rfl⟩, by simp⟩
        rwa [String.toList_ofList]
      by_cases hm : c = '-'
      · subst hm
        obtain ⟨⟨x, left⟩, hnumber, hsame⟩ := exists_of_map_eq_ok h
        cases hsame
        obtain ⟨t, ⟨n, ht, hvalue⟩, rfl⟩ := (exact_readNumber true).found hnumber
        exact ⟨'-' :: t, .negative ht hvalue, rfl⟩
      rw [readScalar_other hn ht hf hq hm] at h
      split at h
      · obtain ⟨⟨x, left⟩, hnumber, hsame⟩ := exists_of_map_eq_ok h
        cases hsame
        obtain ⟨t, ⟨n, ht, hvalue⟩, htext⟩ := (exact_readNumber false).found hnumber
        exact ⟨t, .number ht hvalue, htext⟩
      · cases h
  reads {t rest found} h hrest := by
    cases h with
    | word h => cases h <;> rfl
    | @text s t h =>
      obtain ⟨body, hbody, rfl⟩ := h
      have htext : '"' :: (body ++ ['"']) ++ rest = '"' :: (body ++ '"' :: rest) := by simp
      rw [htext, readScalar, hbody.readString]
      show Except.ok (Found.text (String.ofList s.toList), rest) = _
      rw [String.ofList_toList]
    | @number n x t h hvalue =>
      obtain ⟨c, more, rfl, hdigit⟩ := h.exists_digit
      rw [List.cons_append, readScalar_of_isDigit hdigit, ← List.cons_append,
        (exact_readNumber false).reads ⟨n, h, hvalue⟩ hrest]
      rfl
    | @negative n x t h hvalue =>
      rw [List.cons_append, readScalar, (exact_readNumber true).reads ⟨n, h, hvalue⟩ hrest]
      rfl

theorem exact_skipScalar :
    Exact (fun text => rests (skipScalar text)) EndsNumber fun _ => Scalar where
  found {text rest _} h := by
    have h := ok_of_rests h
    cases text with
    | nil => cases h
    | cons c text =>
      by_cases hn : c = 'n'
      · subst hn
        exact ⟨_, .word .null, congrArg _ (eq_append_of_readLetters h)⟩
      by_cases ht : c = 't'
      · subst ht
        exact ⟨_, .word .true, congrArg _ (eq_append_of_readLetters h)⟩
      by_cases hf : c = 'f'
      · subst hf
        exact ⟨_, .word .false, congrArg _ (eq_append_of_readLetters h)⟩
      by_cases hm : c = '-'
      · subst hm
        obtain ⟨t, ⟨n, ht⟩, rfl⟩ := exact_skipNumber.found (congrArg rests h)
        exact ⟨'-' :: t, .negative ht, rfl⟩
      by_cases hq : c = '"'
      · subst hq
        obtain ⟨body, hbody, rfl⟩ := exists_letters_of_skipString h
        exact ⟨_, .string ⟨body, hbody, rfl⟩, by simp⟩
      rw [skipScalar_other hn ht hf hm hq] at h
      split at h
      · obtain ⟨t, ⟨n, ht⟩, htext⟩ := exact_skipNumber.found (congrArg rests h)
        exact ⟨t, .number ht, htext⟩
      · cases h
  reads {t rest _} h hrest := by
    cases h with
    | word h => cases h <;> rfl
    | string h =>
      obtain ⟨body, hbody, rfl⟩ := h
      have htext : '"' :: (body ++ ['"']) ++ rest = '"' :: (body ++ '"' :: rest) := by simp
      rw [htext, skipScalar, hbody.skipString]
      rfl
    | number h =>
      obtain ⟨c, more, rfl, hdigit⟩ := h.exists_digit
      rw [List.cons_append, skipScalar_of_isDigit hdigit, ← List.cons_append]
      exact exact_skipNumber.reads ⟨_, h⟩ hrest
    | negative h => exact exact_skipNumber.reads ⟨_, h⟩ hrest

end Scalars

section Blanks

/-- Nothing but blanks. -/
def Blank (t : List Char) : Prop := ∀ c ∈ t, isBlank c = true

theorem Blank.nil : Blank [] := by simp [Blank]

theorem Blank.skipBlank {b : List Char} (h : Blank b) (rest : List Char) :
    skipBlank (b ++ rest) = skipBlank rest :=
  List.dropWhile_append_of_pos h

theorem Blank.skipBlank_cons {b : List Char} (h : Blank b) (hc : isBlank c = false)
    (rest : List Char) : Json.skipBlank (b ++ c :: rest) = c :: rest := by
  rw [h.skipBlank, Json.skipBlank, List.dropWhile_cons_of_neg (by simp [hc])]

theorem exists_blank (text : List Char) : ∃ b, Blank b ∧ text = b ++ skipBlank text :=
  ⟨text.takeWhile isBlank, fun _ hc => List.mem_takeWhile_imp hc,
    List.takeWhile_append_dropWhile.symm⟩

theorem Blank.endsNumber {b : List Char} (h : Blank b) (hrest : EndsNumber rest) :
    EndsNumber (b ++ rest) := by
  cases b with
  | nil => exact hrest
  | cons c b =>
    have hc := h c List.mem_cons_self
    simp only [isBlank, Bool.or_eq_true, beq_iff_eq] at hc
    rcases hc with ((rfl | rfl) | rfl) | rfl <;> exact endsNumber_cons rfl (by decide) _

/-- Something with blanks before it. -/
def Led (Spelled : List Char → Prop) (t : List Char) : Prop :=
  ∃ b v, Blank b ∧ Spelled v ∧ t = b ++ v

end Blanks

section Values

def Bracket.opening : Bracket → Char
  | list => '['
  | object => '\x7b'

def Bracket.closing : Bracket → Char
  | list => ']'
  | object => '\x7d'

/-- What stands before an item: a comma, unless the item is the first one. -/
inductive Lead : Bool → List Char → Prop where
  | first {b : List Char} (h : Blank b) : Lead true b
  | next {b b' : List Char} (h : Blank b) (h' : Blank b') : Lead false (b ++ ',' :: b')

/-- What stands before the value of an item: in an object a key and a colon. -/
inductive Label : Bracket → List Char → Prop where
  | element : Label .list []
  | key {name b b' : List Char} (hname : Quoted name) (h : Blank b) (h' : Blank b') :
    Label .object (name ++ (b ++ ':' :: b'))

/-- A value, or the items between two brackets from some place on. -/
inductive Part where
  | value
  | items (bracket : Bracket) (first : Bool)

/-- The grammar of values. -/
inductive Derives : Part → List Char → Prop where
  | scalar {t : List Char} (h : Scalar t) : Derives .value t
  | bracketed {bracket : Bracket} {t : List Char} (h : Derives (.items bracket true) t) :
    Derives .value (bracket.opening :: (t ++ [bracket.closing]))
  | ended {bracket : Bracket} {first : Bool} {b : List Char} (h : Blank b) :
    Derives (.items bracket first) b
  | item {bracket : Bracket} {first : Bool} {lead label v t : List Char} (hlead : Lead first lead)
    (hlabel : Label bracket label) (hvalue : Derives .value v)
    (later : Derives (.items bracket false) t) :
    Derives (.items bracket first) (lead ++ (label ++ (v ++ t)))

def Value (v : List Char) : Prop := Derives .value v

variable {bracket : Bracket} {opened : List Bracket} {first : Bool}

theorem Bracket.closing_not_blank (bracket : Bracket) : isBlank bracket.closing = false := by
  cases bracket <;> rfl

theorem Bracket.endsNumber_closing (bracket : Bracket) (rest : List Char) :
    EndsNumber (bracket.closing :: rest) := by
  cases bracket <;> exact endsNumber_cons rfl (by decide) rest

theorem Value.exists_cons {v : List Char} (h : Value v) :
    ∃ c more, v = c :: more ∧ isBlank c = false ∧ c ≠ ']' ∧ c ≠ '\x7d' := by
  cases h with
  | scalar h =>
    obtain ⟨c, more, rfl, hblank, -, -, hlist, hobject⟩ := h.exists_cons
    exact ⟨c, more, rfl, hblank, hlist, hobject⟩
  | @bracketed bracket => cases bracket <;> exact ⟨_, _, rfl, by decide⟩

theorem Lead.endsNumber {lead : List Char} (h : Lead false lead) (rest : List Char) :
    EndsNumber (lead ++ rest) := by
  obtain _ | ⟨hb, -⟩ := h
  rw [List.append_assoc]
  exact hb.endsNumber (endsNumber_cons rfl (by decide) _)

/-- Behind an item a number has ended. -/
theorem Derives.endsNumber {t : List Char} (h : Derives (.items bracket false) t)
    (rest : List Char) : EndsNumber (t ++ bracket.closing :: rest) := by
  cases h with
  | ended hb => exact hb.endsNumber (bracket.endsNumber_closing rest)
  | item hlead =>
    rw [List.append_assoc]
    exact hlead.endsNumber _

/-- What is due inside brackets before an item or the end. -/
def itemDue (first : Bool) : Due := if first then .first else .comma

/-- What is due inside brackets before an item that has to come. -/
def itemAhead : Bracket → Due
  | .list => .value
  | .object => .key

theorem step_opening (opened : List Bracket) (bracket : Bracket) (text : List Char) :
    SkipState.step ⟨opened, .value, bracket.opening :: text⟩ =
      .ok ⟨bracket :: opened, .first, skipBlank text⟩ := by
  cases bracket <;> simp [SkipState.step, Bracket.opening]

theorem step_closing (opened : List Bracket) (bracket : Bracket) (first : Bool) (text : List Char) :
    SkipState.step ⟨bracket :: opened, itemDue first, bracket.closing :: text⟩ =
      .ok ⟨opened, .comma, text⟩ := by
  cases bracket <;> cases first <;> rfl

theorem step_comma (opened : List Bracket) (bracket : Bracket) (text : List Char) :
    SkipState.step ⟨bracket :: opened, .comma, ',' :: text⟩ =
      .ok ⟨bracket :: opened, itemAhead bracket, skipBlank text⟩ := by
  cases bracket <;> rfl

/-- What is no end is a first item. -/
theorem step_first (hc : c ≠ bracket.closing) (text : List Char) :
    SkipState.step ⟨bracket :: opened, .first, c :: text⟩ =
      SkipState.step ⟨bracket :: opened, itemAhead bracket, c :: text⟩ := by
  cases bracket with
  | list =>
    have hend : c ≠ ']' := hc
    by_cases hlist : c = '['
    · simp [SkipState.step, itemAhead, hlist]
    by_cases hobject : c = '\x7b'
    · simp [SkipState.step, itemAhead, hobject]
    simp [SkipState.step, itemAhead, hend, hlist, hobject]
  | object =>
    have hend : c ≠ '\x7d' := hc
    by_cases hquote : c = '"'
    · simp [SkipState.step, itemAhead, hquote]
    simp [SkipState.step, itemAhead, hend, hquote]

theorem skipOn_inside (due : Due) (text : List Char) :
    skipOn (bracket :: opened) due text = skipFrom ⟨bracket :: opened, due, skipBlank text⟩ :=
  if_neg fun h => nomatch h.2

theorem skipOn_closing {b : List Char} (h : Blank b) (first : Bool) (rest : List Char) :
    skipOn (bracket :: opened) (itemDue first) (b ++ bracket.closing :: rest) =
      skipOn opened .comma rest := by
  rw [skipOn_inside, h.skipBlank_cons bracket.closing_not_blank, skipFrom_eq, step_closing]
  rfl

theorem skipFrom_first (hc : c ≠ bracket.closing) (text : List Char) :
    skipFrom ⟨bracket :: opened, .first, c :: text⟩ =
      skipFrom ⟨bracket :: opened, itemAhead bracket, c :: text⟩ := by
  rw [skipFrom_eq, skipFrom_eq, step_first hc]

theorem skipFrom_comma (text : List Char) : skipFrom ⟨bracket :: opened, .comma, ',' :: text⟩ =
    skipFrom ⟨bracket :: opened, itemAhead bracket, skipBlank text⟩ := by
  rw [skipFrom_eq, step_comma]
  show skipOn _ _ _ = _
  rw [skipOn_inside, skipBlank_skipBlank]

theorem skipOn_lead {lead : List Char} (h : Lead first lead) (hblank : isBlank c = false)
    (hc : c ≠ bracket.closing) (text : List Char) :
    skipOn (bracket :: opened) (itemDue first) (lead ++ c :: text) =
      skipFrom ⟨bracket :: opened, itemAhead bracket, c :: text⟩ := by
  cases h with
  | first hb =>
    rw [skipOn_inside, hb.skipBlank_cons hblank]
    exact skipFrom_first hc text
  | next hb hb' =>
    rw [List.append_assoc, skipOn_inside, List.cons_append, hb.skipBlank_cons rfl]
    refine (skipFrom_comma _).trans ?_
    rw [hb'.skipBlank_cons hblank]

theorem skipFrom_colon (text : List Char) : skipFrom ⟨bracket :: opened, .colon, ':' :: text⟩ =
    skipFrom ⟨bracket :: opened, .value, skipBlank text⟩ := by
  rw [skipFrom_eq]
  show skipOn (bracket :: opened) .value (skipBlank text) = _
  rw [skipOn_inside, skipBlank_skipBlank]

theorem skipFrom_key (text : List Char) : skipFrom ⟨.object :: opened, .key, '"' :: text⟩ =
    (skipString text).bind fun rest => skipFrom ⟨.object :: opened, .colon, skipBlank rest⟩ := by
  rw [skipFrom_eq]
  show (SkipState.takeKey (.object :: opened) text).bind _ = _
  rw [SkipState.takeKey]
  cases skipString text with
  | error fault => rfl
  | ok rest =>
    show skipOn (.object :: opened) .colon (skipBlank rest) = _
    rw [skipOn_inside, skipBlank_skipBlank]
    rfl

theorem skipFrom_label {label : List Char} (h : Label bracket label) (hblank : isBlank c = false)
    (text : List Char) : skipFrom ⟨bracket :: opened, itemAhead bracket, label ++ c :: text⟩ =
      skipFrom ⟨bracket :: opened, .value, c :: text⟩ := by
  cases h with
  | element => rfl
  | @key name b b' hname hb hb' =>
    obtain ⟨body, hbody, rfl⟩ := hname
    have htext : '"' :: (body ++ ['"']) ++ (b ++ ':' :: b') ++ c :: text =
        '"' :: (body ++ '"' :: (b ++ ':' :: (b' ++ c :: text))) := by simp
    rw [htext]
    refine (skipFrom_key _).trans ?_
    rw [hbody.skipString]
    show skipFrom ⟨_, _, skipBlank _⟩ = _
    rw [hb.skipBlank_cons rfl, skipFrom_colon, hb'.skipBlank_cons hblank]

theorem skipFrom_scalar {t : List Char} (h : Scalar t) (hrest : EndsNumber rest) :
    skipFrom ⟨opened, .value, t ++ rest⟩ = skipOn opened .comma rest := by
  have hskip := ok_of_rests (exact_skipScalar.reads (a := ()) h hrest)
  obtain ⟨c, more, rfl, -, hlist, hobject, -, -⟩ := h.exists_cons
  have hstep : SkipState.step ⟨opened, .value, c :: more ++ rest⟩ =
      (skipScalar (c :: more ++ rest)).map (SkipState.ended opened) := by
    simp [SkipState.step, hlist, hobject]
  rw [skipFrom_eq, hstep, hskip]
  rfl

/-- What passing over a part of a value comes to. -/
def PassedOver : Part → List Char → Prop
  | .value, v => ∀ opened rest, EndsNumber rest →
    skipFrom ⟨opened, .value, v ++ rest⟩ = skipOn opened .comma rest
  | .items bracket first, t => ∀ opened rest,
    skipOn (bracket :: opened) (itemDue first) (t ++ bracket.closing :: rest) =
      skipOn opened .comma rest

theorem Derives.passedOver {part : Part} {t : List Char} (h : Derives part t) :
    PassedOver part t := by
  induction h with
  | scalar h => exact fun opened rest hrest => skipFrom_scalar h hrest
  | @bracketed bracket t _ ih =>
    intro opened rest _
    have htext : bracket.opening :: (t ++ [bracket.closing]) ++ rest =
        bracket.opening :: (t ++ bracket.closing :: rest) := by simp
    rw [htext, skipFrom_eq, step_opening]
    show skipOn (bracket :: opened) .first (skipBlank _) = _
    rw [skipOn_skipBlank (by decide)]
    exact ih opened rest
  | ended hb => exact fun opened rest => skipOn_closing hb _ rest
  | @item bracket first lead label v t hlead hlabel hvalue later ihvalue ihlater =>
    intro opened rest
    obtain ⟨c, more, rfl, hblank, hlist, hobject⟩ := Value.exists_cons hvalue
    have hclosing : c ≠ bracket.closing := by cases bracket <;> assumption
    have hvalue := ihvalue (bracket :: opened) _ (later.endsNumber rest)
    simp only [List.append_assoc, List.cons_append] at hvalue ⊢
    -- what is seen behind the lead is the first character of the label or of the value
    have hseen : skipOn (bracket :: opened) (itemDue first)
        (lead ++ (label ++ c :: (more ++ (t ++ bracket.closing :: rest)))) =
          skipFrom ⟨bracket :: opened, itemAhead bracket,
            label ++ c :: (more ++ (t ++ bracket.closing :: rest))⟩ := by
      cases hlabel with
      | element => exact skipOn_lead hlead hblank hclosing _
      | key hname _ _ =>
        obtain ⟨body, -, rfl⟩ := hname
        exact skipOn_lead hlead rfl (by decide) _
    rw [hseen, skipFrom_label hlabel hblank, hvalue]
    exact ihlater opened rest

theorem exists_step_of_skipFrom {s : SkipState} (h : skipFrom s = .ok rest) :
    ∃ next, s.step = .ok next ∧ skipOn next.opened next.due next.text = .ok rest := by
  rw [skipFrom_eq] at h
  exact exists_of_bind_eq_ok h

theorem exists_lead_of_skipOn (h : skipOn (bracket :: opened) (itemDue first) text = .ok rest) :
    (∃ b left, Blank b ∧ text = b ++ bracket.closing :: left ∧ skipOn opened .comma left = .ok rest) ∨
      ∃ lead left, Lead first lead ∧ text = lead ++ left ∧
        skipFrom ⟨bracket :: opened, itemAhead bracket, left⟩ = .ok rest := by
  obtain ⟨b, hb, htext⟩ := exists_blank text
  rw [skipOn_inside] at h
  generalize skipBlank text = seen at h htext
  subst htext
  cases seen with
  | nil =>
    obtain ⟨next, hstep, -⟩ := exists_step_of_skipFrom h
    obtain ⟨fault, hfault, -⟩ := breaksOff_step_nil (bracket :: opened) (itemDue first)
    cases hstep.symm.trans hfault
  | cons c left =>
    by_cases hclosing : c = bracket.closing
    · subst hclosing
      obtain ⟨next, hstep, hnext⟩ := exists_step_of_skipFrom h
      rw [step_closing] at hstep
      cases hstep
      exact .inl ⟨b, left, hb, rfl, hnext⟩
    · cases first with
      | true =>
        refine .inr ⟨b, c :: left, .first hb, rfl, ?_⟩
        rw [← skipFrom_first hclosing]
        exact h
      | false =>
        by_cases hcomma : c = ','
        · subst hcomma
          obtain ⟨b', hb', htext⟩ := exists_blank left
          refine .inr ⟨b ++ ',' :: b', skipBlank left, .next hb hb', ?_, ?_⟩
          · rw [List.append_assoc, List.cons_append, ← htext]
          · rw [← skipFrom_comma]
            exact h
        · obtain ⟨next, hstep, -⟩ := exists_step_of_skipFrom h
          cases bracket with
          | list =>
            have hend : c ≠ ']' := hclosing
            simp [SkipState.step, itemDue, hend, hcomma] at hstep
          | object =>
            have hend : c ≠ '\x7d' := hclosing
            simp [SkipState.step, itemDue, hend, hcomma] at hstep

theorem exists_label_of_skipFrom
    (h : skipFrom ⟨bracket :: opened, itemAhead bracket, text⟩ = .ok rest) :
    ∃ label left, Label bracket label ∧ text = label ++ left ∧
      skipFrom ⟨bracket :: opened, .value, left⟩ = .ok rest := by
  cases bracket with
  | list => exact ⟨[], text, .element, rfl, h⟩
  | object =>
    obtain ⟨next, hstep, -⟩ := exists_step_of_skipFrom h
    cases text with
    | nil => cases hstep
    | cons c text =>
      by_cases hquote : c = '"'
      · subst hquote
        have hkey := (skipFrom_key text).symm.trans h
        obtain ⟨behind, hname, hcolon⟩ := exists_of_bind_eq_ok hkey
        obtain ⟨body, hbody, rfl⟩ := exists_letters_of_skipString hname
        obtain ⟨b, hb, htext⟩ := exists_blank behind
        generalize skipBlank behind = seen at hcolon htext
        subst htext
        obtain ⟨next', hstep', -⟩ := exists_step_of_skipFrom hcolon
        cases seen with
        | nil => cases hstep'
        | cons d left =>
          by_cases hd : d = ':'
          · subst hd
            obtain ⟨b', hb', htext⟩ := exists_blank left
            rw [skipFrom_colon] at hcolon
            refine ⟨_, skipBlank left, .key ⟨body, hbody, rfl⟩ hb hb', ?_, hcolon⟩
            have hleft : '"' :: (body ++ ['"']) ++ (b ++ ':' :: b') ++ skipBlank left =
                '"' :: (body ++ '"' :: (b ++ ':' :: (b' ++ skipBlank left))) := by simp
            rw [hleft, ← htext]
          · simp [SkipState.step, hd] at hstep'
      · simp [SkipState.step, itemAhead, hquote] at hstep

/-- What is passed over as a value in a text of limited length is one. -/
def SkipsValues (limit : Nat) : Prop := ∀ {opened : List Bracket} {text rest : List Char},
  text.length ≤ limit → skipFrom ⟨opened, .value, text⟩ = .ok rest →
    ∃ v left, Value v ∧ text = v ++ left ∧ skipOn opened .comma left = .ok rest

theorem exists_items_of_skipOn {limit : Nat} (hvalues : SkipsValues limit) (first : Bool)
    (hlimit : text.length ≤ limit)
    (h : skipOn (bracket :: opened) (itemDue first) text = .ok rest) :
    ∃ t left, Derives (.items bracket first) t ∧ text = t ++ bracket.closing :: left ∧
      skipOn opened .comma left = .ok rest := by
  induction hlength : text.length using Nat.strongRecOn generalizing text first with
  | _ n ih =>
    rcases exists_lead_of_skipOn h with ⟨b, left, hb, rfl, hleft⟩ | ⟨lead, seen, hlead, rfl, hseen⟩
    · exact ⟨b, left, .ended hb, rfl, hleft⟩
    · obtain ⟨label, left, hlabel, rfl, hleft⟩ := exists_label_of_skipFrom hseen
      simp only [List.length_append] at hlimit hlength
      obtain ⟨v, behind, hv, rfl, hbehind⟩ := hvalues (by omega) hleft
      obtain ⟨c, more, rfl, -⟩ := hv.exists_cons
      simp only [List.length_append, List.length_cons] at hlimit hlength
      obtain ⟨t, last, ht, rfl, hlast⟩ :=
        ih behind.length (by omega) false (by omega) hbehind rfl
      exact ⟨_, last, .item hlead hlabel hv ht, by simp, hlast⟩

theorem skipsValues (limit : Nat) : SkipsValues limit := by
  induction limit with
  | zero =>
    intro opened text rest hlimit h
    obtain rfl : text = [] := List.length_eq_zero_iff.1 (Nat.le_zero.1 hlimit)
    obtain ⟨next, hstep, -⟩ := exists_step_of_skipFrom h
    cases hstep
  | succ limit ih =>
    intro opened text rest hlimit h
    obtain ⟨next, hstep, hnext⟩ := exists_step_of_skipFrom h
    cases text with
    | nil => cases hstep
    | cons c text =>
      have hbracket (bracket : Bracket) (hc : c = bracket.opening) : ∃ v left, Value v ∧
          c :: text = v ++ left ∧ skipOn opened .comma left = .ok rest := by
        subst hc
        rw [step_opening] at hstep
        cases hstep
        dsimp only at hnext
        rw [skipOn_skipBlank (by decide)] at hnext
        obtain ⟨t, left, ht, rfl, hleft⟩ := exists_items_of_skipOn ih true
          (Nat.le_of_succ_le_succ hlimit) hnext
        exact ⟨_, left, .bracketed ht, by simp, hleft⟩
      by_cases hlist : c = '['
      · exact hbracket .list hlist
      by_cases hobject : c = '\x7b'
      · exact hbracket .object hobject
      have hscalar : (skipScalar (c :: text)).map (SkipState.ended opened) = .ok next := by
        rw [← hstep]
        simp [SkipState.step, hlist, hobject]
      obtain ⟨left, hskip, hsame⟩ := exists_of_map_eq_ok hscalar
      cases hsame
      obtain ⟨v, hv, htext⟩ := exact_skipScalar.found (congrArg rests hskip)
      exact ⟨v, left, .scalar hv, htext, hnext⟩

/-- One value is passed over, with the blanks before it. -/
theorem exact_skipValue :
    Exact (fun text => rests (skipValue text)) EndsNumber fun _ => Led Value where
  found {text rest _} h := by
    obtain ⟨b, hb, htext⟩ := exists_blank text
    obtain ⟨v, left, hv, hseen, hleft⟩ := skipsValues _ (Nat.le_refl _) (ok_of_rests h)
    obtain rfl : left = rest := Except.ok.inj hleft
    exact ⟨b ++ v, ⟨b, v, hb, hv, rfl⟩, by rw [List.append_assoc, ← hseen, ← htext]⟩
  reads := by
    rintro _ rest _ ⟨b, v, hb, hv, rfl⟩ hrest
    obtain ⟨c, more, rfl, hblank, -⟩ := hv.exists_cons
    refine congrArg rests (?_ : skipValue _ = .ok rest)
    rw [List.append_assoc, skipValue, List.cons_append, hb.skipBlank_cons hblank]
    exact Derives.passedOver hv [] rest hrest

end Values

end ToolHost.Json
