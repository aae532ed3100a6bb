import ToolHost.Proofs.Config.Presentation

/-! Counts of seconds in the text of a configuration. A number at the place of the timeout is taken if
it is a count, digits for less than `2 ^ 64`, and then for exactly that count; any other number makes
the whole text no configuration. -/
namespace ToolHost

namespace Json
variable {t v rest left : List Char} {n : Numeral} {found : Found}

section Counts

/-- Digits for a number that fits 64 bits. -/
def IsCount (digits : List Char) : Prop := Digits digits ∧ digitsValue digits < 2 ^ 64

/-- A number as it stands in a text, with its sign. -/
inductive NumberToken : List Char → Prop where
  | plain {n : Numeral} {t : List Char} (h : n.Spelled t) : NumberToken t
  | negative {n : Numeral} {t : List Char} (h : n.Spelled t) : NumberToken ('-' :: t)

/-- Without a fraction and an exponent there is only the whole part. -/
theorem Numeral.Spelled.whole_eq (h : n.Spelled t) (hwhole : n.isWhole = true) : n.whole = t := by
  obtain @⟨whole, f, e, fraction, exponent, -, hf, he⟩ := h
  rw [isWhole_iff] at hwhole
  obtain ⟨rfl, rfl⟩ : fraction = none ∧ exponent = none := hwhole
  cases hf
  cases he
  simp

theorem Numeral.Spelled.isWhole_iff (h : n.Spelled t) : n.isWhole = true ↔ Digits t := by
  constructor
  · intro hwhole
    have hsame := h.whole_eq hwhole
    obtain ⟨hdigits, -, -⟩ := h
    exact hsame ▸ hdigits.1
  · obtain @⟨whole, f, e, fraction, exponent, -, hf, he⟩ := h
    rintro ⟨-, hdigits⟩
    -- the mark of a fraction or an exponent is no digit
    cases hf with
    | there hc =>
      have hdigit := hdigits _ (List.mem_append_right _ List.mem_cons_self)
      rw [eq_of_beq hc] at hdigit
      cases hdigit
    | missing =>
      cases he with
      | missing => rfl
      | there hc =>
        have hdigit := hdigits _ (List.mem_append_right _ List.mem_cons_self)
        obtain rfl | rfl : _ = 'e' ∨ _ = 'E' := by simpa using hc
        all_goals cases hdigit

theorem NumberToken.exists_cons (h : NumberToken t) :
    ∃ c more, t = c :: more ∧ (c.isDigit = true ∨ c = '-') := by
  cases h with
  | plain h =>
    obtain ⟨c, more, rfl, hdigit⟩ := h.exists_digit
    exact ⟨c, more, rfl, .inl hdigit⟩
  | negative h => exact ⟨'-', _, rfl, .inr rfl⟩

theorem NumberToken.scalar (h : NumberToken t) : Scalar t := by
  cases h with
  | plain h => exact .number h
  | negative h => exact .negative h

theorem le_greatestWhole_iff {value : Nat} : value ≤ greatestWhole ↔ value < 2 ^ 64 := by
  rw [greatestWhole]
  omega

/-- What says a count is one: digits without a sign. -/
theorem isCount_of_says {count : Nat} (h : Says (.integer count) t) :
    IsCount t ∧ digitsValue t = count := by
  generalize hfound : Found.integer count = found at h
  cases h with
  | word hword => cases hword <;> cases hfound
  | text => cases hfound
  | @number n x _ hn hvalue =>
    cases x with
    | fractional => cases hfound
    | integer value =>
      cases hfound
      obtain ⟨-, hwhole, hle, hcount⟩ := number_eq_count_iff.1 hvalue
      rw [hn.whole_eq hwhole] at hle hcount
      exact ⟨⟨hn.isWhole_iff.1 hwhole, le_greatestWhole_iff.1 hle⟩, hcount⟩
  | @negative n x _ hn hvalue =>
    cases x with
    | fractional => cases hfound
    | integer value =>
      cases hfound
      obtain ⟨hsign, -⟩ := number_eq_count_iff.1 hvalue
      cases hsign

theorem NumberToken.says_of_isCount (h : NumberToken t) (hcount : IsCount t) :
    Says (.integer (digitsValue t : Nat)) t := by
  obtain ⟨hdigits, hlimit⟩ := hcount
  cases h with
  | negative =>
    have hsign := hdigits.2 '-' List.mem_cons_self
    cases hsign
  | @plain n _ hn =>
    have hwhole := hn.isWhole_iff.2 hdigits
    have hvalue : n.number false [] = .ok (.integer (digitsValue t : Nat)) := by
      rw [← hn.whole_eq hwhole] at hlimit ⊢
      exact number_eq_count_iff.2 ⟨rfl, hwhole, le_greatestWhole_iff.2 hlimit, rfl⟩
    exact .number hn hvalue

theorem Numeral.Spelled.number_of_readNumber {negative : Bool} {x : Number} (h : n.Spelled t)
    (hrest : EndsNumber rest) (hread : readNumber negative (t ++ rest) = .ok (x, left)) :
    n.number negative [] = .ok x ∧ left = rest := by
  rw [readNumber_eq, exact_readNumeral.reads h hrest] at hread
  obtain ⟨x, hvalue, hsame⟩ := exists_of_map_eq_ok hread
  cases hsame
  exact ⟨number_of_rest hvalue [], rfl⟩

/-- A number is read to its end, for what it says. -/
theorem NumberToken.says_of_readScalar (h : NumberToken v) (hrest : EndsNumber rest)
    (hread : readScalar (v ++ rest) = .ok (found, left)) : Says found v ∧ left = rest := by
  cases h with
  | plain hn =>
    obtain ⟨c, more, rfl, hdigit⟩ := hn.exists_digit
    rw [List.cons_append, readScalar_of_isDigit hdigit] at hread
    obtain ⟨_, hnumber, hsame⟩ := exists_of_map_eq_ok hread
    cases hsame
    obtain ⟨hvalue, rfl⟩ := hn.number_of_readNumber hrest hnumber
    exact ⟨.number hn hvalue, rfl⟩
  | negative hn =>
    obtain ⟨_, hnumber, hsame⟩ := exists_of_map_eq_ok hread
    cases hsame
    obtain ⟨hvalue, rfl⟩ := hn.number_of_readNumber hrest hnumber
    exact ⟨.negative hn hvalue, rfl⟩

/-- What is wanted of a number is judged by what it says. -/
theorem NumberToken.accepted_of_expect {α : Type} {wanted : String} {accept : Found → Option α} {a : α}
    (h : NumberToken v) (hrest : EndsNumber rest)
    (hread : (expect wanted accept).read (v ++ rest) = .ok (a, left)) :
    Accepted accept a v ∧ left = rest := by
  obtain ⟨c, more, rfl, hblank, hlist, hobject, -⟩ := h.scalar.exists_cons
  have hseen : skipBlank (c :: (more ++ rest)) = c :: (more ++ rest) :=
    Blank.nil.skipBlank_cons hblank _
  rw [read_expect, List.cons_append, hseen, readUnbracketed_other (fun _ h => hlist (List.cons.inj h).1)
    (fun _ h => hobject (List.cons.inj h).1)] at hread
  obtain ⟨⟨found, behind⟩, hscalar, htake⟩ := exists_of_bind_eq_ok hread
  obtain ⟨hsaid, rfl⟩ := h.says_of_readScalar hrest hscalar
  unfold takeFound at htake
  dsimp only at htake
  split at htake
  · rename_i haccept
    cases htake
    exact ⟨⟨found, hsaid, haccept⟩, rfl⟩
  · cases htake

end Counts

section Places
variable {α : Type} {first last : Bool} {key name : String} {ms ms' : List (String × List Char)}

/-- The members of an object up to some place in it, where the next one is the first or not. -/
inductive MembersBefore : Bool → List (String × List Char) → List Char → Bool → Prop where
  | nothing {first : Bool} : MembersBefore first [] [] first
  | member {first last : Bool} {key : String} {ms : List (String × List Char)}
    {lead label v t : List Char} (hlead : Lead first lead) (hlabel : Labelled key label)
    (hvalue : Value v) (later : MembersBefore false ms t last) :
    MembersBefore first ((key, v) :: ms) (lead ++ (label ++ (v ++ t))) last

theorem MembersBefore.append {t' : List Char} (h : MembersBefore first ms t last)
    (h' : Members last ms' t') : Members first (ms ++ ms') (t ++ t') := by
  induction h with
  | nothing => exact h'
  | member hlead hlabel hvalue _ ih =>
    have hall := Members.member hlead hlabel hvalue (ih h')
    simpa only [List.append_assoc, List.cons_append] using hall

theorem valuesOf_append (name : String) (ms ms' : List (String × List Char)) :
    valuesOf name (ms ++ ms') = valuesOf name ms ++ valuesOf name ms' := by
  simp [valuesOf]

variable {Meaning : α → List Char → Prop} {now : Option α}

theorem Given.of_values (h : Given name Meaning ms now) (hvalues : valuesOf name ms = valuesOf name ms') :
    Given name Meaning ms' now := by
  cases h with
  | absent hnone => exact .absent (hvalues.symm.trans hnone)
  | present hone hv => exact .present (hvalues.symm.trans hone) hv

/-- The value of a member does not matter for another name. -/
theorem Given.exchange (h : Given name Meaning (ms ++ (key, v) :: ms') now) (hne : key ≠ name)
    (w : List Char) : Given name Meaning (ms ++ (key, w) :: ms') now := by
  refine h.of_values ?_
  rw [valuesOf_append, valuesOf_append, valuesOf_cons_of_ne hne, valuesOf_cons_of_ne hne]

/-- A member with a meaning is the only one of its name. -/
theorem Given.of_member (h : Given key Meaning (ms ++ (key, v) :: ms') now) :
    valuesOf key ms = [] ∧ valuesOf key ms' = [] ∧ ∃ a, now = some a ∧ Meaning a v := by
  cases h with
  | absent hnone =>
    rw [valuesOf_append, valuesOf_cons_self] at hnone
    simp at hnone
  | @present a _ hone hv =>
    rw [valuesOf_append, valuesOf_cons_self, List.append_eq_singleton_iff] at hone
    rcases hone with ⟨hbefore, hvalue⟩ | ⟨-, hvalue⟩
    · obtain ⟨rfl, hafter⟩ := List.cons.inj hvalue
      exact ⟨hbefore, hafter, a, rfl, hv⟩
    · cases hvalue

theorem readElement_of_lead {reader : Reader α} {c : Char} {lead : List Char} (hlead : Lead first lead)
    (hblank : isBlank c = false) (hc : c ≠ ']') (text : List Char) :
    readElement first reader (lead ++ c :: text) =
      (reader.read (c :: text)).map fun (a, rest) => (some a, rest) := by
  rw [readElement_eq, nextElement_of_lead hlead hblank hc]
  dsimp only [Except.bind]
  rw [if_pos rfl, Reader.read_map]

end Places

end Json

namespace Config
open Json
variable {v w rest left back : List Char} {count? : Option UInt64} {f : Fields}
  {before after : List (String × List Char)}

/-- Of all numbers only a count means a timeout, and exactly that one. -/
theorem timeoutMeaning_number_iff (h : NumberToken v) :
    TimeoutMeaning count? v ↔ IsCount v ∧ count? = some (UInt64.ofNat (digitsValue v)) := by
  constructor
  · rintro ⟨seconds?, ⟨found, hsays, haccept⟩, hcounts⟩
    cases found with
    | null =>
      obtain ⟨c, more, rfl, hstart⟩ := h.exists_cons
      generalize hfound : Found.null = found at hsays
      cases hsays with
      | word hword =>
        cases hword with
        | null => simp [Char.isDigit] at hstart
        | _ => cases hfound
      | text => cases hfound
      | @number _ x => cases x <;> cases hfound
      | @negative _ x => cases x <;> cases hfound
    | integer value =>
      obtain rfl : some value = seconds? := Option.some.inj haccept
      obtain ⟨hpos, rfl⟩ := hcounts
      obtain ⟨count, rfl⟩ := Int.eq_ofNat_of_zero_le hpos
      obtain ⟨hcount, rfl⟩ := isCount_of_says hsays
      exact ⟨hcount, rfl⟩
    | _ => cases haccept
  · rintro ⟨hcount, rfl⟩
    exact ⟨some (digitsValue v : Nat), ⟨_, h.says_of_isCount hcount, rfl⟩, Int.natCast_nonneg _, rfl⟩

/-- The word for nothing. -/
def nullText : List Char := ['n', 'u', 'l', 'l']

theorem timeoutMeaning_null : TimeoutMeaning none nullText := ⟨none, ⟨.null, .word .null, rfl⟩, rfl⟩

theorem timeoutMeaning_of_readTimeout (h : NumberToken v) (hrest : EndsNumber rest)
    (hread : readTimeout.read (v ++ rest) = .ok (count?, left)) :
    TimeoutMeaning count? v ∧ left = rest := by
  rw [readTimeout, Reader.read_check] at hread
  obtain ⟨⟨seconds?, behind⟩, hexpect, hjudge⟩ := exists_of_bind_eq_ok hread
  obtain ⟨haccepted, rfl⟩ := h.accepted_of_expect hrest hexpect
  obtain ⟨count?, hcount, hsame⟩ := exists_of_map_eq_ok hjudge
  cases hsame
  refine ⟨⟨seconds?, haccepted, ?_⟩, rfl⟩
  cases seconds? with
  | none =>
    cases hcount
    rfl
  | some value =>
    dsimp only at hcount
    split at hcount
    · cases hcount
    · rename_i hpos
      cases hcount
      exact ⟨Int.not_lt.1 hpos, rfl⟩

section Places

/-- The text around the value of the timeout in a configuration: an object has a member of this name,
and in a list it is the second element. -/
inductive TimeoutPlace : List Char → List Char → Prop where
  | member {b b' front lead label back : List Char} {before after : List (String × List Char)}
    {first : Bool} (hb : Blank b) (hb' : Blank b') (hbefore : MembersBefore true before front first)
    (hlead : Lead first lead) (hlabel : Labelled "timeout_secs" label)
    (hafter : Members false after back) :
    TimeoutPlace (b ++ '\x7b' :: (front ++ (lead ++ label))) (back ++ '\x7d' :: b')
  | element {b b' lead p lead' back : List Char} {baseDir? : Option Path} (hb : Blank b)
    (hb' : Blank b') (hlead : Lead true lead) (hp : Accepted (orNull Found.text?) baseDir? p)
    (hlead' : Lead false lead') (hback : Derives (.items .list false) back) :
    TimeoutPlace (b ++ '[' :: (lead ++ (p ++ lead'))) (back ++ ']' :: b')

theorem FieldsMeaning.timeout_of_member
    (h : FieldsMeaning f (before ++ ("timeout_secs", v) :: after)) :
    ∃ count?, f.timeoutSecs? = some count? ∧ TimeoutMeaning count? v :=
  h.timeoutSecs.of_member.2.2

/-- Another value for the timeout changes nothing else. -/
theorem FieldsMeaning.exchange (h : FieldsMeaning f (before ++ ("timeout_secs", v) :: after))
    (hw : TimeoutMeaning count? w) :
    FieldsMeaning { f with timeoutSecs? := some count? } (before ++ ("timeout_secs", w) :: after) where
  baseDir := h.baseDir.exchange (by decide) w
  timeoutSecs := by
    obtain ⟨hbefore, hafter, -⟩ := h.timeoutSecs.of_member
    refine .present ?_ hw
    rw [valuesOf_append, valuesOf_cons_self, hbefore, hafter, List.nil_append]
  chdirToTool := h.chdirToTool.exchange (by decide) w
  tools := h.tools.exchange (by decide) w

/-- The fields of a list behind the first two. -/
def elementsBehind (baseDir? : Option Path) (count? : Option UInt64) (text : List Char) :
    Reading HostConfig :=
  (readElement false readFlag text).bind fun (chdirToTool?, rest) =>
    (readElement false (readTools pastBracket) rest).bind fun (tools?, rest) =>
      (closeList rest).map fun rest =>
        (Fields.toConfig ⟨some baseDir?, some count?, chdirToTool?, tools?⟩, rest)

/-- What follows the timeout does not depend on it. -/
theorem elementsBehind_exchange {baseDir? : Option Path} {config : HostConfig}
    (h : elementsBehind baseDir? count? back = .ok (config, rest)) (count'? : Option UInt64) :
    config.timeoutSecs? = count? ∧
      elementsBehind baseDir? count'? back = .ok ({ config with timeoutSecs? := count'? }, rest) := by
  obtain ⟨⟨chdirToTool?, left⟩, hflag, hbehind⟩ := exists_of_bind_eq_ok h
  obtain ⟨⟨tools?, left'⟩, htools, hend⟩ := exists_of_bind_eq_ok hbehind
  obtain ⟨last, hclose, hsame⟩ := exists_of_map_eq_ok hend
  cases hsame
  refine ⟨rfl, ?_⟩
  rw [elementsBehind, hflag]
  dsimp only [Except.bind]
  rw [htools]
  dsimp only
  rw [hclose]
  rfl

theorem readConfigElements_base {baseDir? : Option Path} {lead p lead' : List Char}
    (hlead : Lead true lead) (hp : Accepted (orNull Found.text?) baseDir? p) (hlead' : Lead false lead')
    (text : List Char) : readConfigElements.read (lead ++ (p ++ (lead' ++ text))) =
      (readElement false readTimeout (lead' ++ text)).bind fun (timeoutSecs?, rest) =>
        (readElement false readFlag rest).bind fun (chdirToTool?, rest) =>
          (readElement false (readTools pastBracket) rest).bind fun (tools?, rest) =>
            (closeList rest).map fun rest =>
              (Fields.toConfig ⟨some baseDir?, timeoutSecs?, chdirToTool?, tools?⟩, rest) := by
  have hbase : readElement true readBaseDir (lead ++ (p ++ (lead' ++ text))) =
      .ok (some baseDir?, lead' ++ text) :=
    (expect_means _ _).readElement hlead hp (hlead'.endsNumber text)
  rw [readConfigElements_eq, hbase]
  rfl

theorem readConfigElements_timeout {baseDir? : Option Path} {lead p lead' : List Char}
    (hlead : Lead true lead) (hp : Accepted (orNull Found.text?) baseDir? p) (hlead' : Lead false lead')
    (hv : TimeoutMeaning count? v) (hback : EndsNumber back) :
    readConfigElements.read (lead ++ (p ++ (lead' ++ (v ++ back)))) =
      elementsBehind baseDir? count? back := by
  rw [readConfigElements_base hlead hp hlead', readTimeout_means.readElement hlead' hv hback]
  rfl

theorem exists_timeoutMeaning_of_element {lead' : List Char} {found : Option (Option UInt64)}
    (hv : NumberToken v) (hlead' : Lead false lead') (hrest : EndsNumber rest)
    (h : readElement false readTimeout (lead' ++ (v ++ rest)) = .ok (found, left)) :
    ∃ count?, TimeoutMeaning count? v := by
  obtain ⟨c, more, rfl, hblank, -, -, hc, -⟩ := hv.scalar.exists_cons
  rw [List.cons_append, readElement_of_lead hlead' hblank hc] at h
  obtain ⟨⟨count?, behind⟩, hread, -⟩ := exists_of_map_eq_ok h
  exact ⟨count?, (timeoutMeaning_of_readTimeout hv hrest hread).1⟩

end Places

end Config

namespace HostConfig
open Json Config
variable {v w front back : List Char} {count? count'? : Option UInt64} {config : HostConfig}

/-- The object in a text decides what configuration it is. -/
theorem ofJson_object_iff {text : String} {ms : List (String × List Char)} (htext : Holds text v)
    (hobject : Object ms v) :
    ofJson text = .ok config ↔ ∃ f, FieldsMeaning f ms ∧ f.toConfig = config := by
  constructor
  · intro h
    have hbrace : (skipBlank text.toList).head? = some '\x7b' := by
      obtain ⟨b, b', hb, -, htext⟩ := htext
      obtain ⟨body, -, rfl⟩ := hobject
      rw [htext, List.cons_append, hb.skipBlank_cons rfl]
      rfl
    obtain ⟨v', ms', f, htext', hobject', hmeans, rfl⟩ := exists_fields_of_ofJson h hbrace
    obtain rfl := htext.unique htext' hobject.value hobject'.value
    obtain rfl := hobject.unique hobject'
    exact ⟨f, hmeans, rfl⟩
  · rintro ⟨f, hmeans, rfl⟩
    exact ofJson_of_fields htext hobject hmeans

/-- A list is read element by element. -/
theorem ofJson_list_iff {text : String} {b lead p lead' rest : List Char} (hb : Blank b)
    (htext : text.toList = b ++ '[' :: (lead ++ (p ++ lead')) ++ (v ++ rest)) :
    ofJson text = .ok config ↔
      ∃ left, readConfigElements.read (lead ++ (p ++ (lead' ++ (v ++ rest)))) = .ok (config, left) ∧
        skipBlank left = [] := by
  have hlist : text.toList = b ++ '[' :: (lead ++ (p ++ (lead' ++ (v ++ rest)))) := by
    rw [htext]
    simp
  rw [ofJson_eq_ok_iff, readDocument_eq_ok_iff, hlist, readConfig,
    record_of_bracket (hb.skipBlank_cons rfl _)]

/-- Whatever value stands at the place in an object, the text is an object with it. -/
theorem exists_object_of_member {text : String} {b b' members lead label : List Char}
    {before after : List (String × List Char)} {first : Bool} (hb : Blank b) (hb' : Blank b')
    (hbefore : MembersBefore true before members first) (hlead : Lead first lead)
    (hlabel : Labelled "timeout_secs" label) (hafter : Members false after back) (hv : Value v)
    (htext : text.toList =
      b ++ '\x7b' :: (members ++ (lead ++ label)) ++ (v ++ (back ++ '\x7d' :: b'))) :
    ∃ o, Holds text o ∧ Object (before ++ ("timeout_secs", v) :: after) o := by
  have hobject := hbefore.append (.member hlead hlabel hv hafter)
  refine ⟨_, ⟨b, b', hb, hb', ?_⟩, _, hobject, rfl⟩
  rw [htext]
  simp

/-- A number at the place of the timeout means it. -/
theorem timeoutMeaning_of_place {text : String} (h : TimeoutPlace front back) (hv : NumberToken v)
    (htext : text.toList = front ++ (v ++ back)) (hok : ofJson text = .ok config) :
    TimeoutMeaning config.timeoutSecs? v := by
  cases h with
  | member hb hb' hbefore hlead hlabel hafter =>
    obtain ⟨o, hholds, hobject⟩ :=
      exists_object_of_member hb hb' hbefore hlead hlabel hafter (.scalar hv.scalar) htext
    obtain ⟨f, hmeans, rfl⟩ := (ofJson_object_iff hholds hobject).1 hok
    obtain ⟨count?, hcount, hmeaning⟩ := hmeans.timeout_of_member
    rw [Fields.toConfig, hcount]
    exact hmeaning
  | @element b b' lead p lead' back baseDir? hb hb' hlead hp hlead' hback =>
    have hends : EndsNumber (back ++ ']' :: b') := hback.endsNumber b'
    obtain ⟨left, hread, -⟩ := (ofJson_list_iff hb htext).1 hok
    have helements := hread
    rw [readConfigElements_base hlead hp hlead'] at helements
    obtain ⟨_, htimeout, -⟩ := exists_of_bind_eq_ok helements
    obtain ⟨count?, hmeaning⟩ := exists_timeoutMeaning_of_element hv hlead' hends htimeout
    rw [readConfigElements_timeout hlead hp hlead' hmeaning hends] at hread
    rw [(elementsBehind_exchange hread none).1]
    exact hmeaning

/-- Another value at the place of the timeout gives another timeout and changes nothing else. -/
theorem ofJson_exchange {text text' : String} (h : TimeoutPlace front back)
    (hv : TimeoutMeaning count? v) (hw : TimeoutMeaning count'? w)
    (htext : text.toList = front ++ (v ++ back)) (htext' : text'.toList = front ++ (w ++ back))
    (hok : ofJson text = .ok config) :
    ofJson text' = .ok { config with timeoutSecs? := count'? } := by
  cases h with
  | member hb hb' hbefore hlead hlabel hafter =>
    obtain ⟨o, hholds, hobject⟩ := exists_object_of_member hb hb' hbefore hlead hlabel hafter
      (readTimeout_means.value hv) htext
    obtain ⟨o', hholds', hobject'⟩ := exists_object_of_member hb hb' hbefore hlead hlabel hafter
      (readTimeout_means.value hw) htext'
    obtain ⟨f, hmeans, rfl⟩ := (ofJson_object_iff hholds hobject).1 hok
    exact (ofJson_object_iff hholds' hobject').2 ⟨_, hmeans.exchange hw, rfl⟩
  | @element b b' lead p lead' back baseDir? hb hb' hlead hp hlead' hback =>
    have hends : EndsNumber (back ++ ']' :: b') := hback.endsNumber b'
    obtain ⟨left, hread, hblank⟩ := (ofJson_list_iff hb htext).1 hok
    rw [readConfigElements_timeout hlead hp hlead' hv hends] at hread
    refine (ofJson_list_iff hb htext').2 ⟨left, ?_, hblank⟩
    rw [readConfigElements_timeout hlead hp hlead' hw hends]
    exact (elementsBehind_exchange hread count'?).2

/-- Where any other value may stand, a number is accepted as a timeout exactly if it is a count, and then
the timeout is that count. -/
theorem ofJson_number_iff {text nothing : String} (h : TimeoutPlace front back) (hv : NumberToken v)
    (htext : text.toList = front ++ (v ++ back))
    (hnothing : nothing.toList = front ++ (nullText ++ back)) :
    ofJson text = .ok config ↔ IsCount v ∧ ∃ other, ofJson nothing = .ok other ∧
      config = { other with timeoutSecs? := some (UInt64.ofNat (digitsValue v)) } := by
  constructor
  · intro hok
    have hmeaning := timeoutMeaning_of_place h hv htext hok
    obtain ⟨hcount, hsome⟩ := (timeoutMeaning_number_iff hv).1 hmeaning
    have hother := ofJson_exchange h hmeaning timeoutMeaning_null htext hnothing hok
    exact ⟨hcount, _, hother, by rw [← hsome]⟩
  · rintro ⟨hcount, other, hother, rfl⟩
    have hmeaning := (timeoutMeaning_number_iff hv).2 ⟨hcount, rfl⟩
    exact ofJson_exchange h timeoutMeaning_null hmeaning hnothing htext hother

end HostConfig
end ToolHost
