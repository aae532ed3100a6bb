import ToolHost.Proofs.Json.CutValues
import ToolHost.Proofs.Json.Scalars

/-! How strings are spelled in a JSON text, told apart from how they are read. A reading is exact if it
takes from the front of a text what is spelled in a certain way, the whole of it and nothing else. So
whatever has two spellings is read alike from both. -/
namespace ToolHost.Json

variable {α β : Type} {text rest : List Char} {c : Char}

section Exactness

/-- A reading takes what is spelled in a certain way, if what is left of the text `Ends` it. -/
structure Exact (read : List Char → Reading α) (Ends : List Char → Prop)
    (Spelled : α → List Char → Prop) : Prop where
  found : ∀ {text rest : List Char} {a : α}, read text = .ok (a, rest) →
    ∃ t, Spelled a t ∧ text = t ++ rest
  reads : ∀ {t rest : List Char} {a : α}, Spelled a t → Ends rest → read (t ++ rest) = .ok (a, rest)

/-- Nothing is asked of what is left of a text. -/
def Anything (_ : List Char) : Prop := True

variable {read : List Char → Reading α} {Ends Ends' : List Char → Prop}
  {Spelled : α → List Char → Prop}

theorem Exact.congr {Spelled' : α → List Char → Prop} (h : Exact read Ends Spelled)
    (hsame : ∀ a t, Spelled a t ↔ Spelled' a t) : Exact read Ends Spelled' where
  found hread := by
    obtain ⟨t, ht, htext⟩ := h.found hread
    exact ⟨t, (hsame _ t).1 ht, htext⟩
  reads ht hrest := h.reads ((hsame _ _).2 ht) hrest

theorem Exact.ends (h : Exact read Ends Spelled) (hends : ∀ rest, Ends' rest → Ends rest) :
    Exact read Ends' Spelled where
  found hread := h.found hread
  reads ht hrest := h.reads ht (hends _ hrest)

/-- Nothing that is spelled can be taken for something else, or end elsewhere. -/
theorem Exact.unique (h : Exact read Ends Spelled) (a a' : α) {t t' rest rest' : List Char}
    (ht : Spelled a t) (ht' : Spelled a' t') (hrest : Ends rest) (hrest' : Ends rest')
    (hsame : t ++ rest = t' ++ rest') : a = a' ∧ t = t' ∧ rest = rest' := by
  have hread := h.reads ht hrest
  rw [hsame, h.reads ht' hrest'] at hread
  cases hread
  exact ⟨rfl, List.append_cancel_right hsame, rfl⟩

/-- Two readings one after the other. What the second takes has to end the first. -/
theorem Exact.bind {next : α → List Char → Reading β} {Spelled' : α → β → List Char → Prop}
    (h : Exact read Ends Spelled) (hnext : ∀ a, Exact (next a) Ends' (Spelled' a))
    (hends : ∀ {a b t rest}, Spelled' a b t → Ends' rest → Ends (t ++ rest)) :
    Exact (fun text => (read text).bind fun (a, rest) => next a rest) Ends'
      (fun b t => ∃ a t₁ t₂, Spelled a t₁ ∧ Spelled' a b t₂ ∧ t = t₁ ++ t₂) where
  found {text rest b} hread := by
    obtain ⟨⟨a, left⟩, hfirst, hsecond⟩ := exists_of_bind_eq_ok hread
    obtain ⟨t₁, ht₁, rfl⟩ := h.found hfirst
    obtain ⟨t₂, ht₂, rfl⟩ := (hnext a).found hsecond
    exact ⟨t₁ ++ t₂, ⟨a, t₁, t₂, ht₁, ht₂, rfl⟩, (List.append_assoc _ _ _).symm⟩
  reads := by
    rintro t rest b ⟨a, t₁, t₂, ht₁, ht₂, rfl⟩ hrest
    rw [List.append_assoc, h.reads ht₁ (hends ht₂ hrest)]
    exact (hnext a).reads ht₂ hrest

end Exactness

section Escapes

/-- A number in four hexadecimal digits. -/
inductive Code (n : Nat) : List Char → Prop where
  | digits {a b c d : Char} (h : hexValue? a b c d = some n) : Code n [a, b, c, d]

theorem hexDigit?_lt {n : Nat} (h : hexDigit? c = some n) : n < 16 := by
  unfold hexDigit? at h
  split at h
  · rename_i hdigit
    have hle : c.toNat ≤ 57 := hdigit.2
    cases h
    rw [show '0'.toNat = 48 from rfl]
    omega
  · split at h
    · rename_i hsmall
      have hle : c.toNat ≤ 102 := hsmall.2
      cases h
      rw [show 'a'.toNat = 97 from rfl]
      omega
    · split at h
      · rename_i hlarge
        have hle : c.toNat ≤ 70 := hlarge.2
        cases h
        rw [show 'A'.toNat = 65 from rfl]
        omega
      · cases h

theorem Code.lt {n : Nat} {digits : List Char} (h : Code n digits) : n < 0x10000 := by
  obtain ⟨hvalue⟩ := h
  simp only [hexValue?, Option.bind_eq_bind, Option.bind_eq_some_iff] at hvalue
  obtain ⟨a, ha, b, hb, c, hc, d, hd, heq⟩ := hvalue
  have ha := hexDigit?_lt ha
  have hb := hexDigit?_lt hb
  have hc := hexDigit?_lt hc
  have hd := hexDigit?_lt hd
  cases heq
  omega

theorem exact_readHex : Exact readHex Anything Code where
  found {text rest n} h := by
    unfold readHex at h
    split at h
    · rename_i a b c d left
      split at h
      · rename_i hvalue
        cases h
        exact ⟨[a, b, c, d], ⟨hvalue⟩, rfl⟩
      · cases h
    · cases h
  reads := by
    rintro _ rest n ⟨hvalue⟩ -
    simp only [List.cons_append, List.nil_append, readHex, hvalue]

/-- What stands for a character behind a backslash. -/
inductive Escape (e : Char) : List Char → Prop where
  | short {c : Char} (h : simpleEscape? c = some e) : Escape e [c]
  | code {digits : List Char} (h : Code e.toNat digits) : Escape e ('u' :: digits)
  /-- A character beyond the first plane is cut in two halves of ten bits. -/
  | pair {high low : Nat} {front back : List Char} (hfront : Code high front)
    (hback : Code low back) (hhigh : isLeadingSurrogate high = true)
    (hlow : isTrailingSurrogate low = true)
    (h : e.toNat = 0x10000 + (high - 0xD800) * 0x400 + (low - 0xDC00)) :
    Escape e ('u' :: (front ++ '\\' :: 'u' :: back))

theorem toNat_ofNat_of_isValidChar {n : Nat} (h : n.isValidChar) : (Char.ofNat n).toNat = n := by
  rw [Char.ofNat, dif_pos h]
  rfl

theorem toNat_joinSurrogates {high low : Nat} (hhigh : isLeadingSurrogate high = true)
    (hlow : isTrailingSurrogate low = true) :
    (joinSurrogates high low).toNat = 0x10000 + (high - 0xD800) * 0x400 + (low - 0xDC00) := by
  simp only [isLeadingSurrogate, isTrailingSurrogate, Bool.and_eq_true, decide_eq_true_eq] at hhigh hlow
  have hvalid : Nat.isValidChar ((high - 0xD800) * 0x400 + (low - 0xDC00) + 0x10000) := by
    right
    omega
  rw [joinSurrogates, toNat_ofNat_of_isValidChar hvalid]
  omega

/-- No character is half of a pair. -/
theorem not_surrogate (e : Char) :
    isTrailingSurrogate e.toNat = false ∧ isLeadingSurrogate e.toNat = false := by
  have hvalid : e.toNat < 0xD800 ∨ 0xDFFF < e.toNat ∧ e.toNat < 0x110000 := e.valid
  simp only [isLeadingSurrogate, isTrailingSurrogate, Bool.and_eq_false_iff, decide_eq_false_iff_not]
  omega

theorem toNat_ofNat_of_not_surrogate {n : Nat} (h : n < 0x10000)
    (htrailing : isTrailingSurrogate n = false) (hleading : isLeadingSurrogate n = false) :
    (Char.ofNat n).toNat = n := by
  simp only [isLeadingSurrogate, isTrailingSurrogate, Bool.and_eq_false_iff,
    decide_eq_false_iff_not] at htrailing hleading
  have hvalid : Nat.isValidChar n := by
    rw [Nat.isValidChar]
    omega
  exact toNat_ofNat_of_isValidChar hvalid

/-- The other half of a pair follows in an escape of its own. -/
theorem exact_readTrailingSurrogate (high : Nat) : Exact (readTrailingSurrogate high) Anything
    fun e t => ∃ low back, Code low back ∧ isTrailingSurrogate low = true ∧
      joinSurrogates high low = e ∧ t = '\\' :: 'u' :: back where
  found {text rest e} h := by
    obtain ⟨behind, rfl⟩ := exists_of_readTrailingSurrogate h
    rw [readTrailingSurrogate_escape] at h
    obtain ⟨⟨low, left⟩, hhex, hlow⟩ := exists_of_bind_eq_ok h
    obtain ⟨back, hback, rfl⟩ := exact_readHex.found hhex
    dsimp only at hlow
    split at hlow
    · rename_i htrailing
      obtain ⟨rfl, rfl⟩ := Prod.mk.inj (Except.ok.inj hlow)
      exact ⟨'\\' :: 'u' :: back, ⟨low, back, hback, htrailing, rfl, rfl⟩, rfl⟩
    · cases hlow
  reads := by
    rintro _ rest e ⟨low, back, hback, htrailing, rfl, rfl⟩ -
    rw [List.cons_append, List.cons_append, readTrailingSurrogate_escape,
      exact_readHex.reads hback trivial]
    exact if_pos htrailing

theorem exact_readEscape : Exact readEscape Anything Escape where
  found {text rest e} h := by
    cases text with
    | nil => cases h
    | cons c text =>
      by_cases hcode : c = 'u'
      · subst hcode
        rw [readEscape, readUnicodeEscape_eq] at h
        obtain ⟨⟨n, left⟩, hhex, hescape⟩ := exists_of_bind_eq_ok h
        obtain ⟨digits, hdigits, rfl⟩ := exact_readHex.found hhex
        dsimp only at hescape
        cases htrailing : isTrailingSurrogate n with
        | true =>
          rw [htrailing] at hescape
          cases hescape
        | false =>
          cases hleading : isLeadingSurrogate n with
          | true =>
            rw [htrailing, hleading] at hescape
            obtain ⟨_, ⟨low, back, hback, hlow, rfl, rfl⟩, rfl⟩ :=
              (exact_readTrailingSurrogate n).found hescape
            have hchar := toNat_joinSurrogates hleading hlow
            exact ⟨_, .pair hdigits hback hleading hlow hchar, by simp⟩
          | false =>
            rw [htrailing, hleading] at hescape
            cases hescape
            have hchar := toNat_ofNat_of_not_surrogate hdigits.lt htrailing hleading
            exact ⟨_, .code (hchar.symm ▸ hdigits), rfl⟩
      · rw [readEscape_of_ne hcode] at h
        cases hsimple : simpleEscape? c with
        | none =>
          rw [hsimple] at h
          cases h
        | some e =>
          rw [hsimple] at h
          cases h
          exact ⟨[c], .short hsimple, rfl⟩
  reads {t rest e} h _ := by
    cases h with
    | @short c hsimple =>
      have hcode : c ≠ 'u' := by
        rintro rfl
        cases hsimple
      rw [List.cons_append, readEscape_of_ne hcode, hsimple]
      rfl
    | @code digits hdigits =>
      obtain ⟨htrailing, hleading⟩ := not_surrogate e
      rw [List.cons_append, readEscape, readUnicodeEscape_eq, exact_readHex.reads hdigits trivial]
      dsimp only [Except.bind]
      rw [htrailing, hleading, Char.ofNat_toNat]
      rfl
    | @pair high low front back hfront hback hhigh hlow hchar =>
      have hnot : isTrailingSurrogate high = false := by
        simp only [isLeadingSurrogate, isTrailingSurrogate, Bool.and_eq_true, Bool.and_eq_false_iff,
          decide_eq_true_eq, decide_eq_false_iff_not] at hhigh ⊢
        omega
      have hjoin : joinSurrogates high low = e :=
        Char.toNat_inj.1 ((toNat_joinSurrogates hhigh hlow).trans hchar.symm)
      have htext : ('u' :: (front ++ '\\' :: 'u' :: back)) ++ rest =
          'u' :: (front ++ (('\\' :: 'u' :: back) ++ rest)) := by simp
      rw [htext, readEscape, readUnicodeEscape_eq, exact_readHex.reads hfront trivial]
      dsimp only [Except.bind]
      rw [hnot, hhigh]
      exact (exact_readTrailingSurrogate high).reads ⟨low, back, hback, hlow, hjoin, rfl⟩ trivial

end Escapes

section Strings

/-- Characters as they are spelled between quotes, each by itself or by one of its escapes. -/
inductive Characters : List Char → List Char → Prop where
  | nil : Characters [] []
  | plain {c : Char} {cs t : List Char} (hquote : c ≠ '"') (hslash : c ≠ '\\')
    (hcontrol : isControl c = false) (later : Characters cs t) : Characters (c :: cs) (c :: t)
  | escape {e : Char} {u cs t : List Char} (h : Escape e u) (later : Characters cs t) :
    Characters (e :: cs) ('\\' :: (u ++ t))

/-- A string as it is spelled, with its quotes. -/
def Literal (s : String) (t : List Char) : Prop :=
  ∃ body, Characters s.toList body ∧ t = '"' :: (body ++ ['"'])

theorem characters_self {cs : List Char}
    (h : ∀ c ∈ cs, c ≠ '"' ∧ c ≠ '\\' ∧ isControl c = false) : Characters cs cs := by
  induction cs with
  | nil => exact .nil
  | cons c cs ih =>
    obtain ⟨⟨hquote, hslash, hcontrol⟩, hlater⟩ := List.forall_mem_cons.1 h
    exact .plain hquote hslash hcontrol (ih hlater)

/-- A string of ordinary characters may be spelled by them. -/
theorem literal_self {s : String}
    (h : ∀ c ∈ s.toList, c ≠ '"' ∧ c ≠ '\\' ∧ isControl c = false) :
    Literal s ('"' :: (s.toList ++ ['"'])) :=
  ⟨s.toList, characters_self h, rfl⟩

theorem Characters.readString {cs body : List Char} (h : Characters cs body) (rest : List Char) :
    readString (body ++ '"' :: rest) = .ok (cs, rest) := by
  induction h with
  | nil => exact readString_quote rest
  | plain hquote hslash hcontrol _ ih =>
    rw [List.cons_append, readString_cons hquote hslash hcontrol, ih]
    rfl
  | escape hescape _ ih =>
    rw [List.cons_append, List.append_assoc, readString_escape (exact_readEscape.reads hescape trivial),
      ih]
    rfl

theorem exists_characters_of_readString {cs : List Char} (h : readString text = .ok (cs, rest)) :
    ∃ body, Characters cs body ∧ text = body ++ '"' :: rest := by
  induction hlength : text.length using Nat.strongRecOn generalizing text cs with
  | _ n ih =>
    cases text with
    | nil =>
      rw [readString_nil] at h
      cases h
    | cons c text =>
      rw [List.length_cons] at hlength
      by_cases hquote : c = '"'
      · subst hquote
        rw [readString_quote] at h
        cases h
        exact ⟨[], .nil, rfl⟩
      by_cases hslash : c = '\\'
      · subst hslash
        rw [readString_backslash] at h
        obtain ⟨⟨e, behind⟩, hescape, hlater⟩ := exists_of_bind_eq_ok h
        have hshorter := readEscape_length hescape
        obtain ⟨u, hu, rfl⟩ := exact_readEscape.found hescape
        obtain ⟨⟨later, left⟩, hstring, hsame⟩ := exists_of_map_eq_ok hlater
        cases hsame
        obtain ⟨body, hbody, rfl⟩ := ih behind.length (by omega) hstring rfl
        exact ⟨_, .escape hu hbody, by simp⟩
      · rw [readString_other hquote hslash] at h
        cases hcontrol : isControl c with
        | true =>
          rw [hcontrol] at h
          cases h
        | false =>
          rw [hcontrol] at h
          obtain ⟨⟨later, left⟩, hstring, hsame⟩ := exists_of_map_eq_ok h
          cases hsame
          obtain ⟨body, hbody, rfl⟩ := ih text.length (by omega) hstring rfl
          exact ⟨_, .plain hquote hslash hcontrol hbody, rfl⟩

/-- What may stand between quotes if nobody asks for the characters: half of a pair is enough. -/
inductive Letters : List Char → Prop where
  | nil : Letters []
  | plain {c : Char} {t : List Char} (hquote : c ≠ '"') (hslash : c ≠ '\\')
    (hcontrol : isControl c = false) (later : Letters t) : Letters (c :: t)
  | short {c : Char} {t : List Char} (h : (simpleEscape? c).isSome = true) (later : Letters t) :
    Letters ('\\' :: c :: t)
  | code {n : Nat} {digits t : List Char} (h : Code n digits) (later : Letters t) :
    Letters ('\\' :: 'u' :: (digits ++ t))

/-- Anything in quotes. -/
def Quoted (t : List Char) : Prop := ∃ body, Letters body ∧ t = '"' :: (body ++ ['"'])

theorem Characters.letters {cs body : List Char} (h : Characters cs body) : Letters body := by
  induction h with
  | nil => exact .nil
  | plain hquote hslash hcontrol _ ih => exact .plain hquote hslash hcontrol ih
  | escape hescape _ ih =>
    cases hescape with
    | short hsimple => exact .short (by rw [hsimple]; rfl) ih
    | code hdigits => exact .code hdigits ih
    | pair hfront hback =>
      rw [List.cons_append, List.append_assoc]
      exact .code hfront (.code hback ih)

theorem Literal.quoted {s : String} {t : List Char} (h : Literal s t) : Quoted t := by
  obtain ⟨body, hbody, rfl⟩ := h
  exact ⟨body, hbody.letters, rfl⟩

theorem Letters.skipString {body : List Char} (h : Letters body) (rest : List Char) :
    skipString (body ++ '"' :: rest) = .ok rest := by
  induction h with
  | nil => exact skipString_quote rest
  | plain hquote hslash hcontrol _ ih =>
    rw [List.cons_append, skipString_other hquote hslash, hcontrol]
    exact ih
  | @short c t hsimple _ ih =>
    have hcode : c ≠ 'u' := by
      rintro rfl
      cases hsimple
    rw [List.cons_append, List.cons_append, skipString_escape hcode, if_pos hsimple]
    exact ih
  | @code n digits t hdigits _ ih =>
    have hrests :
        rests (Json.skipString ('\\' :: 'u' :: (digits ++ (t ++ '"' :: rest)))) = .ok ((), rest) := by
      rw [rests_skipString_code, exact_readHex.reads hdigits trivial]
      exact congrArg rests ih
    rw [List.cons_append, List.cons_append, List.append_assoc]
    exact ok_of_rests hrests

theorem exists_letters_of_skipString (h : skipString text = .ok rest) :
    ∃ body, Letters body ∧ text = body ++ '"' :: rest := by
  induction hlength : text.length using Nat.strongRecOn generalizing text with
  | _ n ih =>
    cases text with
    | nil =>
      rw [skipString_nil] at h
      cases h
    | cons c text =>
      rw [List.length_cons] at hlength
      by_cases hquote : c = '"'
      · subst hquote
        rw [skipString_quote] at h
        cases h
        exact ⟨[], .nil, rfl⟩
      by_cases hslash : c = '\\'
      · subst hslash
        cases text with
        | nil =>
          rw [skipString_backslash_nil] at h
          cases h
        | cons d text =>
          rw [List.length_cons] at hlength
          by_cases hcode : d = 'u'
          · subst hcode
            have hrests := congrArg rests h
            rw [rests_skipString_code] at hrests
            obtain ⟨⟨n, behind⟩, hhex, hlater⟩ := exists_of_bind_eq_ok hrests
            have hshorter := readHex_length hhex
            obtain ⟨digits, hdigits, rfl⟩ := exact_readHex.found hhex
            obtain ⟨body, hbody, rfl⟩ := ih behind.length (by omega) (ok_of_rests hlater) rfl
            exact ⟨_, .code hdigits hbody, by simp⟩
          · rw [skipString_escape hcode] at h
            split at h
            · rename_i hsimple
              obtain ⟨body, hbody, rfl⟩ := ih text.length (by omega) h rfl
              exact ⟨_, .short hsimple hbody, rfl⟩
            · cases h
      · rw [skipString_other hquote hslash] at h
        cases hcontrol : isControl c with
        | true =>
          rw [hcontrol] at h
          cases h
        | false =>
          rw [hcontrol] at h
          obtain ⟨body, hbody, rfl⟩ := ih text.length (by omega) h rfl
          exact ⟨_, .plain hquote hslash hcontrol hbody, rfl⟩

end Strings

end ToolHost.Json
