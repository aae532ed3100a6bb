import Mathlib.Data.List.TakeWhile
import ToolHost.Proofs.Json.Sequences

/-! Readings of a text that is cut off, beside those of the whole text. Where the whole text is
accepted, a cut that the reading has not come to changes nothing about it. One that it has come to is
noticed: the text ends too early there or is no JSON, but it is never taken for something that does not
fit. Only a number may end at a cut and be taken for another number, which it is then for what comes
next to notice that nothing does. -/
namespace ToolHost.Json

variable {α β : Type}

/-- Something can be seen in a text. -/
def Visible (text : List Char) : Prop := ∃ c ∈ text, isBlank c = false

/-- A reading of a text that is cut off, and the one of the whole text, where `back` is what was cut
off. `Grown` tells what a value may become that ends at the cut. -/
inductive Cut (Grown : α → α → Prop) (back : List Char) : Reading α → Reading α → Prop where
  /-- About a text that is refused as a whole nothing is said. -/
  | refused (x : Reading α) (fault : Fault) : Cut Grown back x (.error fault)
  | kept (a : α) (rest : List Char) : Cut Grown back (.ok (a, rest)) (.ok (a, rest ++ back))
  | broken {fault : Fault} (h : fault.cause.kind ≠ .misfit) (hback : Visible back) (y : Reading α) :
    Cut Grown back (.error fault) y
  | ended {a b : α} (h : Grown a b) (hback : Visible back) (rest : List Char) :
    Cut Grown back (.ok (a, [])) (.ok (b, rest))

/-- A reading that goes on does not become another one, but fails. -/
def Never (_ _ : α) : Prop := False

/-- A reading may become any other. -/
def Always (_ _ : α) : Prop := True

/-- A reading fails, and not because something does not fit. -/
def BreaksOff (x : Except Fault α) : Prop := ∃ fault, x = .error fault ∧ fault.cause.kind ≠ .misfit

/-- What becomes of a reading when its text is cut off, wherever that is. -/
def BearsCuts (Grown : α → α → Prop) (read : List Char → Reading α) : Prop :=
  ∀ front back, Cut Grown back (read front) (read (front ++ back))

namespace Cut
variable {Grown : α → α → Prop} {Grown' : β → β → Prop} {back : List Char} {x y : Reading α}

/-- A reading that breaks off where the whole one finds something to go on with. -/
theorem of_error {fault : Fault} (h : fault.cause.kind ≠ .misfit)
    (hback : ∀ b rest, y = .ok (b, rest) → Visible back) : Cut Grown back (.error fault) y := by
  cases y with
  | error fault' => exact .refused _ fault'
  | ok found => exact .broken h (hback found.1 found.2 rfl) _

theorem bind {f g : α × List Char → Reading β} (h : Cut Grown back x y)
    (hkept : ∀ a rest, x = .ok (a, rest) → y = .ok (a, rest ++ back) →
      Cut Grown' back (f (a, rest)) (g (a, rest ++ back)))
    (hended : ∀ a b rest, Grown a b → Visible back → Cut Grown' back (f (a, [])) (g (b, rest))) :
    Cut Grown' back (x.bind f) (y.bind g) := by
  cases h with
  | refused x fault => exact .refused _ fault
  | kept a rest => exact hkept a rest rfl rfl
  | broken hkind hback => exact .broken hkind hback _
  | ended hgrown hback rest => exact hended _ _ rest hgrown hback

/-- A reading that does not become another one is carried on by the next. -/
theorem next {f g : α × List Char → Reading β} (h : Cut Never back x y)
    (hkept : ∀ a rest, x = .ok (a, rest) → y = .ok (a, rest ++ back) →
      Cut Grown' back (f (a, rest)) (g (a, rest ++ back))) :
    Cut Grown' back (x.bind f) (y.bind g) :=
  h.bind hkept fun _ _ _ hgrown => hgrown.elim

/-- Whatever a reading may become, it is noticed if the next cannot do without a text. -/
theorem closed {f g : α × List Char → Reading β} (h : Cut Grown back x y)
    (hkept : ∀ a rest, x = .ok (a, rest) → y = .ok (a, rest ++ back) →
      Cut Grown' back (f (a, rest)) (g (a, rest ++ back)))
    (hended : ∀ a, BreaksOff (f (a, []))) :
    Cut Grown' back (x.bind f) (y.bind g) := by
  refine h.bind hkept fun a b rest _ hback => ?_
  obtain ⟨fault, hfault, hkind⟩ := hended a
  rw [hfault]
  exact .broken hkind hback _

theorem map {f : α → β} (h : Cut Grown back x y) (hgrown : ∀ a b, Grown a b → Grown' (f a) (f b)) :
    Cut Grown' back (x.map fun (a, rest) => (f a, rest)) (y.map fun (a, rest) => (f a, rest)) := by
  cases h with
  | refused x fault => exact .refused _ fault
  | kept a rest => exact .kept (f a) rest
  | broken hkind hback => exact .broken hkind hback _
  | ended h hback rest => exact .ended (hgrown _ _ h) hback rest

theorem mapError {f : Fault → Fault} (h : Cut Grown back x y)
    (hkind : ∀ fault, (f fault).cause.kind ≠ .misfit) :
    Cut Grown back (x.mapError f) (y.mapError f) := by
  cases h with
  | refused x fault => exact .refused _ (f fault)
  | kept a rest => exact .kept a rest
  | broken _ hback => exact .broken (hkind _) hback _
  | ended h hback rest => exact .ended h hback rest

/-- A reading may end at a cut if nothing is asked about what it may become. -/
theorem ended_always (a : α) (hback : Visible back) (y : Reading α) :
    Cut Always back (.ok (a, [])) y := by
  cases y with
  | error fault => exact .refused _ fault
  | ok found => exact .ended trivial hback found.2

theorem mono {Grown' : α → α → Prop} (h : Cut Grown back x y) (hgrown : ∀ a b, Grown a b → Grown' a b) :
    Cut Grown' back x y := by
  cases h with
  | refused x fault => exact .refused _ fault
  | kept a rest => exact .kept a rest
  | broken hkind hback => exact .broken hkind hback _
  | ended h hback rest => exact .ended (hgrown _ _ h) hback rest

end Cut

/-- What is left of a text, as a reading that gives nothing. -/
def rests (x : Except Fault (List Char)) : Reading Unit := x.map fun rest => ((), rest)

theorem map_eq_rests_map (x : Except Fault (List Char)) (a : α) :
    x.map (fun rest => (a, rest)) = (rests x).map fun (_, rest) => (a, rest) := by
  cases x with
  | error fault => rfl
  | ok rest => rfl

theorem bind_eq_rests_bind (x : Except Fault (List Char)) (f : List Char → Reading α) :
    x.bind f = (rests x).bind fun (_, rest) => f rest := by
  cases x with
  | error fault => rfl
  | ok rest => rfl

theorem rests_bind (x : Except Fault (List Char)) (f : List Char → Except Fault (List Char)) :
    rests (x.bind f) = (rests x).bind fun (_, rest) => rests (f rest) := by
  cases x with
  | error fault => rfl
  | ok rest => rfl

section Blanks
variable {front back : List Char} {c : Char}

theorem not_blank_of_skipBlank {text rest : List Char} (h : skipBlank text = c :: rest) :
    isBlank c = false := by
  have hhead := List.head?_dropWhile_not isBlank text
  rw [show text.dropWhile isBlank = c :: rest from h] at hhead
  simpa using hhead

/-- What none of the blanks is can be seen. -/
theorem not_blank_of {p : Char → Prop} (hp : ¬ p ' ' ∧ ¬ p '\n' ∧ ¬ p '\t' ∧ ¬ p '\r') (h : p c) :
    isBlank c = false := by
  obtain ⟨hspace, hline, htab, hreturn⟩ := hp
  have hother (d : Char) (hd : ¬ p d) : c ≠ d := by
    rintro rfl
    exact hd h
  simp [isBlank, hother ' ' hspace, hother '\n' hline, hother '\t' htab, hother '\r' hreturn]

theorem visible_cons (h : isBlank c = false) (rest : List Char) : Visible (c :: rest) :=
  ⟨c, List.mem_cons_self, h⟩

theorem visible_iff_skipBlank : Visible back ↔ skipBlank back ≠ [] := by
  rw [skipBlank, ne_eq, List.dropWhile_eq_nil_iff, Visible]
  simp

/-- What can be seen before a cut is found in spite of it. -/
theorem skipBlank_append_of_cons {rest : List Char} (h : skipBlank front = c :: rest) :
    skipBlank (front ++ back) = c :: (rest ++ back) := by
  rw [skipBlank, List.dropWhile_append, show front.dropWhile isBlank = c :: rest from h]
  rfl

theorem skipBlank_append_of_nil (h : skipBlank front = []) :
    skipBlank (front ++ back) = skipBlank back := by
  rw [skipBlank, List.dropWhile_append, show front.dropWhile isBlank = [] from h]
  rfl

/-- Blanks may be passed over first if the reading behind them cannot do without a text. -/
theorem bearsCuts_skipBlank {Grown : α → α → Prop} {read : List Char → Reading α}
    (hnil : BreaksOff (read []))
    (hcons : ∀ c front back, isBlank c = false →
      Cut Grown back (read (c :: front)) (read (c :: (front ++ back)))) :
    BearsCuts Grown fun text => read (skipBlank text) := by
  intro front back
  dsimp only
  obtain ⟨fault, hnil, hkind⟩ := hnil
  cases hfront : skipBlank front with
  | nil =>
    rw [skipBlank_append_of_nil hfront, hnil]
    refine .of_error hkind fun b rest hok => visible_iff_skipBlank.2 fun hback => ?_
    rw [hback, hnil] at hok
    cases hok
  | cons c rest =>
    rw [skipBlank_append_of_cons hfront]
    exact hcons c rest back (not_blank_of_skipBlank hfront)

end Blanks

section Words

theorem bearsCuts_readLetters {letters : List Char} (h : ∀ c ∈ letters, isBlank c = false) :
    BearsCuts Never fun text => rests (readLetters letters text) := by
  intro front back
  dsimp only
  induction letters generalizing front with
  | nil => exact .kept () front
  | cons e letters ih =>
    cases front with
    | nil =>
      refine .of_error (by decide) fun _ rest hok => ?_
      cases back with
      | nil => cases hok
      | cons c back =>
        rw [List.nil_append, readLetters] at hok
        split at hok
        · rename_i hsame
          exact visible_cons (hsame ▸ h e List.mem_cons_self) back
        · cases hok
    | cons c front =>
      rw [List.cons_append, readLetters, readLetters]
      split
      · exact ih (fun c hc => h c (List.mem_cons_of_mem _ hc)) front
      · exact .refused _ _

end Words

section Strings
variable {text rest : List Char}

theorem hexFault_kind (text : List Char) : (hexFault text).cause.kind ≠ .misfit := by
  unfold hexFault
  split
  · nofun
  · nofun

theorem not_blank_of_hexDigit? {c : Char} {n : Nat} (h : hexDigit? c = some n) :
    isBlank c = false :=
  not_blank_of (p := fun c => hexDigit? c = some n) ⟨nofun, nofun, nofun, nofun⟩ h

theorem exists_of_readHex {n : Nat} (h : readHex text = .ok (n, rest)) :
    ∃ digits, text = digits ++ rest ∧ digits.length = 4 ∧ ∀ c ∈ digits, isBlank c = false := by
  unfold readHex at h
  split at h
  · rename_i a b c d left
    split at h
    · rename_i hvalue
      cases h
      simp only [hexValue?, Option.bind_eq_bind, Option.bind_eq_some_iff] at hvalue
      obtain ⟨_, ha, _, hb, _, hc, _, hd, -⟩ := hvalue
      refine ⟨[a, b, c, d], rfl, rfl, ?_⟩
      simp [not_blank_of_hexDigit? ha, not_blank_of_hexDigit? hb, not_blank_of_hexDigit? hc,
        not_blank_of_hexDigit? hd]
    · cases h
  · cases h

/-- Digits that are missing are seen if they come. -/
theorem cut_readHex_of_short {front : List Char} (hfront : readHex front = .error (hexFault front))
    (hshort : front.length < 4) (back : List Char) :
    Cut Never back (readHex front) (readHex (front ++ back)) := by
  rw [hfront]
  refine .of_error (hexFault_kind front) fun n rest hok => ?_
  obtain ⟨digits, htext, hlength, hdigits⟩ := exists_of_readHex hok
  rcases List.append_eq_append_iff.1 htext with ⟨left, rfl, rfl⟩ | ⟨left, rfl, -⟩
  · cases left with
    | nil =>
      rw [List.append_nil] at hlength
      omega
    | cons c left => exact visible_cons (hdigits c (by simp)) _
  · rw [List.length_append] at hshort
    omega

theorem bearsCuts_readHex : BearsCuts Never readHex := by
  intro front back
  rcases front with _ | ⟨a, _ | ⟨b, _ | ⟨c, _ | ⟨d, front⟩⟩⟩⟩
  · exact cut_readHex_of_short rfl (by decide) back
  · exact cut_readHex_of_short rfl (by simp) back
  · exact cut_readHex_of_short rfl (by simp) back
  · exact cut_readHex_of_short rfl (by simp) back
  · simp only [List.cons_append, readHex]
    split
    · exact .kept _ front
    · exact .refused _ _

theorem readTrailingSurrogate_escape (high : Nat) (text : List Char) :
    readTrailingSurrogate high ('\\' :: 'u' :: text) = (readHex text).bind fun (low, rest) =>
      if isTrailingSurrogate low then .ok (joinSurrogates high low, rest)
      else .error (.before .loneSurrogate rest) := by
  rw [readTrailingSurrogate]
  cases readHex text with
  | error fault => rfl
  | ok found => rfl

theorem exists_of_readTrailingSurrogate {high : Nat} {c : Char}
    (h : readTrailingSurrogate high text = .ok (c, rest)) :
    ∃ behind, text = '\\' :: 'u' :: behind := by
  unfold readTrailingSurrogate at h
  split at h
  · cases h
  · cases h
  · exact ⟨_, rfl⟩
  · cases h
  · cases h

theorem bearsCuts_readTrailingSurrogate (high : Nat) :
    BearsCuts Never (readTrailingSurrogate high) := by
  intro front back
  cases hwhole : readTrailingSurrogate high (front ++ back) with
  | error fault => exact .refused _ fault
  | ok found =>
    obtain ⟨behind, htext⟩ := exists_of_readTrailingSurrogate hwhole
    rw [← hwhole]
    rcases front with _ | ⟨_, _ | ⟨_, front⟩⟩
    · obtain rfl : back = '\\' :: 'u' :: behind := htext
      show Cut Never _ (.error (.before .endOfString [])) _
      exact .broken (by nofun) (visible_cons rfl _) _
    · obtain ⟨rfl, rfl⟩ := List.cons.inj htext
      show Cut Never _ (.error (.before .endOfString [])) _
      exact .broken (by nofun) (visible_cons rfl _) _
    · obtain ⟨rfl, htail⟩ := List.cons.inj htext
      obtain ⟨rfl, -⟩ := List.cons.inj htail
      simp only [List.cons_append, readTrailingSurrogate_escape]
      refine (bearsCuts_readHex front back).next fun low rest _ _ => ?_
      dsimp only
      split
      · exact .kept _ rest
      · exact .refused _ _

/-- What follows the `u` of an escape: four digits, and those of the other half if they are one of a
pair. -/
theorem readUnicodeEscape_eq (text : List Char) : readUnicodeEscape text =
    (readHex text).bind fun (n, rest) =>
      if isTrailingSurrogate n then .error (.before .loneSurrogate rest)
      else if isLeadingSurrogate n then readTrailingSurrogate n rest
      else .ok (Char.ofNat n, rest) := by
  rw [readUnicodeEscape]
  cases readHex text with
  | error fault => rfl
  | ok found => rfl

theorem bearsCuts_readUnicodeEscape : BearsCuts Never readUnicodeEscape := by
  intro front back
  rw [readUnicodeEscape_eq, readUnicodeEscape_eq]
  refine (bearsCuts_readHex front back).next fun n rest _ _ => ?_
  dsimp only
  split
  · exact .refused _ _
  · split
    · exact bearsCuts_readTrailingSurrogate n rest back
    · exact .kept _ rest

theorem not_blank_of_simpleEscape? {c e : Char} (h : simpleEscape? c = some e) :
    isBlank c = false :=
  not_blank_of (p := fun c => simpleEscape? c = some e) ⟨nofun, nofun, nofun, nofun⟩ h

theorem readEscape_of_ne {c : Char} (h : c ≠ 'u') (text : List Char) : readEscape (c :: text) =
    match simpleEscape? c with
    | some e => .ok (e, text)
    | none => .error (.next .invalidEscape (c :: text)) := by
  cases hsimple : simpleEscape? c with
  | some e => simp [readEscape, hsimple]
  | none => simp [readEscape, hsimple]

/-- What starts an escape can be seen. -/
theorem visible_of_readEscape {c : Char} (h : readEscape text = .ok (c, rest)) : Visible text := by
  cases text with
  | nil => cases h
  | cons d text =>
    by_cases hcode : d = 'u'
    · exact hcode ▸ visible_cons rfl text
    · rw [readEscape_of_ne hcode] at h
      cases hsimple : simpleEscape? d with
      | none =>
        rw [hsimple] at h
        cases h
      | some e => exact visible_cons (not_blank_of_simpleEscape? hsimple) text

theorem bearsCuts_readEscape : BearsCuts Never readEscape := by
  intro front back
  cases front with
  | nil => exact .of_error nofun fun _ _ hok => visible_of_readEscape hok
  | cons c front =>
    by_cases hcode : c = 'u'
    · subst hcode
      exact bearsCuts_readUnicodeEscape front back
    · rw [List.cons_append, readEscape_of_ne hcode, readEscape_of_ne hcode]
      cases simpleEscape? c with
      | none => exact .refused _ _
      | some e => exact .kept e front

/-- A backslash begins an escape, behind which the string goes on. -/
theorem readString_backslash (text : List Char) : readString ('\\' :: text) =
    (readEscape text).bind fun (c, rest) =>
      (readString rest).map fun (cs, rest) => (c :: cs, rest) := by
  rw [readString]
  split
  · rename_i heq
    rw [heq]
    rfl
  · rename_i heq
    rw [heq]
    rfl

theorem readString_nil : readString [] = .error (.before .endOfString []) := by
  rw [readString]

theorem readString_quote (text : List Char) : readString ('"' :: text) = .ok ([], text) := by
  rw [readString]

theorem readString_other {c : Char} (hquote : c ≠ '"') (hslash : c ≠ '\\') (text : List Char) :
    readString (c :: text) = if isControl c then .error (.next .controlCharacter (c :: text))
      else (readString text).map fun (cs, rest) => (c :: cs, rest) := by
  rw [readString]
  · exact hquote
  · exact hslash

/-- A string has an end. -/
theorem visible_of_readString {cs : List Char} (h : readString text = .ok (cs, rest)) :
    Visible text := by
  fun_induction readString text generalizing cs with
  | case1 => cases h
  | case2 after => exact visible_cons rfl after
  | case3 => cases h
  | case4 after => exact visible_cons rfl after
  | case5 => cases h
  | case6 c after _ _ _ ih =>
    cases hafter : readString after with
    | error fault =>
      rw [hafter] at h
      cases h
    | ok found =>
      rw [hafter] at h
      cases h
      obtain ⟨d, hd, hblank⟩ := ih hafter
      exact ⟨d, List.mem_cons_of_mem _ hd, hblank⟩

theorem bearsCuts_readString : BearsCuts Never readString := by
  intro front back
  induction hlength : front.length using Nat.strongRecOn generalizing front with
  | _ n ih =>
    cases front with
    | nil =>
      rw [readString_nil]
      exact .of_error nofun fun _ _ hok => visible_of_readString hok
    | cons c front =>
      rw [List.cons_append]
      by_cases hquote : c = '"'
      · subst hquote
        rw [readString_quote, readString_quote]
        exact .kept [] front
      by_cases hslash : c = '\\'
      · subst hslash
        rw [readString_backslash, readString_backslash]
        refine (bearsCuts_readEscape front back).next fun e rest hescape _ => ?_
        have hshorter := readEscape_length hescape
        have hrest := ih rest.length (by simp at hlength; omega) rest rfl
        exact hrest.map fun _ _ hgrown => hgrown
      rw [readString_other hquote hslash, readString_other hquote hslash]
      split
      · exact .refused _ _
      · have hfront := ih front.length (by simp at hlength; omega) front rfl
        exact hfront.map fun _ _ hgrown => hgrown

end Strings

end ToolHost.Json
