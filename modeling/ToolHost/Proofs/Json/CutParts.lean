import ToolHost.Proofs.Json.Agreement
import ToolHost.Proofs.Json.CutValues

/-! Objects and lists at a cut. Every reader looks for an end that it has not seen yet, so a cut that it
has come to is noticed, also where a number ends at it. -/
namespace ToolHost.Json

variable {α β σ : Type} {text rest : List Char} {c : Char}

theorem BearsCuts.mono {Grown Grown' : α → α → Prop} {read : List Char → Reading α}
    (h : BearsCuts Grown read) (hgrown : ∀ a b, Grown a b → Grown' a b) : BearsCuts Grown' read :=
  fun front back => (h front back).mono hgrown

/-- A reading that is noticed when it is cut off, as one that need not be. -/
theorem BearsCuts.always {read : List Char → Reading α} (h : BearsCuts Never read) :
    BearsCuts Always read :=
  h.mono fun _ _ _ => trivial

theorem BearsCuts.read_map {Grown : α → α → Prop} {Grown' : β → β → Prop} {reader : Reader α}
    {f : α → β} (h : BearsCuts Grown reader.read) (hgrown : ∀ a b, Grown a b → Grown' (f a) (f b)) :
    BearsCuts Grown' (reader.map f).read := by
  intro front back
  rw [Reader.read_map, Reader.read_map]
  exact (h front back).map hgrown

section Marks

theorem skipBlank_cons (h : isBlank c = false) (text : List Char) :
    skipBlank (c :: text) = c :: text := by
  simp [skipBlank, h]

/-- What a reader does with a mark that can be seen, whatever stands behind it. -/
inductive MarkForm (read : List Char → Reading α) (c : Char) : Prop where
  | refuses (h : ∀ text, ∃ fault, read (c :: text) = .error fault)
  | takes (a : α) (h : ∀ text, read (c :: text) = .ok (a, text))
  | leaves (a : α) (h : ∀ text, read (c :: text) = .ok (a, c :: text))
  /-- Something else is to come behind the mark. -/
  | passes (ahead : List Char → Reading α) (hahead : BearsCuts Never ahead)
    (h : ∀ text, read (c :: text) = ahead text)

/-- A reader that looks for a mark, behind blanks, is not content with a text without one. -/
theorem bearsCuts_of_marks {read : List Char → Reading α}
    (hblank : ∀ text, read (skipBlank text) = read text) (hnil : BreaksOff (read []))
    (hmark : ∀ c, isBlank c = false → MarkForm read c) : BearsCuts Never read := by
  have hcons (c : Char) (front back : List Char) (hc : isBlank c = false) :
      Cut Never back (read (c :: front)) (read (c :: (front ++ back))) := by
    cases hmark c hc with
    | refuses h =>
      obtain ⟨fault, hfault⟩ := h (front ++ back)
      rw [hfault]
      exact .refused _ fault
    | takes a h =>
      rw [h, h]
      exact .kept a front
    | leaves a h =>
      rw [h, h]
      exact .kept a (c :: front)
    | passes ahead hahead h =>
      rw [h, h]
      exact hahead front back
  have hcuts := bearsCuts_skipBlank hnil hcons
  rwa [funext hblank] at hcuts

/-- A key that has to stand behind a comma. -/
def keyAhead (text : List Char) : Reading Bool :=
  match skipBlank text with
  | [] => .error (.before .endOfValue [])
  | '"' :: rest => .ok (true, rest)
  | '\x7d' :: rest => .error (.next .trailingComma ('\x7d' :: rest))
  | rest => .error (.next .keyMustBeString rest)

theorem bearsCuts_keyAhead : BearsCuts Never keyAhead := by
  refine bearsCuts_of_marks ?_ ⟨_, rfl, by nofun⟩ fun c hc => ?_
  · intro text
    rw [keyAhead, skipBlank_skipBlank, keyAhead]
  by_cases hquote : c = '"'
  · exact hquote ▸ .takes true fun _ => rfl
  by_cases hend : c = '\x7d'
  · exact hend ▸ .refuses fun _ => ⟨_, rfl⟩
  exact .refuses fun text => by simp [keyAhead, skipBlank_cons hc, hquote, hend]

theorem bearsCuts_nextKey (first : Bool) : BearsCuts Never (nextKey first) := by
  refine bearsCuts_of_marks ?_ ⟨_, rfl, by nofun⟩ fun c hc => ?_
  · intro text
    rw [nextKey, skipBlank_skipBlank, nextKey]
  by_cases hend : c = '\x7d'
  · exact hend ▸ .takes false fun _ => rfl
  cases first with
  | true =>
    by_cases hquote : c = '"'
    · exact hquote ▸ .takes true fun _ => rfl
    · exact .refuses fun text => by simp [nextKey, skipBlank_cons hc, hquote]
  | false =>
    by_cases hcomma : c = ','
    · exact hcomma ▸ .passes keyAhead bearsCuts_keyAhead fun _ => rfl
    · exact .refuses fun text => by simp [nextKey, skipBlank_cons hc, hcomma]

/-- An element that has to stand behind a comma. -/
def elementAhead (text : List Char) : Reading Bool :=
  match skipBlank text with
  | [] => .error (.before .endOfValue [])
  | ']' :: rest => .error (.next .trailingComma (']' :: rest))
  | rest => .ok (true, rest)

theorem bearsCuts_elementAhead : BearsCuts Never elementAhead := by
  refine bearsCuts_of_marks ?_ ⟨_, rfl, by nofun⟩ fun c hc => ?_
  · intro text
    rw [elementAhead, skipBlank_skipBlank, elementAhead]
  by_cases hend : c = ']'
  · exact hend ▸ .refuses fun _ => ⟨_, rfl⟩
  exact .leaves true fun text => by simp [elementAhead, skipBlank_cons hc, hend]

theorem bearsCuts_nextElement (first : Bool) : BearsCuts Never (nextElement first) := by
  refine bearsCuts_of_marks ?_ ⟨_, rfl, by nofun⟩ fun c hc => ?_
  · intro text
    rw [nextElement, skipBlank_skipBlank, nextElement]
  by_cases hend : c = ']'
  · exact hend ▸ .leaves false fun _ => rfl
  cases first with
  | true => exact .leaves true fun text => by simp [nextElement, skipBlank_cons hc]
  | false =>
    by_cases hcomma : c = ','
    · exact hcomma ▸ .passes elementAhead bearsCuts_elementAhead fun _ => rfl
    · exact .refuses fun text => by simp [nextElement, skipBlank_cons hc, hcomma]

theorem bearsCuts_readColon : BearsCuts Never fun text => rests (readColon text) := by
  refine bearsCuts_of_marks ?_ ⟨_, rfl, by nofun⟩ fun c hc => ?_
  · intro text
    rw [readColon, skipBlank_skipBlank, readColon]
  by_cases hcolon : c = ':'
  · exact hcolon ▸ .takes () fun _ => rfl
  exact .refuses fun text => by simp [readColon, skipBlank_cons hc, hcolon, rests, Except.map]

theorem bearsCuts_closeList : BearsCuts Never fun text => rests (closeList text) := by
  refine bearsCuts_of_marks ?_ ⟨_, rfl, by nofun⟩ fun c hc => ?_
  · intro text
    rw [closeList, skipBlank_skipBlank, closeList]
  by_cases hend : c = ']'
  · exact hend ▸ .takes () fun _ => rfl
  by_cases hcomma : c = ','
  · exact hcomma ▸ .refuses fun _ => ⟨_, rfl⟩
  exact .refuses fun text => by simp [closeList, skipBlank_cons hc, hend, hcomma, rests, Except.map]

end Marks

section Members
variable {member : σ → String → Member σ}

/-- A member whose value is noticed when it is cut off, unless it is a number. -/
def Member.BearsCuts (m : Member σ) : Prop :=
  ∀ reader : Reader σ, m = .known reader → Json.BearsCuts Always reader.read

theorem Member.BearsCuts.readValue {m : Member σ} (h : m.BearsCuts) (s : σ) (key : String) :
    Json.BearsCuts Always fun text => m.readValue s key text := by
  intro front back
  dsimp only
  cases m with
  | repeated => exact .refused _ _
  | unknown =>
    rw [Member.readValue, Member.readValue, bind_eq_rests_bind, bind_eq_rests_bind]
    refine (bearsCuts_readColon front back).next fun _ rest _ _ => ?_
    dsimp only
    rw [map_eq_rests_map, map_eq_rests_map]
    exact (bearsCuts_skipValue rest back).map (f := fun _ => s) fun _ _ _ => trivial
  | known reader =>
    rw [Member.readValue, Member.readValue, bind_eq_rests_bind, bind_eq_rests_bind]
    refine (bearsCuts_readColon front back).next fun _ rest _ _ => ?_
    exact h reader rfl rest back

theorem Member.once_bearsCuts {reader : Reader α} (h : Json.BearsCuts Always reader.read)
    (met : Option α) (put : α → σ) : (Member.once met reader put).BearsCuts := by
  intro known hknown
  cases met with
  | some a => cases hknown
  | none =>
    cases hknown
    exact h.read_map fun _ _ _ => trivial

theorem readMembers_nil (member : σ → String → Member σ) (first : Bool) (s : σ) :
    readMembers member first s [] = .error (.before .endOfObject []) := by
  rw [readMembers_eq]
  rfl

theorem bearsCuts_readMembers (h : ∀ s key, (member s key).BearsCuts) (first : Bool) (s : σ) :
    BearsCuts Never (readMembers member first s) := by
  intro front back
  induction hlength : front.length using Nat.strongRecOn generalizing first s front with
  | _ n ih =>
    rw [readMembers_eq, readMembers_eq]
    refine (bearsCuts_nextKey first front back).next fun found behindQuote hkey _ => ?_
    cases found with
    | false => exact .kept s behindQuote
    | true =>
      refine (bearsCuts_readString behindQuote back).next fun key behindKey hname _ => ?_
      refine ((h s (String.ofList key)).readValue s (String.ofList key) behindKey back).closed
        (fun s' rest hvalue _ => ?_) fun s' => ?_
      · have hshorter := Nat.lt_trans (Member.readValue_length hvalue)
          (Nat.lt_trans (readString_length hname) (nextKey_length hkey))
        exact ih rest.length (hlength ▸ hshorter) false s' rest rfl
      · exact ⟨_, readMembers_nil member false s', by nofun⟩

end Members

section Lists

theorem bearsCuts_readElement {Grown : α → α → Prop} {Grown' : Option α → Option α → Prop}
    {reader : Reader α} (h : BearsCuts Grown reader.read)
    (hgrown : ∀ a b, Grown a b → Grown' (some a) (some b)) (first : Bool) :
    BearsCuts Grown' (readElement first reader) := by
  intro front back
  rw [readElement_eq, readElement_eq]
  refine (bearsCuts_nextElement first front back).next fun found rest _ _ => ?_
  cases found with
  | false => exact .kept none rest
  | true =>
    dsimp only
    rw [if_pos rfl, if_pos rfl]
    exact h.read_map hgrown rest back

end Lists

/-- A record is known by its bracket. -/
theorem bearsCuts_record {members elements : Reader α} (hmembers : BearsCuts Never members.read)
    (helements : BearsCuts Never elements.read) (wanted : String) :
    BearsCuts Never (record wanted members elements).read := by
  refine bearsCuts_of_marks ?_ ⟨_, rfl, by nofun⟩ fun c hc => ?_
  · intro text
    simp only [record, expect, skipBlank_skipBlank]
  by_cases hbrace : c = '\x7b'
  · exact hbrace ▸ .passes members.read hmembers fun _ => rfl
  by_cases hbracket : c = '['
  · exact hbracket ▸ .passes elements.read helements fun _ => rfl
  refine .refuses fun text => ?_
  have hskip := skipBlank_cons hc text
  rw [record_of_other (fun _ h => hbrace (List.cons.inj (hskip.symm.trans h)).1)
    fun _ h => hbracket (List.cons.inj (hskip.symm.trans h)).1]
  exact exists_expect_none_error wanted _

theorem BearsCuts.check {reader : Reader α} {judge : α → List Char → Except Fault β}
    (h : BearsCuts Never reader.read)
    (hjudge : ∀ {a b rest back}, judge a (rest ++ back) = .ok b → judge a rest = .ok b) :
    BearsCuts Never (reader.check judge).read := by
  intro front back
  rw [Reader.read_check, Reader.read_check]
  refine (h front back).next fun a rest _ _ => ?_
  dsimp only
  cases hwhole : judge a (rest ++ back) with
  | error fault => exact .refused _ fault
  | ok b =>
    rw [hjudge hwhole]
    exact .kept b rest

/-- A document that is cut off is accepted if and only if nothing can be seen of what is missing, and
then it is what it was. Else its text ends too early or is no JSON. -/
theorem readDocument_of_append {reader : Reader α} {front back : List Char} {a : α}
    (h : BearsCuts Never reader.read) (hwhole : readDocument reader (front ++ back) = .ok a) :
    (¬ Visible back ∧ readDocument reader front = .ok a) ∨
      Visible back ∧ BreaksOff (readDocument reader front) := by
  obtain ⟨rest, hread, hrest⟩ := readDocument_eq_ok_iff.1 hwhole
  have hcut := h front back
  rw [hread] at hcut
  generalize hfront : reader.read front = x at hcut
  cases hcut with
  | kept _ left =>
    have hleft : skipBlank left = [] := by
      cases hleft : skipBlank left with
      | nil => rfl
      | cons c more =>
        rw [skipBlank_append_of_cons hleft] at hrest
        cases hrest
    rw [skipBlank_append_of_nil hleft] at hrest
    refine .inl ⟨?_, readDocument_eq_ok_iff.2 ⟨left, hfront, hleft⟩⟩
    rw [visible_iff_skipBlank, not_not]
    exact hrest
  | broken hkind hback => exact .inr ⟨hback, _, readDocument_error hfront, hkind⟩
  | ended hgrown => exact hgrown.elim

end ToolHost.Json
