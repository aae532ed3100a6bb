import ToolHost.Proofs.Json.Sequences

/-! Two readers side by side on one text. One takes everything as it comes and is judged when it is
done; the other judges on its way and stops at what it refuses. Both come to the same. -/
namespace ToolHost.Json

variable {α β σ σ' τ τ' : Type} {judge : σ → Except Cause τ} {judge' : σ' → Except Cause τ'}

/-- A reading and a stricter one of the same text. -/
inductive Agrees (judge : σ → Except Cause τ) : Reading σ → Reading τ → Prop where
  | failed (fault fault' : Fault) : Agrees judge (.error fault) (.error fault')
  | passed {s : σ} {t : τ} (h : judge s = .ok t) (rest : List Char) :
    Agrees judge (.ok (s, rest)) (.ok (t, rest))
  /-- The stricter one may stop anywhere, but it says what the judgement says. -/
  | refused {s : σ} {fault : Fault} (h : judge s = .error fault.cause) (rest : List Char) :
    Agrees judge (.ok (s, rest)) (.error fault)

/-- A reading that gives only what is refused for one reason. -/
def Refuses (judge : σ → Except Cause τ) (cause : Cause) (x : Reading σ) : Prop :=
  ∀ {s : σ} {rest : List Char}, x = .ok (s, rest) → judge s = .error cause

namespace Agrees

variable {x : Reading σ} {y : Reading τ}

theorem refl (x : Reading α) : Agrees .ok x x := by
  cases x with
  | error fault => exact .failed fault fault
  | ok found => exact .passed rfl found.2

theorem bind {f : σ × List Char → Reading σ'} {g : τ × List Char → Reading τ'}
    (h : Agrees judge x y)
    (hpassed : ∀ {s t rest}, x = .ok (s, rest) → judge s = .ok t →
      Agrees judge' (f (s, rest)) (g (t, rest)))
    (hrefused : ∀ {s cause}, judge s = .error cause → ∀ rest, Refuses judge' cause (f (s, rest))) :
    Agrees judge' (x.bind f) (y.bind g) := by
  cases h with
  | failed fault fault' => exact .failed fault fault'
  | passed hs rest => exact hpassed rfl hs
  | @refused s fault hs rest =>
    show Agrees judge' (f (s, rest)) (.error fault)
    cases hnext : f (s, rest) with
    | error fault' => exact .failed fault' fault
    | ok found => exact .refused (hrefused hs rest hnext) found.2

/-- What both do in the same way changes nothing. -/
theorem after {f : α → Reading σ} {g : α → Reading τ} (x : Except Fault α)
    (h : ∀ a, x = .ok a → Agrees judge (f a) (g a)) : Agrees judge (x.bind f) (x.bind g) := by
  cases x with
  | error fault => exact .failed fault fault
  | ok a => exact h a rfl

theorem map {f : σ → σ'} {g : τ → τ'} (h : Agrees judge x y)
    (hjudge : ∀ s, judge' (f s) = (judge s).map g) :
    Agrees judge' (x.map fun (s, rest) => (f s, rest)) (y.map fun (t, rest) => (g t, rest)) := by
  cases h with
  | failed fault fault' => exact .failed fault fault'
  | passed hs rest =>
    refine .passed ?_ rest
    rw [hjudge, hs]
    rfl
  | refused hs rest =>
    refine .refused ?_ rest
    rw [hjudge, hs]
    rfl

theorem read_map {reader : Reader σ} {reader' : Reader τ} {text : List Char} {f : σ → σ'}
    {g : τ → τ'} (h : Agrees judge (reader.read text) (reader'.read text))
    (hjudge : ∀ s, judge' (f s) = (judge s).map g) :
    Agrees judge' ((reader.map f).read text) ((reader'.map g).read text) := by
  rw [Reader.read_map, Reader.read_map]
  exact h.map hjudge

end Agrees

/-- A member as it is taken by both readers. -/
inductive Member.Agrees (judge : σ → Except Cause τ) : Member σ → Member τ → Prop where
  | unknown : Member.Agrees judge .unknown .unknown
  | repeated : Member.Agrees judge .repeated .repeated
  | known {reader : Reader σ} {reader' : Reader τ}
    (h : ∀ text, Json.Agrees judge (reader.read text) (reader'.read text)) :
    Member.Agrees judge (.known reader) (.known reader')

/-- A member of a part of the state. -/
def Member.map (f : α → σ) : Member α → Member σ
  | .unknown => .unknown
  | .repeated => .repeated
  | .known reader => .known (reader.map f)

/-- A member whose value changes nothing about a refusal. -/
def Member.Refuses (judge : σ → Except Cause τ) (cause : Cause) (member : Member σ) : Prop :=
  ∀ {reader : Reader σ}, member = .known reader → ∀ text, Json.Refuses judge cause (reader.read text)

/-- A value that may be given once is taken by both alike. -/
theorem Member.once_agrees {f : σ → σ'} {put : α → σ} {put' : α → τ'} (met : Option α)
    (reader : Reader α) (h : ∀ a, judge' (f (put a)) = .ok (put' a)) :
    ((Member.once met reader put).map f).Agrees judge' (Member.once met reader put') := by
  cases met with
  | some a => exact .repeated
  | none =>
    refine .known fun text => ?_
    rw [Reader.read_map, Reader.read_map, Reader.read_map]
    cases reader.read text with
    | error fault => exact .failed fault fault
    | ok found => exact .passed (h found.1) found.2

theorem Member.map_refuses {f : α → σ} {cause : Cause} (h : ∀ a, judge (f a) = .error cause)
    (m : Member α) : (m.map f).Refuses judge cause := by
  intro reader hreader text s rest hread
  cases m with
  | unknown | repeated => cases hreader
  | known inner =>
    cases hreader
    rw [Reader.read_map] at hread
    cases hinner : inner.read text with
    | error fault =>
      rw [hinner] at hread
      cases hread
    | ok found =>
      rw [hinner] at hread
      cases hread
      exact h found.1

section Members

variable {member : σ → String → Member σ} {member' : τ → String → Member τ} {s : σ} {t : τ}
  {cause : Cause}

theorem Member.Agrees.readValue {m : Member σ} {m' : Member τ} (h : m.Agrees judge m')
    (hs : judge s = .ok t) (key : String) (text : List Char) :
    Json.Agrees judge (m.readValue s key text) (m'.readValue t key text) := by
  cases h with
  | unknown =>
    refine Json.Agrees.after _ fun rest _ => ?_
    cases skipValue rest with
    | error fault => exact .failed fault fault
    | ok rest => exact .passed hs rest
  | repeated => exact .failed _ _
  | known hread => exact Json.Agrees.after _ fun rest _ => hread rest

theorem Member.Refuses.readValue {m : Member σ} (h : m.Refuses judge cause)
    (hs : judge s = .error cause) (key : String) (text : List Char) :
    Json.Refuses judge cause (m.readValue s key text) := by
  intro s' rest hvalue
  cases m with
  | unknown =>
    obtain ⟨left, -, hskip⟩ := exists_of_bind_eq_ok hvalue
    match hv : skipValue left, hskip with
    | .ok _, hskip =>
      cases hskip
      exact hs
  | repeated => cases hvalue
  | known reader =>
    obtain ⟨left, -, hread⟩ := exists_of_bind_eq_ok hvalue
    exact h rfl left hread

variable (hrefuses : ∀ {s cause}, judge s = .error cause → ∀ key, (member s key).Refuses judge cause)
include hrefuses

/-- What is refused once stays refused, whatever members follow. -/
theorem readMembers_refuses (hs : judge s = .error cause) (first : Bool) (text : List Char) :
    Refuses judge cause (readMembers member first s text) := by
  intro s' rest h
  fun_induction readMembers member first s text with
  | case1 | case3 | case4 => cases h
  | case2 =>
    cases h
    exact hs
  | case5 _ s text _ _ key _ _ next _ hvalue ih =>
    have hrefused : (member s (String.ofList key)).Refuses judge cause := hrefuses hs _
    exact ih (hrefused.readValue hs (String.ofList key) _ hvalue) h

theorem readMembers_agrees
    (hagrees : ∀ {s t}, judge s = .ok t → ∀ key, (member s key).Agrees judge (member' t key))
    (hs : judge s = .ok t) (first : Bool) (text : List Char) :
    Agrees judge (readMembers member first s text) (readMembers member' first t text) := by
  induction hlength : text.length using Nat.strongRecOn generalizing first s t text with
  | _ n ih =>
    rw [readMembers_eq, readMembers_eq member']
    refine .after _ ?_
    rintro ⟨found, behindQuote⟩ hkey
    cases found with
    | false => exact .passed hs behindQuote
    | true =>
      refine .after _ ?_
      rintro ⟨key, behindKey⟩ hname
      have hvalue := (hagrees hs (String.ofList key)).readValue hs (String.ofList key) behindKey
      refine hvalue.bind (fun hread ht => ?_) fun hcause rest => ?_
      · have hshorter := Nat.lt_trans (Member.readValue_length hread)
          (Nat.lt_trans (readString_length hname) (nextKey_length hkey))
        exact ih _ (hlength ▸ hshorter) ht false _ rfl
      · exact readMembers_refuses hrefuses hcause false rest

end Members

section Lists

/-- The judgement of an element that may be missing. -/
def judgeOption (judge : σ → Except Cause τ) : Option σ → Except Cause (Option τ)
  | none => .ok none
  | some s => (judge s).map some

variable {reader : Reader σ} {reader' : Reader τ}

theorem readElement_agrees (h : ∀ text, Agrees judge (reader.read text) (reader'.read text))
    (first : Bool) (text : List Char) :
    Agrees (judgeOption judge) (readElement first reader text) (readElement first reader' text) := by
  rw [readElement_eq, readElement_eq]
  refine .after _ ?_
  rintro ⟨found, rest⟩ -
  cases found with
  | false => exact .passed (show judgeOption judge none = .ok none from rfl) rest
  | true =>
    dsimp only
    rw [if_pos rfl, if_pos rfl]
    exact (h rest).read_map fun _ => rfl

end Lists

theorem record_agrees {members elements : Reader σ} {members' elements' : Reader τ}
    (hmembers : ∀ text, Agrees judge (members.read text) (members'.read text))
    (helements : ∀ text, Agrees judge (elements.read text) (elements'.read text)) (wanted : String)
    (text : List Char) : Agrees judge ((record wanted members elements).read text)
      ((record wanted members' elements').read text) := by
  by_cases hbrace : ∃ rest, skipBlank text = '\x7b' :: rest
  · obtain ⟨rest, hbrace⟩ := hbrace
    rw [record_of_brace hbrace, record_of_brace hbrace]
    exact hmembers rest
  · by_cases hbracket : ∃ rest, skipBlank text = '[' :: rest
    · obtain ⟨rest, hbracket⟩ := hbracket
      rw [record_of_bracket hbracket, record_of_bracket hbracket]
      exact helements rest
    · rw [not_exists] at hbrace hbracket
      obtain ⟨fault, hfault⟩ := exists_expect_none_error (α := σ) wanted (skipBlank text)
      obtain ⟨fault', hfault'⟩ := exists_expect_none_error (α := τ) wanted (skipBlank text)
      rw [record_of_other hbrace hbracket, record_of_other hbrace hbracket, hfault, hfault']
      exact .failed fault fault'

section Documents

variable {reader : Reader σ} {reader' : Reader τ} {text : List Char} {s : σ} {t : τ} {cause : Cause}

theorem readDocument_eq_ok_iff {a : α} {reader : Reader α} : readDocument reader text = .ok a ↔
    ∃ rest, reader.read text = .ok (a, rest) ∧ skipBlank rest = [] := by
  unfold readDocument
  cases reader.read text with
  | error fault => simp
  | ok found =>
    obtain ⟨b, rest⟩ := found
    dsimp only
    cases hrest : skipBlank rest with
    | nil =>
      constructor
      · intro h
        cases h
        exact ⟨rest, rfl, hrest⟩
      · rintro ⟨_, h, -⟩
        cases h
        rfl
    | cons c more =>
      constructor
      · intro h
        cases h
      · rintro ⟨_, h, hblank⟩
        cases h
        cases hrest.symm.trans hblank

theorem readDocument_error {fault : Fault} (h : reader.read text = .error fault) :
    readDocument reader text = .error fault := by
  simp only [readDocument, h]

variable (h : Agrees judge (reader.read text) (reader'.read text))
include h

theorem Agrees.document_passed (hread : readDocument reader text = .ok s) (hs : judge s = .ok t) :
    readDocument reader' text = .ok t := by
  obtain ⟨rest, hread, hrest⟩ := readDocument_eq_ok_iff.1 hread
  rw [hread] at h
  refine readDocument_eq_ok_iff.2 ⟨rest, ?_, hrest⟩
  generalize reader'.read text = y at h ⊢
  cases h with
  | passed ht => rw [Except.ok.inj (ht.symm.trans hs)]
  | refused ht => cases ht.symm.trans hs

theorem Agrees.document_refused (hread : readDocument reader text = .ok s)
    (hs : judge s = .error cause) :
    ∃ fault, readDocument reader' text = .error fault ∧ fault.cause = cause := by
  obtain ⟨rest, hread, hrest⟩ := readDocument_eq_ok_iff.1 hread
  rw [hread] at h
  generalize hother : reader'.read text = y at h
  cases h with
  | passed ht => cases ht.symm.trans hs
  | @refused _ fault ht =>
    exact ⟨fault, readDocument_error hother, Except.error.inj (ht.symm.trans hs)⟩

theorem Agrees.exists_of_document (hread : readDocument reader' text = .ok t) :
    ∃ s, readDocument reader text = .ok s ∧ judge s = .ok t := by
  obtain ⟨rest, hread, hrest⟩ := readDocument_eq_ok_iff.1 hread
  rw [hread] at h
  generalize hother : reader.read text = x at h
  cases h with
  | @passed s _ ht => exact ⟨s, readDocument_eq_ok_iff.2 ⟨rest, hother, hrest⟩, ht⟩

end Documents
end ToolHost.Json
