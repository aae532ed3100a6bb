import ToolHost.Proofs.Json.CutParts
import ToolHost.Proofs.Json.Grammar

/-! What readers take the values of a text for. The meaning of a value is told without the blanks in
it and without the spelling of its strings; the members of an object are given by what their keys
spell and by the texts of their values. -/
namespace ToolHost.Json

variable {α β σ : Type} {text rest : List Char}

section Values

/-- A reader takes values for what they mean, with the blanks before them. -/
structure Reader.Means (reader : Reader α) (Meaning : α → List Char → Prop) : Prop where
  value : ∀ {a : α} {v : List Char}, Meaning a v → Value v
  exact : Exact reader.read EndsNumber fun a => Led (Meaning a)

variable {reader : Reader α} {Meaning : α → List Char → Prop}

theorem exact_check {judge : α → List Char → Except Fault β} {Judged : α → β → Prop}
    {Ends : List Char → Prop} {Spelled : α → List Char → Prop}
    (h : Exact reader.read Ends Spelled)
    (hjudge : ∀ a rest b, judge a rest = .ok b ↔ Judged a b) :
    Exact (reader.check judge).read Ends fun b t => ∃ a, Spelled a t ∧ Judged a b where
  found {text rest b} hread := by
    rw [Reader.read_check] at hread
    obtain ⟨⟨a, left⟩, hfirst, hsecond⟩ := exists_of_bind_eq_ok hread
    obtain ⟨b', hok, hsame⟩ := exists_of_map_eq_ok hsecond
    cases hsame
    obtain ⟨t, ht, htext⟩ := h.found hfirst
    exact ⟨t, ⟨a, ht, (hjudge _ _ _).1 hok⟩, htext⟩
  reads := by
    rintro t rest b ⟨a, ht, hab⟩ hrest
    rw [Reader.read_check, h.reads ht hrest]
    dsimp only [Except.bind]
    rw [(hjudge a rest b).2 hab]
    rfl

theorem Reader.Means.check {judge : α → List Char → Except Fault β} {Judged : α → β → Prop}
    (h : reader.Means Meaning) (hjudge : ∀ a rest b, judge a rest = .ok b ↔ Judged a b) :
    (reader.check judge).Means fun b v => ∃ a, Meaning a v ∧ Judged a b where
  value := by
    rintro b v ⟨a, hv, -⟩
    exact h.value hv
  exact := (exact_check h.exact hjudge).congr fun b t => by
    constructor
    · rintro ⟨a, ⟨s, v, hs, hv, rfl⟩, hab⟩
      exact ⟨s, v, hs, ⟨a, hv, hab⟩, rfl⟩
    · rintro ⟨s, v, hs, ⟨a, hv, hab⟩, rfl⟩
      exact ⟨a, ⟨s, v, hs, hv, rfl⟩, hab⟩

theorem Reader.Means.map (h : reader.Means Meaning) (f : α → β) :
    (reader.map f).Means fun b v => ∃ a, Meaning a v ∧ f a = b :=
  h.check fun a rest b => by simp

/-- A scalar that says something acceptable. -/
def Accepted (accept : Found → Option α) (a : α) (v : List Char) : Prop :=
  ∃ found, Says found v ∧ accept found = some a

theorem expect_means (wanted : String) (accept : Found → Option α) :
    (expect wanted accept).Means (Accepted accept) where
  value := by
    rintro a v ⟨found, hfound, -⟩
    exact .scalar hfound.scalar
  exact :=
    { found := fun {text rest a} h => by
        rw [read_expect] at h
        obtain ⟨b, hb, htext⟩ := exists_blank text
        obtain ⟨⟨found, left⟩, hfound, haccept⟩ := exists_of_bind_eq_ok h
        generalize skipBlank text = seen at hfound htext
        subst htext
        have hscalar : readScalar seen = .ok (found, left) := by
          unfold readUnbracketed at hfound
          split at hfound
          · cases hfound
          · cases hfound
          · exact hfound
        obtain ⟨v, hv, rfl⟩ := exact_readScalar.found hscalar
        unfold takeFound at haccept
        dsimp only at haccept
        split at haccept
        · rename_i ha
          cases haccept
          exact ⟨b ++ v, ⟨b, v, hb, ⟨found, hv, ha⟩, rfl⟩, by simp⟩
        · cases haccept
      reads := by
        rintro _ rest a ⟨b, v, hb, ⟨found, hv, ha⟩, rfl⟩ hrest
        have hread := exact_readScalar.reads hv hrest
        obtain ⟨c, more, rfl, hblank, hlist, hobject, -⟩ := hv.scalar.exists_cons
        rw [List.append_assoc, read_expect, List.cons_append, hb.skipBlank_cons hblank,
          readUnbracketed_other (fun _ h => hlist (List.cons.inj h).1)
            (fun _ h => hobject (List.cons.inj h).1), ← List.cons_append, hread]
        simp only [takeFound, Except.bind, ha] }

/-- A text tells where its first value ends. -/
theorem unique_value {b b' v v' rest' : List Char} (hb : Blank b) (hb' : Blank b') (hv : Value v)
    (hv' : Value v') (hrest : EndsNumber rest) (hrest' : EndsNumber rest')
    (hsame : b ++ (v ++ rest) = b' ++ (v' ++ rest')) : v = v' ∧ rest = rest' := by
  rw [← List.append_assoc, ← List.append_assoc b'] at hsame
  obtain ⟨-, htext, hleft⟩ := exact_skipValue.unique () () ⟨b, v, hb, hv, rfl⟩
    ⟨b', v', hb', hv', rfl⟩ hrest hrest' hsame
  obtain ⟨c, more, rfl, hblank, -⟩ := hv.exists_cons
  obtain ⟨c', more', rfl, hblank', -⟩ := hv'.exists_cons
  have hseen := congrArg skipBlank htext
  rw [hb.skipBlank_cons hblank, hb'.skipBlank_cons hblank'] at hseen
  exact ⟨hseen, hleft⟩

end Values

section Marks

/-- One mark is taken, with the blanks before it. -/
theorem exact_mark {read : List Char → Except Fault (List Char)} {mark : Char}
    (hblank : isBlank mark = false)
    (h : ∀ text rest, read text = .ok rest ↔ skipBlank text = mark :: rest) :
    Exact (fun text => rests (read text)) Anything fun _ t => ∃ b, Blank b ∧ t = b ++ [mark] where
  found {text rest _} hread := by
    have hseen := (h text rest).1 (ok_of_rests hread)
    obtain ⟨b, hb, htext⟩ := exists_blank text
    exact ⟨b ++ [mark], ⟨b, hb, rfl⟩, by rw [htext, hseen]; simp⟩
  reads := by
    rintro _ rest _ ⟨b, hb, rfl⟩ -
    have hseen := hb.skipBlank_cons hblank rest
    rw [List.append_assoc]
    exact congrArg rests ((h _ rest).2 hseen)

theorem exact_readColon : Exact (fun text => rests (readColon text)) Anything
    fun _ t => ∃ b, Blank b ∧ t = b ++ [':'] := by
  refine exact_mark rfl fun text rest => ?_
  unfold readColon
  split <;> simp_all

theorem exact_closeList : Exact (fun text => rests (closeList text)) Anything
    fun _ t => ∃ b, Blank b ∧ t = b ++ [']'] := by
  refine exact_mark rfl fun text rest => ?_
  unfold closeList
  split <;> simp_all

/-- The next key with what stands before it, up to its quote, or else the end of the object. -/
theorem exact_nextKey (first : Bool) : Exact (nextKey first) Anything fun found t =>
    if found then ∃ lead, Lead first lead ∧ t = lead ++ ['"'] else ∃ b, Blank b ∧ t = b ++ ['\x7d'] where
  found {text rest found} h := by
    obtain ⟨b, hb, htext⟩ := exists_blank text
    unfold nextKey at h
    generalize skipBlank text = seen at h htext
    subst htext
    split at h
    · cases h
    · cases h
      exact ⟨b ++ ['\x7d'], ⟨b, hb, rfl⟩, by simp⟩
    · rename_i c left hend
      cases first with
      | true =>
        rw [if_pos rfl] at h
        split at h
        · rename_i hquote
          subst hquote
          cases h
          exact ⟨b ++ ['"'], ⟨b, .first hb, rfl⟩, by simp⟩
        · cases h
      | false =>
        rw [if_neg (by decide)] at h
        split at h
        · rename_i hcomma
          subst hcomma
          obtain ⟨b', hb', htext⟩ := exists_blank left
          generalize skipBlank left = seen at h htext
          subst htext
          split at h
          · cases h
          · cases h
            exact ⟨b ++ ',' :: b' ++ ['"'], ⟨_, .next hb hb', rfl⟩, by simp⟩
          · cases h
          · cases h
        · cases h
  reads {t rest found} ht _ := by
    cases found with
    | false =>
      obtain ⟨b, hb, rfl⟩ := ht
      have hseen := hb.skipBlank_cons (c := '\x7d') rfl rest
      rw [List.append_assoc]
      show nextKey first (b ++ '\x7d' :: rest) = _
      rw [nextKey, hseen]
      rfl
    | true =>
      obtain ⟨lead, hlead, rfl⟩ := ht
      rw [List.append_assoc]
      show nextKey first (lead ++ '"' :: rest) = _
      cases hlead with
      | first hb =>
        rw [nextKey, hb.skipBlank_cons rfl]
        rfl
      | @next b b' hb hb' =>
        have hseen := hb.skipBlank_cons (c := ',') rfl (b' ++ '"' :: rest)
        have hquote := hb'.skipBlank_cons (c := '"') rfl rest
        rw [List.append_assoc, List.cons_append]
        simp [nextKey, hseen, hquote]

end Marks

section Members

/-- What stands before the value of a member, for what its key spells. -/
def Labelled (key : String) (label : List Char) : Prop :=
  ∃ name b b', Literal key name ∧ Blank b ∧ Blank b' ∧ label = name ++ (b ++ ':' :: b')

/-- The members of an object from some place on, up to its closing brace. -/
inductive Members : Bool → List (String × List Char) → List Char → Prop where
  | ended {first : Bool} {b : List Char} (h : Blank b) : Members first [] b
  | member {first : Bool} {key : String} {ms : List (String × List Char)}
    {lead label v t : List Char} (hlead : Lead first lead) (hlabel : Labelled key label)
    (hvalue : Value v) (later : Members false ms t) :
    Members first ((key, v) :: ms) (lead ++ (label ++ (v ++ t)))

/-- An object with the given members. -/
def Object (ms : List (String × List Char)) (t : List Char) : Prop :=
  ∃ body, Members true ms body ∧ t = '\x7b' :: (body ++ ['\x7d'])

variable {first : Bool} {ms : List (String × List Char)} {t : List Char}

theorem Labelled.label {key : String} {label : List Char} (h : Labelled key label) :
    Label .object label := by
  obtain ⟨name, b, b', hname, hb, hb', rfl⟩ := h
  exact .key hname.quoted hb hb'

theorem Members.derives (h : Members first ms t) : Derives (.items .object first) t := by
  induction h with
  | ended hb => exact .ended hb
  | member hlead hlabel hvalue _ ih => exact .item hlead hlabel.label hvalue ih

theorem Members.endsNumber (h : Members false ms t) (rest : List Char) :
    EndsNumber (t ++ '\x7d' :: rest) :=
  h.derives.endsNumber rest

theorem Object.value {v : List Char} (h : Object ms v) : Value v := by
  obtain ⟨body, hbody, rfl⟩ := h
  exact Derives.bracketed hbody.derives

/-- An object tells what its members are. -/
theorem Members.unique {ms' : List (String × List Char)} {t' rest' : List Char}
    (h : Members first ms t) (h' : Members first ms' t')
    (hsame : t ++ '\x7d' :: rest = t' ++ '\x7d' :: rest') : ms = ms' ∧ rest = rest' := by
  have hend (b rest : List Char) : b ++ '\x7d' :: rest = b ++ ['\x7d'] ++ rest := by simp
  have hnext (lead more : List Char) : lead ++ '"' :: more = lead ++ ['"'] ++ more := by simp
  induction h generalizing ms' t' with
  | @ended first b hb =>
    cases h' with
    | ended hb' =>
      rw [hend b rest, hend t' rest'] at hsame
      obtain ⟨-, -, hrest⟩ := (exact_nextKey first).unique false false
        ⟨b, hb, rfl⟩ ⟨t', hb', rfl⟩ trivial trivial hsame
      exact ⟨rfl, hrest⟩
    | @member _ _ _ lead label v t hlead hlabel =>
      obtain ⟨_, _, _, ⟨name, -, rfl⟩, -, -, rfl⟩ := hlabel
      simp only [List.append_assoc, List.cons_append] at hsame
      rw [hend, hnext lead] at hsame
      obtain ⟨hfound, -⟩ := (exact_nextKey first).unique false true
        ⟨b, hb, rfl⟩ ⟨lead, hlead, rfl⟩ trivial trivial hsame
      cases hfound
  | @member first key ms lead label v t hlead hlabel hvalue later ih =>
    obtain ⟨_, b, c, ⟨name, hname, rfl⟩, hb, hc, rfl⟩ := hlabel
    cases h' with
    | ended hb' =>
      simp only [List.append_assoc, List.cons_append] at hsame
      rw [hend t', hnext lead] at hsame
      obtain ⟨hfound, -⟩ := (exact_nextKey first).unique true false
        ⟨lead, hlead, rfl⟩ ⟨t', hb', rfl⟩ trivial trivial hsame
      cases hfound
    | @member _ key' ms' lead' label' v' t' hlead' hlabel' hvalue' later' =>
      obtain ⟨_, b', c', ⟨name', hname', rfl⟩, hb', hc', rfl⟩ := hlabel'
      simp only [List.append_assoc, List.cons_append, List.nil_append] at hsame
      rw [hnext lead, hnext lead'] at hsame
      -- the texts agree behind the quotes, behind the keys, behind the colons and behind the values
      obtain ⟨-, -, hquote⟩ := (exact_nextKey first).unique true true
        ⟨lead, hlead, rfl⟩ ⟨lead', hlead', rfl⟩ trivial trivial hsame
      have hread := hname.readString (b ++ ':' :: (c ++ (v ++ (t ++ '\x7d' :: rest))))
      rw [hquote, hname'.readString] at hread
      obtain ⟨hkey, hcolon⟩ := Prod.mk.inj (Except.ok.inj hread)
      obtain rfl : key = key' := String.toList_inj.1 hkey.symm
      obtain ⟨-, -, hbehind⟩ := exact_readColon.unique () () ⟨b', hb', rfl⟩
        ⟨b, hb, rfl⟩ trivial trivial (by simpa using hcolon)
      obtain ⟨rfl, hleft⟩ := unique_value hc' hc hvalue' hvalue (later'.endsNumber _)
        (later.endsNumber _) hbehind
      obtain ⟨rfl, hrest⟩ := ih later' hleft.symm
      exact ⟨rfl, hrest⟩

theorem Object.unique {ms' : List (String × List Char)} (h : Object ms t) (h' : Object ms' t) :
    ms = ms' := by
  obtain ⟨body, hbody, rfl⟩ := h
  obtain ⟨body', hbody', hsame⟩ := h'
  exact (hbody.unique hbody' (List.cons.inj hsame).2).1

/-- Steps that are taken for the members of an object, one after the other. -/
inductive Run (Step : String → List Char → σ → σ → Prop) : σ → List (String × List Char) → σ → Prop where
  | nil {s : σ} : Run Step s [] s
  | cons {s mid s' : σ} {key : String} {v : List Char} {ms : List (String × List Char)}
    (h : Step key v s mid) (later : Run Step mid ms s') : Run Step s ((key, v) :: ms) s'

/-- The value of a member with the colon before it. -/
def Valued (Spelled : List Char → Prop) (t : List Char) : Prop :=
  ∃ b b' v, Blank b ∧ Blank b' ∧ Spelled v ∧ t = b ++ ':' :: (b' ++ v)

/-- What the value of a member makes of a state. -/
def Member.Means (m : Member σ) (s : σ) (key : String) (Step : σ → List Char → Prop) : Prop :=
  Exact (fun text => m.readValue s key text) EndsNumber fun s' => Valued fun v => Value v ∧ Step s' v

theorem exact_colon {read : List Char → Reading σ} {Step : σ → List Char → Prop}
    (h : Exact read EndsNumber fun s' => Led fun v => Value v ∧ Step s' v) :
    Exact (fun text => (readColon text).bind read) EndsNumber
      fun s' => Valued fun v => Value v ∧ Step s' v := by
  have hbind := exact_readColon.bind (fun _ => h) fun _ _ => trivial
  have hread : (fun text => (readColon text).bind read) =
      fun text => (rests (readColon text)).bind fun found => read found.2 :=
    funext fun text => bind_eq_rests_bind (readColon text) read
  rw [hread]
  refine hbind.congr fun s' t => ?_
  constructor
  · rintro ⟨_, _, _, ⟨b, hb, rfl⟩, ⟨b', v, hb', hv, rfl⟩, rfl⟩
    exact ⟨b, b', v, hb, hb', hv, by simp⟩
  · rintro ⟨b, b', v, hb, hb', hv, rfl⟩
    exact ⟨(), b ++ [':'], b' ++ v, ⟨b, hb, rfl⟩, ⟨b', v, hb', hv, rfl⟩, by simp⟩

theorem Member.Means.congr {m : Member σ} {s : σ} {key : String} {Step Step' : σ → List Char → Prop}
    (h : m.Means s key Step) (hstep : ∀ s' v, Step s' v ↔ Step' s' v) : m.Means s key Step' := by
  have hsame : Step = Step' := funext fun s' => funext fun v => propext (hstep s' v)
  exact hsame ▸ h

theorem Member.unknown_means (s : σ) (key : String) :
    (Member.unknown : Member σ).Means s key fun s' _ => s' = s := by
  refine exact_colon ⟨fun {text rest s'} h => ?_, ?_⟩
  · rw [map_eq_rests_map] at h
    obtain ⟨⟨_, left⟩, hskip, hsame⟩ := exists_of_map_eq_ok h
    cases hsame
    obtain ⟨t, ⟨b, v, hb, hv, rfl⟩, rfl⟩ := exact_skipValue.found hskip
    exact ⟨b ++ v, ⟨b, v, hb, ⟨hv, rfl⟩, rfl⟩, rfl⟩
  · rintro _ rest _ ⟨b, v, hb, ⟨hv, rfl⟩, rfl⟩ hrest
    have hskip := exact_skipValue.reads (a := ()) ⟨b, v, hb, hv, rfl⟩ hrest
    rw [map_eq_rests_map, hskip]
    rfl

theorem Member.known_means {reader : Reader σ} {Meaning : σ → List Char → Prop}
    (h : reader.Means Meaning) (s : σ) (key : String) :
    (Member.known reader).Means s key Meaning := by
  refine exact_colon (h.exact.congr fun s' t => ?_)
  constructor
  · rintro ⟨b, v, hb, hv, rfl⟩
    exact ⟨b, v, hb, ⟨h.value hv, hv⟩, rfl⟩
  · rintro ⟨b, v, hb, ⟨-, hv⟩, rfl⟩
    exact ⟨b, v, hb, hv, rfl⟩

/-- A member that may be given once. -/
theorem Member.once_means {reader : Reader α} {Meaning : α → List Char → Prop}
    (h : reader.Means Meaning) (met : Option α) (put : α → σ) (s : σ) (key : String) :
    (Member.once met reader put).Means s key
      fun s' v => met = none ∧ ∃ a, Meaning a v ∧ put a = s' := by
  cases met with
  | none =>
    refine (Member.known_means (h.map put) s key).congr fun s' t => ?_
    simp
  | some a =>
    refine ⟨fun {text rest s'} hread => ?_, ?_⟩
    · cases hread
    · rintro t rest s' ⟨_, _, _, _, _, ⟨_, hmet, _⟩, _⟩
      cases hmet

variable {member : σ → String → Member σ} {Step : String → List Char → σ → σ → Prop}

theorem exists_members_of_readMembers {s s' : σ}
    (hmeans : ∀ s key, (member s key).Means s key fun s' v => Step key v s s')
    (h : readMembers member first s text = .ok (s', rest)) :
    ∃ ms body, Members first ms body ∧ Run Step s ms s' ∧ text = body ++ '\x7d' :: rest := by
  induction hlength : text.length using Nat.strongRecOn generalizing first s text with
  | _ n ih =>
    rw [readMembers_eq] at h
    obtain ⟨⟨found, behindQuote⟩, hkey, hmember⟩ := exists_of_bind_eq_ok h
    have hshorter := nextKey_length hkey
    obtain ⟨t, ht, htext⟩ := (exact_nextKey first).found hkey
    cases found with
    | false =>
      cases hmember
      obtain ⟨b, hb, rfl⟩ := ht
      exact ⟨[], b, .ended hb, .nil, by simp [htext]⟩
    | true =>
      obtain ⟨lead, hlead, rfl⟩ := ht
      obtain ⟨⟨key, behindKey⟩, hstring, hvalued⟩ := exists_of_bind_eq_ok hmember
      have hshorter' := readString_length hstring
      obtain ⟨⟨mid, left⟩, hvalue, hlater⟩ := exists_of_bind_eq_ok hvalued
      have hshorter'' := Member.readValue_length hvalue
      obtain ⟨ms, body, hbody, hrun, rfl⟩ := ih left.length (by omega) hlater rfl
      obtain ⟨name, hname, rfl⟩ := exists_characters_of_readString hstring
      obtain ⟨_, ⟨b, b', v, hb, hb', ⟨hv, hstep⟩, rfl⟩, rfl⟩ := (hmeans _ _).found hvalue
      have hlabel : Labelled (String.ofList key) ('"' :: (name ++ ['"']) ++ (b ++ ':' :: b')) :=
        ⟨_, b, b', ⟨name, by rwa [String.toList_ofList], rfl⟩, hb, hb', rfl⟩
      exact ⟨_, _, .member hlead hlabel hv hbody, .cons hstep hrun, by simp [htext]⟩

theorem readMembers_of_run {s s' : σ}
    (hmeans : ∀ s key, (member s key).Means s key fun s' v => Step key v s s')
    (hbody : Members first ms t) (hrun : Run Step s ms s') (rest : List Char) :
    readMembers member first s (t ++ '\x7d' :: rest) = .ok (s', rest) := by
  induction hbody generalizing s with
  | @ended first b hb =>
    cases hrun
    have hend : nextKey first (b ++ ['\x7d'] ++ rest) = .ok (false, rest) :=
      (exact_nextKey first).reads ⟨b, hb, rfl⟩ trivial
    rw [← List.singleton_append, ← List.append_assoc, readMembers_eq, hend]
    rfl
  | @member first key ms lead label v t hlead hlabel hvalue later ih =>
    cases hrun with
    | @cons _ mid _ _ _ _ hstep hlater =>
      obtain ⟨_, b, b', ⟨name, hname, rfl⟩, hb, hb', rfl⟩ := hlabel
      have hkey (more : List Char) : nextKey first (lead ++ ['"'] ++ more) = .ok (true, more) :=
        (exact_nextKey first).reads ⟨lead, hlead, rfl⟩ trivial
      have hread := (hmeans s key).reads ⟨b, b', v, hb, hb', ⟨hvalue, hstep⟩, rfl⟩
        (later.endsNumber rest)
      have htext : lead ++ ('"' :: (name ++ ['"']) ++ (b ++ ':' :: b') ++ (v ++ t)) ++ '\x7d' :: rest =
          lead ++ ['"'] ++ (name ++ '"' :: (b ++ ':' :: (b' ++ v) ++ (t ++ '\x7d' :: rest))) := by
        simp
      rw [htext, readMembers_eq, hkey]
      dsimp only [Except.bind]
      rw [if_pos rfl, hname.readString]
      dsimp only
      rw [String.ofList_toList, hread]
      exact ih hlater

/-- The members of an object are read to its end. -/
theorem exact_members {s : σ}
    (hmeans : ∀ s key, (member s key).Means s key fun s' v => Step key v s s') :
    Exact (members member s).read Anything
      fun s' t => ∃ ms body, Members true ms body ∧ Run Step s ms s' ∧ t = body ++ ['\x7d'] where
  found {text rest s'} h := by
    obtain ⟨ms, body, hbody, hrun, rfl⟩ := exists_members_of_readMembers hmeans h
    exact ⟨body ++ ['\x7d'], ⟨ms, body, hbody, hrun, rfl⟩, by simp⟩
  reads := by
    rintro _ rest s' ⟨ms, body, hbody, hrun, rfl⟩ -
    rw [List.append_assoc]
    exact readMembers_of_run hmeans hbody hrun rest

end Members

section Lists
variable {first : Bool} {lead v p q p' q' t : List Char} {c : Char}

/-- A list of two values. -/
def Pair (p q t : List Char) : Prop :=
  ∃ lead lead' b, Lead true lead ∧ Lead false lead' ∧ Blank b ∧
    t = '[' :: (lead ++ (p ++ (lead' ++ (q ++ (b ++ [']'])))))

theorem Pair.value (h : Pair p q t) (hp : Value p) (hq : Value q) : Value t := by
  obtain ⟨lead, lead', b, hlead, hlead', hb, rfl⟩ := h
  have hsecond : Derives (.items .list false) (lead' ++ ([] ++ (q ++ b))) :=
    .item hlead' .element hq (.ended hb)
  have hboth := Derives.bracketed (.item hlead .element hp hsecond)
  simpa [Bracket.opening, Bracket.closing, Value] using hboth

theorem endsNumber_bracket {b : List Char} (h : Blank b) (rest : List Char) :
    EndsNumber (b ++ ']' :: rest) :=
  h.endsNumber (endsNumber_cons rfl (by decide) rest)

/-- A list of two tells which they are. -/
theorem Pair.unique (h : Pair p q t) (h' : Pair p' q' t) (hp : Value p) (hq : Value q)
    (hp' : Value p') (hq' : Value q') : p = p' ∧ q = q' := by
  obtain ⟨_, _, e, ⟨hb⟩, _ | ⟨hc, hd⟩, he, rfl⟩ := h
  obtain ⟨_, _, e', ⟨hb'⟩, _ | ⟨hc', hd'⟩, he', hsame⟩ := h'
  obtain ⟨rfl, hcomma⟩ := unique_value hb hb' hp hp' (Lead.endsNumber (.next hc hd) _)
    (Lead.endsNumber (.next hc' hd') _) (List.cons.inj hsame).2
  have hseen := congrArg skipBlank hcomma
  rw [List.append_assoc, List.append_assoc, List.cons_append, List.cons_append,
    hc.skipBlank_cons rfl, hc'.skipBlank_cons rfl] at hseen
  obtain ⟨rfl, -⟩ := unique_value hd hd' hq hq' (endsNumber_bracket he []) (endsNumber_bracket he' [])
    (List.cons.inj hseen).2
  exact ⟨rfl, rfl⟩

theorem Lead.append_blank {b : List Char} (h : Lead first lead) (hb : Blank b) :
    Lead first (lead ++ b) := by
  have hboth {c : List Char} (hc : Blank c) : Blank (c ++ b) := by
    intro d hd
    exact (List.mem_append.1 hd).elim (hc d) (hb d)
  cases h with
  | first hc => exact .first (hboth hc)
  | next hc hd =>
    rw [List.append_assoc, List.cons_append]
    exact .next hc (hboth hd)

theorem exists_lead_of_nextElement (h : nextElement first text = .ok (true, rest)) :
    ∃ lead, Lead first lead ∧ text = lead ++ rest := by
  obtain ⟨b, hb, htext⟩ := exists_blank text
  unfold nextElement at h
  generalize skipBlank text = seen at h htext
  subst htext
  split at h
  · cases h
  · cases h
  · rename_i c left hend
    cases first with
    | true =>
      cases h
      exact ⟨b, .first hb, rfl⟩
    | false =>
      rw [if_neg (by decide)] at h
      split at h
      · rename_i hcomma
        subst hcomma
        obtain ⟨b', hb', htext⟩ := exists_blank left
        generalize skipBlank left = seen at h htext
        subst htext
        split at h
        · cases h
        · cases h
        · cases h
          exact ⟨b ++ ',' :: b', .next hb hb', by simp⟩
      · cases h

theorem nextElement_of_lead (h : Lead first lead) (hblank : isBlank c = false) (hc : c ≠ ']')
    (text : List Char) : nextElement first (lead ++ c :: text) = .ok (true, c :: text) := by
  cases h with
  | first hb =>
    have hseen := hb.skipBlank_cons hblank text
    simp [nextElement, hseen]
  | @next b b' hb hb' =>
    have hseen := hb.skipBlank_cons (c := ',') rfl (b' ++ c :: text)
    have hbehind := hb'.skipBlank_cons hblank text
    rw [List.append_assoc, List.cons_append]
    simp [nextElement, hseen, hbehind, hc]

variable {reader : Reader α} {Meaning : α → List Char → Prop} {a : α}

theorem Reader.Means.exists_of_readElement (h : reader.Means Meaning)
    (hread : readElement first reader text = .ok (some a, rest)) :
    ∃ lead v, Lead first lead ∧ Meaning a v ∧ text = lead ++ (v ++ rest) := by
  rw [readElement_eq] at hread
  obtain ⟨⟨found, left⟩, hnext, hfound⟩ := exists_of_bind_eq_ok hread
  cases found with
  | false => cases hfound
  | true =>
    dsimp only at hfound
    rw [if_pos rfl, Reader.read_map] at hfound
    obtain ⟨⟨a, left'⟩, hvalue, hsame⟩ := exists_of_map_eq_ok hfound
    cases hsame
    obtain ⟨lead, hlead, rfl⟩ := exists_lead_of_nextElement hnext
    obtain ⟨_, ⟨b, v, hb, hv, rfl⟩, rfl⟩ := h.exact.found hvalue
    exact ⟨lead ++ b, v, hlead.append_blank hb, hv, by simp⟩

theorem Reader.Means.readElement (h : reader.Means Meaning) (hlead : Lead first lead)
    (hv : Meaning a v) (hrest : EndsNumber rest) :
    readElement first reader (lead ++ (v ++ rest)) = .ok (some a, rest) := by
  have hread := h.exact.reads ⟨[], v, .nil, hv, rfl⟩ hrest
  obtain ⟨c, more, rfl, hblank, hc, -⟩ := (h.value hv).exists_cons
  rw [readElement_eq, List.cons_append, nextElement_of_lead hlead hblank hc]
  dsimp only [Except.bind]
  rw [if_pos rfl, Reader.read_map, ← List.cons_append]
  rw [List.nil_append] at hread
  rw [hread]
  rfl

end Lists

section Records
variable {Inside Within : α → List Char → Prop}

/-- A record is known by its bracket. -/
theorem exact_record {members elements : Reader α} (hmembers : Exact members.read Anything Inside)
    (helements : Exact elements.read Anything Within) (wanted : String) :
    Exact (record wanted members elements).read Anything fun a => Led fun v =>
      (∃ t, Inside a t ∧ v = '\x7b' :: t) ∨ ∃ t, Within a t ∧ v = '[' :: t where
  found {text rest a} h := by
    obtain ⟨b, hb, htext⟩ := exists_blank text
    by_cases hbrace : ∃ left, skipBlank text = '\x7b' :: left
    · obtain ⟨left, hbrace⟩ := hbrace
      rw [record_of_brace hbrace] at h
      obtain ⟨t, ht, rfl⟩ := hmembers.found h
      exact ⟨b ++ '\x7b' :: t, ⟨b, _, hb, .inl ⟨t, ht, rfl⟩, rfl⟩, by rw [htext, hbrace]; simp⟩
    by_cases hbracket : ∃ left, skipBlank text = '[' :: left
    · obtain ⟨left, hbracket⟩ := hbracket
      rw [record_of_bracket hbracket] at h
      obtain ⟨t, ht, rfl⟩ := helements.found h
      exact ⟨b ++ '[' :: t, ⟨b, _, hb, .inr ⟨t, ht, rfl⟩, rfl⟩, by rw [htext, hbracket]; simp⟩
    · rw [not_exists] at hbrace hbracket
      rw [record_of_other hbrace hbracket] at h
      obtain ⟨fault, hfault⟩ := exists_expect_none_error (α := α) wanted (skipBlank text)
      cases h.symm.trans hfault
  reads := by
    rintro _ rest a ⟨b, _, hb, ⟨t, ht, rfl⟩ | ⟨t, ht, rfl⟩, rfl⟩ -
    · rw [List.append_assoc, List.cons_append, record_of_brace (hb.skipBlank_cons rfl _)]
      exact hmembers.reads ht trivial
    · rw [List.append_assoc, List.cons_append, record_of_bracket (hb.skipBlank_cons rfl _)]
      exact helements.reads ht trivial

end Records

end ToolHost.Json
