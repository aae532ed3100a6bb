import Mathlib.Data.List.Forall2
import ToolHost.Proofs.Json.Meaning

/-! Texts that present the same thing in different ways. A string may be spelled differently, and the
members of an object may come in another order, with others around them that nobody asks for. -/
namespace ToolHost.Json

variable {α β σ τ : Type} {Same : List Char → List Char → Prop} {Meaning : α → List Char → Prop}

section Values

/-- Two texts are presentations of one thing, so they mean the same. Whatever has a meaning is among
its presentations. -/
structure Presents (Same : List Char → List Char → Prop) (Meaning : α → List Char → Prop) : Prop where
  keeps : ∀ {a : α} {v v' : List Char}, Meaning a v → Same v v' → Meaning a v'
  self : ∀ {a : α} {v : List Char}, Meaning a v → Same v v

theorem Presents.judged (h : Presents Same Meaning) (Judged : α → β → Prop) :
    Presents Same fun b v => ∃ a, Meaning a v ∧ Judged a b where
  keeps := by
    rintro b v v' ⟨a, hv, hab⟩ hsame
    exact ⟨a, h.keeps hv hsame, hab⟩
  self := by
    rintro b v ⟨a, hv, -⟩
    exact h.self hv

/-- Two texts of one value without parts: a string may be spelled in another way. -/
def SameScalar (v v' : List Char) : Prop :=
  (Scalar v ∧ v = v') ∨ ∃ s, Literal s v ∧ Literal s v'

theorem SameScalar.value {v v' : List Char} (h : SameScalar v v') : Value v := by
  obtain ⟨hv, -⟩ | ⟨s, hs, -⟩ := h
  · exact .scalar hv
  · exact .scalar (.string hs.quoted)

theorem SameScalar.says {found : Found} {v v' : List Char} (h : SameScalar v v')
    (hfound : Says found v) : Says found v' := by
  obtain ⟨-, rfl⟩ | ⟨s, hs, hs'⟩ := h
  · exact hfound
  · have hends : EndsNumber [] := nofun
    obtain ⟨rfl, -⟩ := exact_readScalar.unique found (.text s) hfound (.text hs) hends hends rfl
    exact .text hs'

theorem presents_accepted (accept : Found → Option α) : Presents SameScalar (Accepted accept) where
  keeps := by
    rintro a v v' ⟨found, hfound, ha⟩ hsame
    exact ⟨found, hsame.says hfound, ha⟩
  self := by
    rintro a v ⟨found, hfound, -⟩
    exact .inl ⟨hfound.scalar, rfl⟩

end Values

section Members
variable {ms ms' : List (String × List Char)} {name : String} {now : Option α}

/-- The values of all members of a name. -/
def valuesOf (name : String) (ms : List (String × List Char)) : List (List Char) :=
  (ms.filter fun m => m.1 = name).map Prod.snd

theorem valuesOf_cons_self (v : List Char) : valuesOf name ((name, v) :: ms) = v :: valuesOf name ms := by
  simp [valuesOf]

theorem valuesOf_cons_of_ne {key : String} (h : key ≠ name) (v : List Char) :
    valuesOf name ((key, v) :: ms) = valuesOf name ms := by
  simp [valuesOf, h]

theorem mem_valuesOf {v : List Char} : v ∈ valuesOf name ms ↔ (name, v) ∈ ms := by
  simp [valuesOf]

/-- What an object says with the member of a name, which it has once at most. -/
inductive Given (name : String) (Meaning : α → List Char → Prop) (ms : List (String × List Char)) :
    Option α → Prop where
  | absent (h : valuesOf name ms = []) : Given name Meaning ms none
  | present {a : α} {v : List Char} (h : valuesOf name ms = [v]) (hv : Meaning a v) :
    Given name Meaning ms (some a)

/-- What the member of a key does to a field that may be given once. -/
def Fills (name : String) (Meaning : α → List Char → Prop) (key : String) (v : List Char)
    (met now : Option α) : Prop :=
  if key = name then met = none ∧ ∃ a, Meaning a v ∧ now = some a else now = met

theorem Run.prod {Step : String → List Char → σ → σ → Prop} {Step' : String → List Char → τ → τ → Prop}
    {s s' : σ} {t t' : τ} (h : Run Step s ms s') (h' : Run Step' t ms t') :
    Run (fun key v x y => Step key v x.1 y.1 ∧ Step' key v x.2 y.2) (s, t) ms (s', t') := by
  induction h generalizing t with
  | nil =>
    cases h'
    exact .nil
  | cons hstep _ ih =>
    obtain _ | ⟨hstep', hlater⟩ := h'
    exact .cons ⟨hstep, hstep'⟩ (ih hlater)

theorem Run.map {Step : String → List Char → σ → σ → Prop} {Step' : String → List Char → τ → τ → Prop}
    {s s' : σ} (hrun : Run Step s ms s') (f : σ → τ)
    (h : ∀ {key v s s'}, Step key v s s' → Step' key v (f s) (f s')) :
    Run Step' (f s) ms (f s') := by
  induction hrun with
  | nil => exact .nil
  | cons hstep _ ih => exact .cons (h hstep) ih

/-- A field that has been given must not be given again. -/
theorem run_fills_some_iff {a : α} :
    Run (Fills name Meaning) (some a) ms now ↔ valuesOf name ms = [] ∧ now = some a := by
  induction ms with
  | nil =>
    constructor
    · rintro ⟨⟩
      exact ⟨rfl, rfl⟩
    · rintro ⟨-, rfl⟩
      exact .nil
  | cons m ms ih =>
    obtain ⟨key, v⟩ := m
    by_cases hkey : key = name
    · subst hkey
      rw [valuesOf_cons_self]
      constructor
      · intro hrun
        obtain _ | ⟨hstep, -⟩ := hrun
        rw [Fills, if_pos rfl] at hstep
        cases hstep.1
      · rintro ⟨hvalues, -⟩
        cases hvalues
    · rw [valuesOf_cons_of_ne hkey, ← ih]
      constructor
      · intro hrun
        obtain _ | ⟨hstep, hlater⟩ := hrun
        rw [Fills, if_neg hkey] at hstep
        exact hstep ▸ hlater
      · intro hlater
        exact .cons (by rw [Fills, if_neg hkey]) hlater

theorem run_fills_iff : Run (Fills name Meaning) none ms now ↔ Given name Meaning ms now := by
  induction ms with
  | nil =>
    constructor
    · rintro ⟨⟩
      exact .absent rfl
    · intro h
      cases h with
      | absent => exact .nil
      | present hvalues => cases hvalues
  | cons m ms ih =>
    obtain ⟨key, v⟩ := m
    by_cases hkey : key = name
    · subst hkey
      constructor
      · intro hrun
        obtain _ | ⟨hstep, hlater⟩ := hrun
        rw [Fills, if_pos rfl] at hstep
        obtain ⟨-, a, hv, rfl⟩ := hstep
        obtain ⟨hnone, rfl⟩ := run_fills_some_iff.1 hlater
        exact .present (by rw [valuesOf_cons_self, hnone]) hv
      · intro h
        cases h with
        | absent hvalues =>
          rw [valuesOf_cons_self] at hvalues
          cases hvalues
        | @present a w hvalues hw =>
          rw [valuesOf_cons_self] at hvalues
          obtain ⟨rfl, hnone⟩ := List.cons.inj hvalues
          have hstep : Fills key Meaning key v none (some a) := by
            rw [Fills, if_pos rfl]
            exact ⟨rfl, a, hw, rfl⟩
          exact .cons hstep (run_fills_some_iff.2 ⟨hnone, rfl⟩)
    · have hvalues : valuesOf name ((key, v) :: ms) = valuesOf name ms := valuesOf_cons_of_ne hkey v
      have hstep : Fills name Meaning key v none none := by rw [Fills, if_neg hkey]
      constructor
      · intro hrun
        obtain _ | ⟨hfirst, hlater⟩ := hrun
        rw [Fills, if_neg hkey] at hfirst
        subst hfirst
        cases ih.1 hlater with
        | absent h => exact .absent (hvalues.trans h)
        | present h hv => exact .present (hvalues.trans h) hv
      · intro h
        refine .cons hstep (ih.2 ?_)
        cases h with
        | absent h => exact .absent (hvalues.symm.trans h)
        | present h hv => exact .present (hvalues.symm.trans h) hv

/-- Members of two objects that say the same of the names that are known. They may stand in another
order, and all other members may be others. -/
def SameMembers (known : List String) (Same : String → List Char → List Char → Prop)
    (ms ms' : List (String × List Char)) : Prop :=
  ∃ order : List (String × List Char), order.Perm (ms'.filter fun m => m.1 ∈ known) ∧
    List.Forall₂ (fun m m' => m.1 = m'.1 ∧ Same m.1 m.2 m'.2) (ms.filter fun m => m.1 ∈ known) order

variable {known : List String} {SameOf : String → List Char → List Char → Prop}

theorem valuesOf_filter (h : name ∈ known) :
    valuesOf name (ms.filter fun m => m.1 ∈ known) = valuesOf name ms := by
  rw [valuesOf, List.filter_filter, valuesOf]
  congr 1
  refine List.filter_congr fun m _ => ?_
  by_cases hm : m.1 = name
  · simp [hm, h]
  · simp [hm]

theorem forall₂_valuesOf
    (h : List.Forall₂ (fun m m' => m.1 = m'.1 ∧ SameOf m.1 m.2 m'.2) ms ms') (name : String) :
    List.Forall₂ (SameOf name) (valuesOf name ms) (valuesOf name ms') := by
  induction h with
  | nil => exact .nil
  | @cons m m' ms ms' hm _ ih =>
    obtain ⟨key, v⟩ := m
    obtain ⟨_, v'⟩ := m'
    obtain ⟨rfl, hv⟩ := hm
    by_cases hkey : key = name
    · subst hkey
      rw [valuesOf_cons_self, valuesOf_cons_self]
      exact .cons hv ih
    · rw [valuesOf_cons_of_ne hkey, valuesOf_cons_of_ne hkey]
      exact ih

theorem SameMembers.exists_values (h : SameMembers known SameOf ms ms') (hname : name ∈ known) :
    ∃ vs, List.Forall₂ (SameOf name) (valuesOf name ms) vs ∧ vs.Perm (valuesOf name ms') := by
  obtain ⟨order, hperm, hsame⟩ := h
  refine ⟨valuesOf name order, ?_, ?_⟩
  · have hvalues := forall₂_valuesOf hsame name
    rwa [valuesOf_filter hname] at hvalues
  · have hvalues : valuesOf name (ms'.filter fun m => m.1 ∈ known) = valuesOf name ms' :=
      valuesOf_filter hname
    exact hvalues ▸ (hperm.filter _).map Prod.snd

theorem SameMembers.given (h : SameMembers known SameOf ms ms') (hname : name ∈ known)
    (hpresents : Presents (SameOf name) Meaning) (hgiven : Given name Meaning ms now) :
    Given name Meaning ms' now := by
  obtain ⟨vs, hsame, hperm⟩ := h.exists_values hname
  cases hgiven with
  | absent hvalues =>
    rw [hvalues] at hsame
    cases hsame
    exact .absent hperm.symm.eq_nil
  | present hvalues hv =>
    rw [hvalues] at hsame
    obtain _ | ⟨hvv', hnil⟩ := hsame
    cases hnil
    exact .present (List.perm_singleton.1 hperm.symm) (hpresents.keeps hv hvv')

theorem SameMembers.refl (h : ∀ m ∈ ms, m.1 ∈ known → SameOf m.1 m.2 m.2) :
    SameMembers known SameOf ms ms := by
  refine ⟨_, .rfl, List.forall₂_same.2 fun m hm => ⟨rfl, ?_⟩⟩
  obtain ⟨hmem, hknown⟩ := List.mem_filter.1 hm
  exact h m hmem (by simpa using hknown)

/-- The members of a name that say something are presentations of themselves. -/
theorem Given.same_self (hgiven : Given name Meaning ms now) (hpresents : Presents Same Meaning)
    {v : List Char} (hv : (name, v) ∈ ms) : Same v v := by
  have hmem := mem_valuesOf.2 hv
  cases hgiven with
  | absent hvalues =>
    rw [hvalues] at hmem
    cases hmem
  | present hvalues hw =>
    rw [hvalues] at hmem
    obtain rfl := List.mem_singleton.1 hmem
    exact hpresents.self hw

end Members

end ToolHost.Json
