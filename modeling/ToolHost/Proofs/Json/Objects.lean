import ToolHost.Json.Parts
import ToolHost.Proofs.Json.Scalars

/-! Objects as they are written without blanks. An object is read member by member: each member that
is written takes the reader from one state to the next and leaves the rest of the text alone. -/
namespace ToolHost.Json

open Config (printMember printObject)

variable {α β σ : Type}

namespace Reader

/-- A reader that takes a text for a value, whatever comes behind. -/
def Reads (reader : Reader α) (text : List Char) (a : α) : Prop :=
  ∀ rest, EndsNumber rest → reader.read (text ++ rest) = .ok (a, rest)

variable {reader : Reader α} {text : List Char} {a : α}

theorem Reads.check {judge : α → List Char → Except Fault β} {b : β} (h : reader.Reads text a)
    (hjudge : ∀ rest, judge a rest = .ok b) : (reader.check judge).Reads text b := by
  intro rest hrest
  simp only [Reader.check, h rest hrest, hjudge]
  rfl

theorem Reads.map (h : reader.Reads text a) (f : α → β) : (reader.map f).Reads text (f a) :=
  h.check fun _ => rfl

theorem Reads.readDocument (h : reader.Reads text a) : readDocument reader text = .ok a := by
  have hread : reader.read text = .ok (a, []) := by
    simpa using h [] fun _ hc => nomatch hc
  simp [Json.readDocument, hread, skipBlank]

/-- A value that is judged to be wrong is reported at once. -/
theorem Reads.check_error {judge : α → List Char → Except Fault β} {fault : Fault}
    {rest : List Char} (h : reader.Reads text a) (hrest : EndsNumber rest)
    (hjudge : judge a rest = .error fault) :
    (reader.check judge).read (text ++ rest) = .error fault := by
  simp only [Reader.check, h rest hrest, hjudge]
  rfl

theorem map_error {fault : Fault} (h : reader.read text = .error fault) (f : α → β) :
    (reader.map f).read text = .error fault := by
  simp only [Reader.map, Reader.check, h]

end Reader

theorem Denotes.reads_expect {text : List Char} {found : Found} {a : α} (h : Denotes text found)
    (wanted : String) (accept : Found → Option α) (haccept : accept found = some a) :
    (expect wanted accept).Reads text a := by
  intro rest hrest
  obtain ⟨c, hc, hblank, hlist, hobject⟩ := h.starts
  obtain ⟨more, rfl⟩ := List.head?_eq_some_iff.1 hc
  have hread := h.reads hrest
  have hskip : skipBlank (c :: more ++ rest) = c :: (more ++ rest) := by
    simp [skipBlank, hblank]
  simp only [expect, hskip]
  split
  · rename_i heq
    exact absurd (List.cons.inj heq).1 hlist
  · rename_i heq
    exact absurd (List.cons.inj heq).1 hobject
  · rw [← List.cons_append, hread]
    simp [haccept]

/-- A record that is written as an object. -/
theorem Reader.Reads.record {members : Reader α} {text : List Char} {a : α}
    (h : members.Reads text a) (wanted : String) (elements : Reader α) :
    (record wanted members elements).Reads ('\x7b' :: text) a :=
  h

/-- Members written one after the other, with a comma before each but the first. -/
def written (first : Bool) : List (String × List Char) → List Char
  | [] => []
  | (key, value) :: items =>
    (if first then [] else [',']) ++ printMember key value ++ written false items

theorem written_append (first : Bool) (items later : List (String × List Char)) :
    written first (items ++ later) =
      written first items ++ written (first && items.isEmpty) later := by
  induction items generalizing first with
  | nil => simp [written]
  | cons item items ih => simp [written, ih]

theorem printObject_eq (items : List (String × List Char)) :
    printObject (items.map fun i => printMember i.1 i.2) =
      '\x7b' :: (written true items ++ ['\x7d']) := by
  have behind (key : String) (value : List Char) (items : List (String × List Char)) :
      List.intercalate [','] (printMember key value :: items.map fun i => printMember i.1 i.2) =
        printMember key value ++ written false items := by
    induction items generalizing key value with
    | nil => simp [written]
    | cons item items ih =>
      rw [List.map_cons, List.intercalate_cons_cons, ih]
      simp [written]
  cases items with
  | nil => rfl
  | cons item items => simp [printObject, behind, written]

theorem endsNumber_cons {c : Char} (hdigit : c.isDigit = false) (hother : c ∉ ['.', 'e', 'E'])
    (rest : List Char) : EndsNumber (c :: rest) := by
  intro d hd
  obtain rfl : c = d := by simpa using hd
  simpa [hdigit] using hother

theorem endsNumber_written {tail : List Char} (h : EndsNumber tail)
    (items : List (String × List Char)) : EndsNumber (written false items ++ tail) := by
  cases items with
  | nil => exact h
  | cons item items => exact endsNumber_cons rfl (by decide) _

variable {member : σ → String → Member σ}

/-- A written member is found by its key, and what follows is read from the state behind it. -/
theorem readMembers_printMember (first : Bool) (s : σ) (key : String) (value tail : List Char) :
    readMembers member first s
        ((if first then [] else [',']) ++ printMember key value ++ tail) =
      ((member s key).readValue s key (':' :: (value ++ tail))).bind
        fun (s, rest) => readMembers member false s rest := by
  have hkey : nextKey first ((if first then [] else [',']) ++ printMember key value ++ tail) =
      .ok (true, key.toList.flatMap Config.escapeChar ++ '"' :: ':' :: (value ++ tail)) := by
    cases first <;> simp [printMember, Config.printString, nextKey, skipBlank, isBlank]
  have hname := readString_flatMap_escapeChar key.toList (':' :: (value ++ tail))
  rw [readMembers]
  split
  case h_1 | h_2 => simp_all
  case h_3 behindQuote hk =>
    obtain ⟨-, rfl⟩ := Prod.mk.inj (Except.ok.inj (hk.symm.trans hkey))
    split
    · simp_all
    · rename_i name behindKey hs
      obtain ⟨rfl, rfl⟩ := Prod.mk.inj (Except.ok.inj (hs.symm.trans hname))
      rw [String.ofList_toList]
      split
      · rename_i hv
        rw [hv]
        rfl
      · rename_i hv
        rw [hv]
        rfl

/-- Members that a reader knows, one after the other: each takes it from a state to the next. -/
inductive Takes (member : σ → String → Member σ) : σ → List (String × List Char) → σ → Prop where
  | nil {s : σ} : Takes member s [] s
  | cons {s mid s' : σ} {key : String} {value : List Char} {items : List (String × List Char)}
      {reader : Reader σ} (known : member s key = .known reader) (reads : reader.Reads value mid)
      (later : Takes member mid items s') : Takes member s ((key, value) :: items) s'

namespace Takes

variable {s mid s' : σ} {items later : List (String × List Char)}

theorem append (h : Takes member s items mid) (h' : Takes member mid later s') :
    Takes member s (items ++ later) s' := by
  induction h with
  | nil => exact h'
  | cons known reads _ ih => exact .cons known reads (ih h')

theorem readMembers_written (h : Takes member s items s') (first : Bool) {tail : List Char}
    (htail : EndsNumber tail) :
    readMembers member first s (written first items ++ tail) =
      readMembers member (first && items.isEmpty) s' tail := by
  induction h generalizing first with
  | nil => simp [written]
  | @cons s mid s' key value items reader known reads later ih =>
    have hvalue : (member s key).readValue s key (':' :: (value ++ (written false items ++ tail))) =
        .ok (mid, written false items ++ tail) := by
      rw [known]
      exact reads _ (endsNumber_written htail items)
    rw [written, List.append_assoc, readMembers_printMember, hvalue, List.isEmpty_cons,
      Bool.and_false]
    exact ih false

/-- An object of known members is read to its end. -/
theorem reads (h : Takes member s items s') :
    (members member s).Reads (written true items ++ ['\x7d']) s' := by
  intro rest _
  have hbrace : EndsNumber ('\x7d' :: rest) := endsNumber_cons rfl (by decide) rest
  rw [List.append_assoc, List.singleton_append]
  refine (h.readMembers_written true hbrace).trans ?_
  rw [readMembers]
  rfl

/-- What is wrong with the value of the next member is wrong with the object. -/
theorem read_error (h : Takes member s items mid) {key : String} {value rest : List Char}
    {reader : Reader σ} {fault : Fault} (known : member mid key = .known reader)
    (hvalue : reader.read (value ++ '\x7d' :: rest) = .error fault) :
    (members member s).read (written true (items ++ [(key, value)]) ++ '\x7d' :: rest) =
      .error fault := by
  have htail : EndsNumber (written (true && items.isEmpty) [(key, value)] ++ '\x7d' :: rest) := by
    cases items <;> exact endsNumber_cons rfl (by decide) _
  have hread : (member mid key).readValue mid key (':' :: (value ++ '\x7d' :: rest)) =
      .error fault := by
    rw [known]
    exact hvalue
  rw [written_append, List.append_assoc]
  refine (h.readMembers_written true htail).trans ?_
  rw [written, written, List.append_nil, readMembers_printMember, hread]
  rfl

end Takes

end ToolHost.Json
