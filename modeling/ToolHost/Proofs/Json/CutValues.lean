import ToolHost.Proofs.Json.CutNumbers

/-! Values at a cut that have no parts, or that nobody asked for. A word, a string and an open bracket
are noticed when they are cut off, and of all values only a number may end at a cut. -/
namespace ToolHost.Json

variable {α : Type} {text rest : List Char} {c : Char}

section Scalars

/-- A value that ends at a cut and may go on is a number, and of a count it is a count. -/
def Found.Begins (a b : Found) : Prop := ∃ x y : Number, a = x.found ∧ b = y.found ∧ x.Begins y

theorem visible_of_readScalar {found : Found} (h : readScalar text = .ok (found, rest)) :
    Visible text := by
  cases text with
  | nil => cases h
  | cons c text =>
    have hseen := not_blank_of (p := fun c => readScalar (c :: text) = .ok (found, rest))
      ⟨nofun, nofun, nofun, nofun⟩ h
    exact visible_cons hseen text

theorem readScalar_other (hn : c ≠ 'n') (ht : c ≠ 't') (hf : c ≠ 'f') (hq : c ≠ '"') (hm : c ≠ '-')
    (text : List Char) : readScalar (c :: text) =
      if c.isDigit then (readNumber false (c :: text)).map fun (x, rest) => (x.found, rest)
      else .error (.next .expectedValue (c :: text)) := by
  rw [readScalar]
  all_goals assumption

theorem cut_number_found (negative : Bool) (front back : List Char) : Cut Found.Begins back
    ((readNumber negative front).map fun (x, rest) => (x.found, rest))
    ((readNumber negative (front ++ back)).map fun (x, rest) => (x.found, rest)) :=
  (bearsCuts_readNumber negative front back).map fun x y h => ⟨x, y, rfl, rfl, h⟩

theorem cut_word_found {letters : List Char} (h : ∀ c ∈ letters, isBlank c = false) (found : Found)
    (front back : List Char) : Cut Found.Begins back
      ((readLetters letters front).map fun rest => (found, rest))
      ((readLetters letters (front ++ back)).map fun rest => (found, rest)) := by
  rw [map_eq_rests_map, map_eq_rests_map]
  exact (bearsCuts_readLetters h front back).map (f := fun _ => found) fun _ _ hgrown => hgrown.elim

theorem bearsCuts_readScalar : BearsCuts Found.Begins readScalar := by
  intro front back
  cases front with
  | nil => exact .of_error (by nofun) fun _ _ hok => visible_of_readScalar hok
  | cons c front =>
    rw [List.cons_append]
    by_cases hn : c = 'n'
    · exact hn ▸ cut_word_found (by simp [isBlank]) .null front back
    by_cases ht : c = 't'
    · exact ht ▸ cut_word_found (by simp [isBlank]) (.boolean true) front back
    by_cases hf : c = 'f'
    · exact hf ▸ cut_word_found (by simp [isBlank]) (.boolean false) front back
    by_cases hq : c = '"'
    · subst hq
      exact (bearsCuts_readString front back).map (f := fun cs => Found.text (String.ofList cs))
        fun _ _ hgrown => hgrown.elim
    by_cases hm : c = '-'
    · exact hm ▸ cut_number_found true front back
    rw [readScalar_other hn ht hf hq hm, readScalar_other hn ht hf hq hm]
    split
    · exact cut_number_found false (c :: front) back
    · exact .refused _ _

/-- Reads a value that has no parts, and knows lists and objects by their brackets. -/
def readUnbracketed (wanted : String) : List Char → Reading Found
  | '[' :: rest => .error (.before (.invalidType .list wanted) ('[' :: rest))
  | '\x7b' :: rest => .error (.before (.invalidType .object wanted) ('\x7b' :: rest))
  | text => readScalar text

theorem readUnbracketed_other (hlist : ∀ rest, text ≠ '[' :: rest)
    (hobject : ∀ rest, text ≠ '\x7b' :: rest) (wanted : String) :
    readUnbracketed wanted text = readScalar text := by
  rw [readUnbracketed]
  · exact hlist
  · exact hobject

/-- What is said of a value that was read. -/
def takeFound (wanted : String) (accept : Found → Option α) : Found × List Char → Reading α
  | (found, rest) =>
    match accept found with
    | some a => .ok (a, rest)
    | none => .error (.before (.invalidType found wanted) rest)

theorem read_expect (wanted : String) (accept : Found → Option α) (text : List Char) :
    (expect wanted accept).read text =
      (readUnbracketed wanted (skipBlank text)).bind (takeFound wanted accept) := by
  simp only [expect]
  generalize skipBlank text = left
  split
  · rfl
  · rfl
  · rename_i hlist hobject
    rw [readUnbracketed_other hlist hobject]
    cases readScalar left with
    | error fault => rfl
    | ok found => rfl

theorem bearsCuts_readUnbracketed (wanted : String) :
    BearsCuts Found.Begins fun text => readUnbracketed wanted (skipBlank text) := by
  refine bearsCuts_skipBlank ⟨_, rfl, by nofun⟩ ?_
  intro c front back _
  by_cases hlist : c = '['
  · subst hlist
    exact .refused _ _
  by_cases hobject : c = '\x7b'
  · subst hobject
    exact .refused _ _
  have hscalar (text : List Char) : readUnbracketed wanted (c :: text) = readScalar (c :: text) :=
    readUnbracketed_other (fun _ h => hlist (List.cons.inj h).1)
      (fun _ h => hobject (List.cons.inj h).1) wanted
  rw [hscalar, hscalar]
  exact bearsCuts_readScalar (c :: front) back

theorem cut_takeFound (wanted : String) (accept : Found → Option α) (Grown : α → α → Prop)
    (found : Found) (rest back : List Char) : Cut Grown back (takeFound wanted accept (found, rest))
      (takeFound wanted accept (found, rest ++ back)) := by
  unfold takeFound
  dsimp only
  cases accept found with
  | some a => exact .kept a rest
  | none => exact .refused _ _

/-- Where no number is acceptable, no cut leaves another value. -/
theorem bearsCuts_expect (wanted : String) {accept : Found → Option α}
    (h : ∀ x : Number, accept x.found = none) : BearsCuts Never (expect wanted accept).read := by
  intro front back
  rw [read_expect, read_expect]
  refine (bearsCuts_readUnbracketed wanted front back).bind
    (fun found rest _ _ => cut_takeFound wanted accept Never found rest back) ?_
  rintro _ _ rest ⟨x, y, rfl, rfl, -⟩ -
  unfold takeFound
  dsimp only
  rw [h y]
  exact .refused _ _

end Scalars

section SkippedStrings

theorem skipString_nil : skipString [] = .error (.before .endOfString []) := by
  rw [skipString]

theorem skipString_backslash_nil : skipString ['\\'] = .error (.before .endOfString []) := by
  rw [skipString]

theorem skipString_quote (text : List Char) : skipString ('"' :: text) = .ok text := by
  rw [skipString]

theorem rests_skipString_code (text : List Char) : rests (skipString ('\\' :: 'u' :: text)) =
    (readHex text).bind fun (_, rest) => rests (skipString rest) := by
  rw [skipString]
  split
  · rename_i heq
    rw [heq]
    rfl
  · rename_i heq
    rw [heq]
    rfl

theorem skipString_escape (h : c ≠ 'u') (text : List Char) : skipString ('\\' :: c :: text) =
    if (simpleEscape? c).isSome then skipString text
    else .error (.next .invalidEscape (c :: text)) := by
  rw [skipString]
  exact h

theorem skipString_other (hquote : c ≠ '"') (hslash : c ≠ '\\') (text : List Char) :
    skipString (c :: text) = if isControl c then .error (.before .controlCharacter (c :: text))
      else skipString text := by
  rw [skipString]
  · exact hquote
  · exact fun h _ => hslash h
  · exact fun _ h _ => hslash h
  · exact fun _ _ h _ => hslash h

theorem visible_of_skipString (h : skipString text = .ok rest) : Visible text := by
  fun_induction skipString text with
  | case1 => cases h
  | case2 after => exact visible_cons rfl after
  | case3 => cases h
  | case4 => cases h
  | case5 after | case6 c after => exact visible_cons rfl _
  | case7 | case8 => cases h
  | case9 c after _ _ _ _ _ ih =>
    obtain ⟨d, hd, hblank⟩ := ih h
    exact ⟨d, List.mem_cons_of_mem _ hd, hblank⟩

/-- What starts an escape can be seen. -/
theorem visible_of_skipString_backslash (h : skipString ('\\' :: text) = .ok rest) :
    Visible text := by
  cases text with
  | nil =>
    rw [skipString_backslash_nil] at h
    cases h
  | cons c text =>
    by_cases hcode : c = 'u'
    · exact hcode ▸ visible_cons rfl text
    · rw [skipString_escape hcode] at h
      cases hsimple : simpleEscape? c with
      | none =>
        rw [hsimple] at h
        cases h
      | some e => exact visible_cons (not_blank_of_simpleEscape? hsimple) text

theorem ok_of_rests {x : Except Fault (List Char)} {found : Unit} (h : rests x = .ok (found, rest)) :
    x = .ok rest := by
  cases x with
  | error fault => cases h
  | ok left =>
    cases h
    rfl

theorem bearsCuts_skipString : BearsCuts Never fun text => rests (skipString text) := by
  intro front back
  dsimp only
  induction hlength : front.length using Nat.strongRecOn generalizing front with
  | _ n ih =>
    rcases front with _ | ⟨c, front⟩
    · rw [skipString_nil]
      exact .of_error (by nofun) fun _ _ hok => visible_of_skipString (ok_of_rests hok)
    rw [List.cons_append]
    rw [List.length_cons] at hlength
    by_cases hquote : c = '"'
    · subst hquote
      rw [skipString_quote, skipString_quote]
      exact .kept () front
    by_cases hslash : c = '\\'
    · subst hslash
      rcases front with _ | ⟨d, front⟩
      · rw [skipString_backslash_nil]
        exact .of_error (by nofun) fun _ _ hok => visible_of_skipString_backslash (ok_of_rests hok)
      rw [List.cons_append]
      rw [List.length_cons] at hlength
      by_cases hcode : d = 'u'
      · subst hcode
        rw [rests_skipString_code, rests_skipString_code]
        refine (bearsCuts_readHex front back).next fun _ rest hhex _ => ?_
        have hshorter := readHex_length hhex
        exact ih rest.length (by omega) rest rfl
      · rw [skipString_escape hcode, skipString_escape hcode]
        split
        · exact ih front.length (by omega) front rfl
        · exact .refused _ _
    · rw [skipString_other hquote hslash, skipString_other hquote hslash]
      split
      · exact .refused _ _
      · exact ih front.length (by omega) front rfl

end SkippedStrings

section Skipping

theorem skipScalar_other (hn : c ≠ 'n') (ht : c ≠ 't') (hf : c ≠ 'f') (hm : c ≠ '-') (hq : c ≠ '"')
    (text : List Char) : skipScalar (c :: text) =
      if c.isDigit then skipNumber (c :: text) else .error (.next .expectedValue (c :: text)) := by
  rw [skipScalar]
  · rfl
  · exact fun _ h => hn (List.cons.inj h).1
  · exact fun _ h => ht (List.cons.inj h).1
  · exact fun _ h => hf (List.cons.inj h).1
  · exact fun _ h => hm (List.cons.inj h).1
  · exact fun _ h => hq (List.cons.inj h).1

theorem cut_skipScalar (c : Char) (front back : List Char) :
    Cut Always back (rests (skipScalar (c :: front))) (rests (skipScalar (c :: (front ++ back)))) := by
  by_cases hn : c = 'n'
  · exact hn ▸ (bearsCuts_readLetters (by simp [isBlank]) front back).mono fun _ _ h => h.elim
  by_cases ht : c = 't'
  · exact ht ▸ (bearsCuts_readLetters (by simp [isBlank]) front back).mono fun _ _ h => h.elim
  by_cases hf : c = 'f'
  · exact hf ▸ (bearsCuts_readLetters (by simp [isBlank]) front back).mono fun _ _ h => h.elim
  by_cases hm : c = '-'
  · exact hm ▸ bearsCuts_skipNumber front back
  by_cases hq : c = '"'
  · exact hq ▸ (bearsCuts_skipString front back).mono fun _ _ h => h.elim
  rw [skipScalar_other hn ht hf hm hq, skipScalar_other hn ht hf hm hq]
  split
  · exact bearsCuts_skipNumber (c :: front) back
  · exact .refused _ _

/-- What a step does with a character that can be seen, whatever stands behind it. -/
inductive StepForm (opened : List Bracket) (due : Due) (c : Char) : Prop where
  | refuses (h : ∀ text, ∃ fault, SkipState.step ⟨opened, due, c :: text⟩ = .error fault)
  | closes (left : List Bracket)
    (h : ∀ text, SkipState.step ⟨opened, due, c :: text⟩ = .ok ⟨left, .comma, text⟩)
  | goes (now : List Bracket) (next : Due) (hnext : next ≠ .comma)
    (h : ∀ text, SkipState.step ⟨opened, due, c :: text⟩ = .ok ⟨now, next, skipBlank text⟩)
  | key (h : ∀ text, SkipState.step ⟨opened, due, c :: text⟩ = SkipState.takeKey opened text)
  | scalar (h : ∀ text, SkipState.step ⟨opened, due, c :: text⟩ =
      (skipScalar (c :: text)).map (SkipState.ended opened))

theorem stepForm_value (opened : List Bracket) (c : Char) : StepForm opened .value c := by
  by_cases hlist : c = '['
  · exact .goes (.list :: opened) .first (by decide) fun text => by simp [SkipState.step, hlist]
  by_cases hobject : c = '\x7b'
  · exact .goes (.object :: opened) .first (by decide) fun text => by simp [SkipState.step, hobject]
  exact .scalar fun text => by simp [SkipState.step, hlist, hobject]

theorem stepForm_first (opened : List Bracket) (c : Char) : StepForm opened .first c := by
  rcases opened with _ | ⟨_ | _, opened⟩
  · by_cases hlist : c = '['
    · exact .goes [.list] .first (by decide) fun text => by simp [SkipState.step, hlist]
    by_cases hobject : c = '\x7b'
    · exact .goes [.object] .first (by decide) fun text => by simp [SkipState.step, hobject]
    exact .scalar fun text => by simp [SkipState.step, hlist, hobject]
  · by_cases hend : c = ']'
    · exact .closes opened fun text => by simp [SkipState.step, SkipState.ended, hend]
    by_cases hlist : c = '['
    · exact .goes (.list :: .list :: opened) .first (by decide) fun text => by
        simp [SkipState.step, hlist]
    by_cases hobject : c = '\x7b'
    · exact .goes (.object :: .list :: opened) .first (by decide) fun text => by
        simp [SkipState.step, hobject]
    exact .scalar fun text => by simp [SkipState.step, hend, hlist, hobject]
  · by_cases hend : c = '\x7d'
    · exact .closes opened fun text => by simp [SkipState.step, SkipState.ended, hend]
    by_cases hquote : c = '"'
    · exact .key fun text => by simp [SkipState.step, hquote]
    exact .refuses fun text => by simp [SkipState.step, hend, hquote]

theorem stepForm_key (opened : List Bracket) (c : Char) : StepForm opened .key c := by
  rcases opened with _ | ⟨_ | _, opened⟩
  · exact .refuses fun text => by simp [SkipState.step]
  · exact .refuses fun text => by simp [SkipState.step]
  · by_cases hquote : c = '"'
    · exact .key fun text => by simp [SkipState.step, hquote]
    exact .refuses fun text => by simp [SkipState.step, hquote]

theorem stepForm_colon (opened : List Bracket) (c : Char) : StepForm opened .colon c := by
  by_cases hcolon : c = ':'
  · exact .goes opened .value (by decide) fun text => by simp [SkipState.step, hcolon]
  exact .refuses fun text => by simp [SkipState.step, hcolon]

theorem stepForm_comma (opened : List Bracket) (c : Char) : StepForm opened .comma c := by
  rcases opened with _ | ⟨_ | _, opened⟩
  · exact .refuses fun text => by simp [SkipState.step]
  · by_cases hend : c = ']'
    · exact .closes opened fun text => by simp [SkipState.step, SkipState.ended, hend]
    by_cases hcomma : c = ','
    · exact .goes (.list :: opened) .value (by decide) fun text => by simp [SkipState.step, hcomma]
    exact .refuses fun text => by simp [SkipState.step, hend, hcomma]
  · by_cases hend : c = '\x7d'
    · exact .closes opened fun text => by simp [SkipState.step, SkipState.ended, hend]
    by_cases hcomma : c = ','
    · exact .goes (.object :: opened) .key (by decide) fun text => by simp [SkipState.step, hcomma]
    exact .refuses fun text => by simp [SkipState.step, hend, hcomma]

theorem stepForm (opened : List Bracket) (due : Due) (c : Char) : StepForm opened due c := by
  cases due with
  | value => exact stepForm_value opened c
  | first => exact stepForm_first opened c
  | key => exact stepForm_key opened c
  | colon => exact stepForm_colon opened c
  | comma => exact stepForm_comma opened c

/-- A value does not end with its text. -/
theorem breaksOff_step_nil (opened : List Bracket) (due : Due) :
    BreaksOff (SkipState.step ⟨opened, due, []⟩) := by
  have hunclosed : ((opened.head?.map Bracket.unclosed).getD .endOfValue).kind ≠ .misfit := by
    rcases opened with _ | ⟨_ | _, opened⟩ <;> nofun
  cases due with
  | value => exact ⟨_, rfl, by nofun⟩
  | first | key | colon | comma =>
    refine ⟨.before ((opened.head?.map Bracket.unclosed).getD .endOfValue) [], ?_, hunclosed⟩
    rcases opened with _ | ⟨_ | _, opened⟩
    all_goals rfl

/-- Passes over the rest of a value behind one of its steps. -/
def skipOn (opened : List Bracket) (due : Due) (text : List Char) : Except Fault (List Char) :=
  if due = .comma ∧ opened = [] then .ok text else skipFrom ⟨opened, due, skipBlank text⟩

theorem skipFrom_eq (s : SkipState) :
    skipFrom s = s.step.bind fun next => skipOn next.opened next.due next.text := by
  rw [skipFrom]
  split
  · rename_i heq
    rw [heq]
    rfl
  · rename_i heq
    rw [heq]
    rfl

theorem skipBlank_skipBlank (text : List Char) : skipBlank (skipBlank text) = skipBlank text := by
  cases htext : skipBlank text with
  | nil => rfl
  | cons c rest => simp [skipBlank, not_blank_of_skipBlank htext]

theorem skipOn_skipBlank {due : Due} (h : due ≠ .comma) (opened : List Bracket) (text : List Char) :
    skipOn opened due (skipBlank text) = skipOn opened due text := by
  have hopen : ¬ (due = .comma ∧ opened = []) := fun hend => h hend.1
  rw [skipOn, skipOn, if_neg hopen, if_neg hopen, skipBlank_skipBlank]

/-- Behind a key a colon is due. -/
theorem rests_takeKey (opened : List Bracket) (text : List Char) :
    rests ((SkipState.takeKey opened text).bind fun next => skipOn next.opened next.due next.text) =
      (rests (skipString text)).bind fun found => rests (skipOn opened .colon found.2) := by
  have hcolon : Due.colon ≠ .comma := by decide
  rw [SkipState.takeKey]
  cases skipString text with
  | error fault => rfl
  | ok rest => exact congrArg rests (skipOn_skipBlank hcolon opened rest)

/-- Behind a value a comma is due, or nothing. -/
theorem rests_ended (opened : List Bracket) (x : Except Fault (List Char)) :
    rests ((x.map (SkipState.ended opened)).bind fun next =>
        skipOn next.opened next.due next.text) =
      (rests x).bind fun found => rests (skipOn opened .comma found.2) := by
  cases x with
  | error fault => rfl
  | ok rest => rfl

/-- A value may end at a cut, but no bracket does. -/
theorem cut_skipOn_nil (opened : List Bracket) {back : List Char} (hback : Visible back)
    (whole : Reading Unit) : Cut Always back (rests (skipOn opened .comma [])) whole := by
  by_cases hend : opened = []
  · rw [skipOn, if_pos ⟨rfl, hend⟩]
    exact .ended_always () hback _
  · obtain ⟨fault, hfault, hkind⟩ := breaksOff_step_nil opened .comma
    rw [skipOn, if_neg fun h => hend h.2, skipFrom_eq]
    rw [show skipBlank [] = [] from rfl, hfault]
    exact .broken hkind hback _

/-- A step is cut as its text is, if whatever is left of that is. -/
theorem cut_step {opened : List Bracket} {due : Due} {front back : List Char}
    (h : ∀ now next left, left.length < (c :: front).length →
      Cut Always back (rests (skipOn now next left)) (rests (skipOn now next (left ++ back)))) :
    Cut Always back (rests (skipFrom ⟨opened, due, c :: front⟩))
      (rests (skipFrom ⟨opened, due, c :: (front ++ back)⟩)) := by
  rw [skipFrom_eq, skipFrom_eq]
  cases stepForm opened due c with
  | refuses hstep =>
    obtain ⟨fault, hfault⟩ := hstep (front ++ back)
    rw [hfault]
    exact .refused _ fault
  | closes left hstep =>
    rw [hstep, hstep]
    exact h left .comma front (Nat.lt_succ_self _)
  | goes now next hnext hstep =>
    rw [hstep, hstep]
    dsimp only [Except.bind]
    rw [skipOn_skipBlank hnext, skipOn_skipBlank hnext]
    exact h now next front (Nat.lt_succ_self _)
  | key hstep =>
    rw [hstep, hstep, rests_takeKey, rests_takeKey]
    refine (bearsCuts_skipString front back).next fun _ rest hok _ => ?_
    have hshorter := skipString_length (ok_of_rests hok)
    exact h opened .colon rest (Nat.lt_succ_of_lt hshorter)
  | scalar hstep =>
    rw [hstep, hstep, rests_ended, rests_ended]
    refine (cut_skipScalar c front back).bind (fun _ rest hok _ => ?_) fun _ _ _ _ hback => ?_
    · exact h opened .comma rest (skipScalar_length (ok_of_rests hok))
    · exact cut_skipOn_nil opened hback _

theorem cut_skipFrom (opened : List Bracket) (due : Due) (front back : List Char) :
    Cut Always back (rests (skipFrom ⟨opened, due, skipBlank front⟩))
      (rests (skipFrom ⟨opened, due, skipBlank (front ++ back)⟩)) := by
  induction hlength : front.length using Nat.strongRecOn generalizing opened due front with
  | _ n ih =>
    cases hfront : skipBlank front with
    | nil =>
      obtain ⟨fault, hfault, hkind⟩ := breaksOff_step_nil opened due
      rw [skipBlank_append_of_nil hfront, skipFrom_eq, hfault]
      refine .of_error hkind fun _ _ hok => visible_iff_skipBlank.2 fun hback => ?_
      rw [hback, skipFrom_eq, hfault] at hok
      cases hok
    | cons c rest =>
      rw [skipBlank_append_of_cons hfront]
      have hle := skipBlank_length front
      rw [hfront] at hle
      refine cut_step fun now next left hleft => ?_
      rw [skipOn, skipOn]
      split
      · exact .kept () left
      · exact ih left.length (by omega) now next left rfl

theorem bearsCuts_skipValue : BearsCuts Always fun text => rests (skipValue text) :=
  cut_skipFrom [] .value

end Skipping

end ToolHost.Json
